import InspectionForms.Database.Preparation
import InspectionForms.Store.Basic
import InspectionForms.Timestamp

namespace InspectionForms

/-- A store in a database that another program has made: its tables, of which those for the version and for submissions
are used as if they were our own, whatever they look like. Of the indexes of submissions, some may be damaged. -/
structure ForeignStore where
  tables : Tables
  damaged : List String

namespace ForeignStore

def versionTableName : String := "meta"

def tableName : String := "submissions"

def versionTableStatement : String :=
  "CREATE TABLE meta (
          key TEXT PRIMARY KEY,
          value TEXT NOT NULL
        )"

def tableStatement : String :=
  "CREATE TABLE submissions (
          id INTEGER PRIMARY KEY AUTOINCREMENT,
          form_id TEXT NOT NULL,
          payload_json TEXT NOT NULL,
          status TEXT NOT NULL CHECK(status IN ('draft', 'pending_sync', 'synced')),
          created_at_ms INTEGER NOT NULL,
          updated_at_ms INTEGER NOT NULL
        )"

/-- The statement for the table in which the greatest numbers of other tables are written down. -/
def sequenceStatement : String := "CREATE TABLE sqlite_sequence(name,seq)"

def indexes : List (String × List String) :=
  [("idx_submissions_form_id", ["form_id"]), ("idx_submissions_status", ["status"]),
    ("idx_submissions_created", ["created_at_ms", "id"])]

def columnNames : List String :=
  ["id", "form_id", "payload_json", "status", "created_at_ms", "updated_at_ms"]

def columnList (names : List String) : List StatementPart :=
  (names.map StatementPart.column).intersperse (.text ", ")

def indexParts (index : String × List String) : List StatementPart :=
  [.text ("        CREATE INDEX IF NOT EXISTS " ++ index.1 ++ " ON " ++ tableName ++ "(")] ++
    columnList index.2 ++ [.text ");\n"]

/-- The statements that make the first of some indexes and those behind it, which are handed over together. -/
def indexStatement (isFirst : Bool) (indexes : List (String × List String)) : List StatementPart :=
  let named (index : String × List String) : List StatementPart := indexParts index
  let rest := (indexes.drop 1).flatMap fun index => [.text (String.join ((named index).map StatementPart.spelling))]
  [.text (if isFirst then "\n\n" else "\n")] ++ (indexes.head?.map named).getD [] ++ rest ++ [.text "        "]

def selection : List StatementPart :=
  [.text "SELECT "] ++ columnList columnNames ++ [.text " FROM submissions "]

def listStatement : List StatementPart :=
  selection ++ [.text "WHERE (?1 IS NULL OR ", .column "status", .text "=?1) ORDER BY ", .column "created_at_ms",
    .text " DESC, ", .column "id", .text " DESC LIMIT ?2 OFFSET ?3"]

def rowStatement : List StatementPart := selection ++ [.text "WHERE ", .column "id", .text "=?1"]

def createdStatement : List StatementPart :=
  [.text "SELECT ", .column "created_at_ms", .text " FROM submissions WHERE ", .column "id", .text "=?1"]

def submissions? (store : ForeignStore) : Option Relation := store.tables.relation? tableName

def kind? (store : ForeignStore) (name : String) : Option CatalogKind :=
  (store.tables.catalog.find? fun entry => entry.hasName name && entry.kind != .trigger).map CatalogEntry.kind

/-- A table can be made, unless something else has its name. -/
def requireName (store : ForeignStore) (name : String) : Except RelationError Unit :=
  if store.kind? name = some .index then .error (.indexNamed name) else .ok ()

def register (store : ForeignStore) (kind : CatalogKind) (name tableName statement : String) : ForeignStore :=
  let root := store.tables.catalog.foldl (fun root entry => max root entry.root) 1 + 1
  let entry : CatalogEntry := ⟨kind, name, tableName, root, statement⟩
  { store with tables := { store.tables with catalog := store.tables.catalog ++ [entry] } }

def makeIndex (store : ForeignStore) (isFirst : Bool) (indexes : List (String × List String)) :
    Except RelationError ForeignStore := do
  let some (name, columns) := indexes.head? | return store
  match store.kind? tableName, store.kind? name with
  | some .view, _ => throw .viewNotIndexed
  | _, some .table | _, some .view => throw (.tableNamed name)
  | _, some _ => return store
  | _, none =>
    if let some relation := store.submissions? then
      if relation.module.isSome then throw (.misnamed (.said "virtual tables may not be indexed"))
      relation.definition.require (indexStatement isFirst indexes)
    return store.register .index name tableName
      ("CREATE INDEX " ++ name ++ " ON " ++ tableName ++ "(" ++ ", ".intercalate columns ++ ")")

/-- Carries out a change of a table, after everything has been looked up that it names. -/
def change {α : Type} (store : ForeignStore) (policy : Option Remedy) (event : TriggerEvent) (name : String)
    (columns : List String) (change : Change α) : Except RelationError α × ForeignStore :=
  match store.tables.requireChange policy event name columns with
  | .error error => (.error error, store)
  | .ok () => (store.tables.run change).map id fun tables => { store with tables }

/-- Writes the version down, in place of any other, in a row with the next number. -/
def writeVersion (store : ForeignStore) : Except RelationError ForeignStore :=
  let values := [("key", Cell.ofString "schema_version"), ("value", Cell.ofString Store.currentVersion)]
  let policy := some Remedy.replace
  let insertion := Change.insert store.tables.reaction versionTableName policy [] [] values
  match store.change policy .insertion versionTableName (values.map Prod.fst) insertion with
  | (.ok _, store) => .ok store
  | (.error error, _) => .error error

/-- Makes a table unless something has its name already. -/
def makeTable (store : ForeignStore) (name statement : String) : Except RelationError ForeignStore := do
  store.requireName name
  if (store.kind? name).isSome then return store
  let some definition := TableDefinition.ofText? statement | return store
  let store := store.register .table name name statement
  let store := (CatalogPart.ownIndexes definition).foldl (fun store index => store.register .index index name "") store
  let store := { store with tables := store.tables.add (.ofDefinition definition) }
  if !definition.countsIds || (store.tables.relation? Tables.sequenceName).isSome then return store
  let some sequences := TableDefinition.ofText? sequenceStatement | return store
  let store := store.register .table Tables.sequenceName Tables.sequenceName sequenceStatement
  return { store with tables := store.tables.add (.ofDefinition sequences) }

/-- Opens the store at a time: makes what is missing, and sets the version. -/
def opened (store : ForeignStore) (clock : Int) : Except RelationError ForeignStore := do
  let tables := store.tables.atMoment (.ofString (timestampText clock))
  let store := { store with tables := { tables with lastInserted := 0, changes := 0, totalChanges := 0 } }
  let store ← store.makeTable versionTableName versionTableStatement
  let store ← store.makeTable tableName tableStatement
  let store ← store.makeIndex true indexes
  let store ← store.makeIndex false (indexes.drop 1)
  let store ← store.makeIndex false (indexes.drop 2)
  store.writeVersion

def requireTable (store : ForeignStore) : Except StoreError Relation :=
  match store.submissions? with
  | some relation => .ok relation
  | none => .error .noSuchTable

def spelling (relation : Relation) (name : String) : String :=
  ((relation.definition.column? name).map fun (_, column) => column.name).getD name

/-- An integer in a column, which stands at an index of what has been asked for. -/
def integer (relation : Relation) (row : TableRow) (index : Nat) (name : String) : Except RelationError Int :=
  match relation.cell row name with
  | .integer value => .ok value
  | cell => .error (.wrongKind cell.kindName index (spelling relation name))

def text (relation : Relation) (row : TableRow) (index : Nat) (name : String) : Except RelationError String :=
  match relation.cell row name with
  | .text bytes =>
    match utf8Fault? bytes with
    | none => .ok (textOfBytes bytes)
    | some fault => .error (.notText index fault)
  | cell => .error (.wrongKind cell.kindName index (spelling relation name))

def readRow (relation : Relation) (row : TableRow) : Except StoreError SubmissionRow := do
  let stored : Except RelationError StoredRow := do
    return {
      id := ← integer relation row 0 "id"
      formId := ← text relation row 1 "form_id"
      payloadText := ← text relation row 2 "payload_json"
      statusText := ← text relation row 3 "status"
      createdAt := ← integer relation row 4 "created_at_ms"
      updatedAt := ← integer relation row 5 "updated_at_ms" }
  (← stored.mapError .relation).read

def listsBefore (relation : Relation) (a b : TableRow) : Bool :=
  let precedes (name : String) (a b : TableRow) : Bool :=
    (relation.cell a name).precedes (relation.collation name) (relation.cell b name)
  if precedes "created_at_ms" b a then true
  else if precedes "created_at_ms" a b then false
  else if precedes "id" b a then true
  else if precedes "id" a b then false
  else decide (b.id ≤ a.id)

def requireIndex (store : ForeignStore) (name : String) : Except StoreError Unit :=
  if store.damaged.contains name then .error .malformed else .ok ()

def list (store : ForeignStore) (status : Option Status) (limit : Nat) :
    Except StoreError (List SubmissionRow) := do
  let relation ← store.requireTable
  (relation.definition.require listStatement).mapError .relation
  store.requireIndex "idx_submissions_created"
  let hasStatus (row : TableRow) : Bool :=
    status.all fun status => relation.hasValue "status" (.ofString status.code) row
  (((relation.rows.mergeSort (listsBefore relation)).filter hasStatus).take (min limit Store.maxPage)).mapM
    (readRow relation)

/-- Adds a record and gives back the row it becomes. One without a number is known by the last number given out. -/
def insert (store : ForeignStore) (record : SubmissionRecord) : Except StoreError SubmissionRow × ForeignStore :=
  if record.updatedAt < record.createdAt then (.error .updatedBeforeCreated, store)
  else
    let values := [("form_id", Cell.ofString record.formId), ("payload_json", .ofString record.payload.compact),
      ("status", .ofString record.status.code), ("created_at_ms", .integer record.createdAt),
      ("updated_at_ms", .integer record.updatedAt)]
    let insertion := Change.insert store.tables.reaction tableName none [] [] values
    match store.change none .insertion tableName (values.map Prod.fst) insertion with
    | (.error error, store) => (.error (.relation error), store)
    | (.ok _, changed) =>
      if !store.damaged.isEmpty then (.error .malformed, store) else
      (.ok ⟨changed.tables.lastInserted, record.formId, record.payload, record.status, record.createdAt,
        record.updatedAt⟩, changed)

def add (store : ForeignStore) (record : SubmissionRecord) : Except StoreError Int × ForeignStore :=
  let (result, store) := store.insert record
  (result.map SubmissionRow.id, store)

/-- The row with an id. If several rows have it, the one that has been created first. -/
def firstCreated? (relation : Relation) (id : Int) : Option TableRow :=
  (relation.rows.filter (relation.hasValue "id" (.integer id))).foldl (fun first? row =>
    match first? with
    | none => some row
    | some first =>
      if (relation.cell row "created_at_ms").precedes (relation.collation "created_at_ms")
        (relation.cell first "created_at_ms") then some row else some first) none

def changeStatus (store : ForeignStore) (id : Int) (status : Status) (updatedAt : Int) :
    Except StoreError ForeignStore := do
  let relation ← store.requireTable
  (relation.definition.require createdStatement).mapError .relation
  let some row := firstCreated? relation id | throw .unknownId
  let createdAt ← (integer relation row 0 "created_at_ms").mapError .relation
  if updatedAt < createdAt then throw .updatedBeforeCreated
  let values := [("status", Cell.ofString status.code), ("updated_at_ms", .integer updatedAt)]
  let rows := relation.orderedRows.filter (relation.hasValue "id" (.integer id))
  let names := values.map Prod.fst
  let change := Change.update store.tables.reaction tableName none (fun _ _ => return .ok values) rows
  let (changed, store) := store.change none (.change (some names)) tableName names change
  discard (changed.mapError .relation)
  store.requireIndex "idx_submissions_status"
  return store

/-- Gives a row a new status and a new time of change, and reads it back. The change stands even if the row cannot
be read. -/
def setStatus (store : ForeignStore) (id : Int) (status : Status) (updatedAt : Int) :
    Except StoreError SubmissionRow × ForeignStore :=
  match store.changeStatus id status updatedAt with
  | .error error => (.error error, store)
  | .ok store =>
    let row : Except StoreError SubmissionRow := do
      let relation ← store.requireTable
      (relation.definition.require rowStatement).mapError .relation
      match relation.rows.find? (relation.hasValue "id" (.integer id)) with
      | some row => readRow relation row
      | none => throw .unknownId
    (row, store)

end ForeignStore

end InspectionForms
