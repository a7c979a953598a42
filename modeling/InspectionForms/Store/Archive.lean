import InspectionForms.Store.Content

namespace InspectionForms

def StoredRow.toJson (row : StoredRow) : Json :=
  .ofMembers [("id", .ofInt row.id), ("form", .string row.formId), ("payload", .string row.payloadText),
    ("status", .string row.statusText), ("created", .ofInt row.createdAt), ("updated", .ofInt row.updatedAt)]

def Json.memberString? (json : Json) (name : String) : Option String :=
  match json.member? name with
  | some (.string value) => some value
  | _ => none

def Json.memberInt? (json : Json) (name : String) : Option Int :=
  match json.member? name with
  | some (.number (.integer value _)) => some value
  | _ => none

def StoredRow.ofJson? (json : Json) : Option StoredRow := do
  return {
    id := ← json.memberInt? "id"
    formId := ← json.memberString? "form"
    payloadText := ← json.memberString? "payload"
    statusText := ← json.memberString? "status"
    createdAt := ← json.memberInt? "created"
    updatedAt := ← json.memberInt? "updated" }

def SubmissionTable.toJson (table : SubmissionTable) : Json :=
  .ofMembers [("lastId", .ofNat table.lastId), ("rows", .array (table.rows.map StoredRow.toJson))]

def SubmissionTable.ofJson? (json : Json) : Option SubmissionTable := do
  let lastId ← json.memberInt? "lastId"
  let .array rows ← json.member? "rows" | none
  return ⟨← rows.mapM StoredRow.ofJson?, lastId.toNat⟩

namespace Store

def archive (store : Store) : String :=
  (Json.ofMembers [("version", .string store.versionText),
    ("submissions", .ofOption (store.table.map SubmissionTable.toJson))]).compact

def ofArchive? (text : String) : Option Store := do
  let json ← Json.parse? text
  let versionText ← json.memberString? "version"
  match ← json.member? "submissions" with
  | .null => return ⟨none, versionText⟩
  | table => return ⟨some (← SubmissionTable.ofJson? table), versionText⟩

end Store

def jsonOfBytes (bytes : List UInt8) : Json := .array (bytes.map fun b => .ofNat b.toNat)

def bytesOfJson? : Json → Option (List UInt8)
  | .array items => items.mapM fun
    | .number n => n.toNat?.map UInt8.ofNat
    | _ => none
  | _ => none

def Cell.toJson : Cell → Json
  | null => .null
  | integer value => .ofInt value
  | real negative rank => .ofMembers [("real", .ofNat rank), ("negative", .bool negative)]
  | text bytes => .ofMembers [("text", jsonOfBytes bytes)]
  | blob bytes => .ofMembers [("blob", jsonOfBytes bytes)]

def Cell.ofJson? (json : Json) : Option Cell :=
  match json with
  | .null => some null
  | .number (.integer value _) => some (integer value)
  | json =>
    match json.memberInt? "real", json.member? "text", json.member? "blob" with
    | some rank, _, _ => some (real ((json.member? "negative").any Json.isTruthy) rank.toNat)
    | _, some bytes, _ => (bytesOfJson? bytes).map text
    | _, _, some bytes => (bytesOfJson? bytes).map blob
    | _, _, _ => none

def TableRow.toJson (row : TableRow) : Json := .array (.ofInt row.id :: row.cells.map Cell.toJson)

def TableRow.ofJson? : Json → Option TableRow
  | .array (.number (.integer id _) :: cells) => (cells.mapM Cell.ofJson?).map (⟨id, ·⟩)
  | _ => none

def jsonOfStatements (statements : List (String × String)) : Json :=
  .array (statements.map fun (name, statement) => .array [.string name, .string statement])

def statementsOfJson? : Json → Option (List (String × String))
  | .array items => items.mapM fun
    | .array [.string name, .string statement] => some (name, statement)
    | _ => none
  | _ => none

def jsonOfRows (rows : List TableRow) : Json := .array (rows.map TableRow.toJson)

def rowsOfJson? : Json → Option (List TableRow)
  | .array rows => rows.mapM TableRow.ofJson?
  | _ => none

def jsonOfTriggers (triggers : List Trigger) : Json :=
  jsonOfStatements (triggers.map fun trigger => (trigger.name, trigger.text))

def triggersOfJson? (json : Json) : Option (List Trigger) := do
  (← statementsOfJson? json).mapM fun (name, text) => Trigger.ofText? name text

/-- A table is kept with the statements that have made it, its indexes and its triggers. -/
def Relation.toJson (relation : Relation) : Json :=
  .ofMembers [("statement", .string relation.definition.statement),
    ("indexes", jsonOfStatements relation.definition.indexes), ("rows", jsonOfRows relation.rows),
    ("triggers", jsonOfTriggers relation.triggers)]

def stringsOfJson? : Json → Option (List String)
  | .array items => items.mapM fun
    | .string text => some text
    | _ => none
  | _ => none

def Relation.ofJson? (json : Json) : Option Relation := do
  let statement ← json.memberString? "statement"
  let indexes ← statementsOfJson? (← json.member? "indexes")
  let relation : Relation ← match (SchemaStatement.ofText statement).toOption with
    | some (.table table) => do
      let definition ← (TableDefinition.ofStatement statement table).toOption
      some (Relation.ofDefinition (definition.withIndexes indexes))
    | some (.view view) => some (Relation.ofView statement view)
    | some (.module kept) => some (Relation.ofModule statement kept)
    | _ => none
  return { relation with
    rows := ← rowsOfJson? (← json.member? "rows")
    triggers := ← triggersOfJson? (← json.member? "triggers") }

def CatalogEntry.toJson (entry : CatalogEntry) : Json :=
  .array [.string entry.kind.text, .string entry.name, .string entry.tableName, .ofNat entry.root,
    .string entry.statement]

def CatalogEntry.ofJson? : Json → Option CatalogEntry
  | .array [.string kind, .string name, .string tableName, .number root, .string statement] => do
    return ⟨← CatalogKind.ofText? kind, name, tableName, ← root.toNat?, statement⟩
  | _ => none

namespace ForeignStore

def toJson (store : ForeignStore) : Json :=
  .ofMembers [("catalog", .array (store.tables.catalog.map CatalogEntry.toJson)),
    ("tables", .array (store.tables.relations.map Relation.toJson)), ("damaged", .ofStrings store.damaged)]

def ofJson? (json : Json) : Option ForeignStore := do
  let .array entries ← json.member? "catalog" | none
  let .array relations ← json.member? "tables" | none
  return {
    tables := { Tables.empty with
      catalog := ← entries.mapM CatalogEntry.ofJson?, relations := ← relations.mapM Relation.ofJson? }
    damaged := ← stringsOfJson? (← json.member? "damaged") }

end ForeignStore

namespace StoreContent

def archive : StoreContent → String
  | own store => store.archive
  | foreign store => (Json.ofMembers [("foreign", store.toJson)]).compact

def ofArchive? (text : String) : Option StoreContent :=
  match (Json.parse? text).bind (·.member? "foreign") with
  | some json => (ForeignStore.ofJson? json).map foreign
  | none => (Store.ofArchive? text).map own

end StoreContent

end InspectionForms
