import InspectionForms.Database.Relation
import InspectionForms.Database.Trigger

namespace InspectionForms

/-- A table that is read: its definition, its rows with a value for each column, the greatest number that has been
given out, and its triggers, of which the last is the first one to act. A view has no rows of its own but those that a
query finds, and some tables are kept by a module. -/
structure Relation where
  definition : TableDefinition
  view : Option ViewStatement
  module : Option String
  rows : List TableRow
  lastId : Int
  triggers : List Trigger

/-- The tables of a database with its catalog, the moment that statements take for the present, and the number of the
last row that has been put into a table. `changes` is how many rows the last statement has changed, and `totalChanges`
how many all of them have. In the course of a change, `counted` counts the rows that it has changed, and `debts` those
that do not have the values yet that they refer to. -/
structure Tables where
  catalog : List CatalogEntry
  relations : List Relation
  present : Option Cell
  lastInserted : Int
  changes : Int
  totalChanges : Int
  counted : Int
  debts : Int

namespace Relation

def cell (relation : Relation) (row : TableRow) (name : String) : Cell :=
  match relation.definition.column? name with
  | some (k, _) => row.cells.getD k .null
  | none => .null

def collation (relation : Relation) (name : String) : Collation :=
  ((relation.definition.column? name).map fun (_, column) => column.collation).getD .binary

/-- A value as it is compared with those of a column. Integers are compared with real numbers as they are. -/
def asked (relation : Relation) (name : String) (value : Cell) : Cell :=
  match relation.definition.column? name with
  | some (_, column) => value.adapt (if column.affinity = .real then .numeric else column.affinity)
  | none => value

def hasValue (relation : Relation) (name : String) (value : Cell) (row : TableRow) : Bool :=
  (relation.cell row name).agrees (relation.collation name) (relation.asked name value)

/-- The number that comes next: one above the last row, and above the last one given out if the table counts. If it
does not, and numbers have come to their end, any free one will do. -/
def nextId (relation : Relation) : Except RelationError Int := do
  let last := relation.rows.foldl (fun last row => max last row.id) (-0x8000000000000000)
  let next := if relation.rows.isEmpty then 1 else last + 1
  if relation.definition.countsIds then
    if max next (relation.lastId + 1) < 0x8000000000000000 then return max next (relation.lastId + 1) else throw .full
  else if next < 0x8000000000000000 then return next
  else
    let isFree (n : Nat) : Bool := relation.rows.all fun row => row.id != (n : Int)
    return ((((List.range (relation.rows.length + 2)).drop 1).find? isFree).getD 1 : Nat)

def hasName (name : String) (relation : Relation) : Bool := isSameName relation.definition.name name

def place (relation : Relation) (row : TableRow) : List Cell :=
  if relation.definition.hasRowNumbers then [.integer row.id]
  else relation.definition.primaryKey.map fun k => row.cells.getD k .null

def placeOrder (relation : Relation) : List (Collation × SortDirection) :=
  let collations := if relation.definition.hasRowNumbers then [.binary]
    else relation.definition.primaryKey.map fun k =>
      ((relation.definition.columns[k]?).map TableColumn.collation).getD .binary
  collations.map fun collation => (collation, ⟨false, false⟩)

/-- The rows in the order of their numbers, or of the key by which they are known. -/
def orderedRows (relation : Relation) : List TableRow :=
  relation.rows.mergeSort fun a b => comesBefore relation.placeOrder (relation.place a) (relation.place b)

def fullRow (definition : TableDefinition) (row : TableRow) : QueryRow :=
  (row.cells ++ if definition.hasRowNumbers then [Cell.integer row.id] else []).map .ofCell

/-- A table of which nothing has been read yet but the statement that has made it. -/
def ofDefinition (definition : TableDefinition) : Relation := ⟨definition, none, none, [], 0, []⟩

def plainColumns (names : List String) (isHidden : Bool) : List TableColumn :=
  names.map fun name => ⟨name, "", .binary, none, .null, none, none, false, isHidden⟩

def plainDefinition (name text : String) (columns : List TableColumn) (hasRowNumbers : Bool) : TableDefinition :=
  ⟨name, text, [], columns, [], none, .refuse, false, false, [], hasRowNumbers, TableDefinition.usualNumberNames, [],
    [], []⟩

def ofView (text : String) (statement : ViewStatement) : Relation :=
  { ofDefinition (plainDefinition statement.name text [] false) with view := some statement }

def moduleColumns (statement : ModuleStatement) : List String :=
  (statement.arguments.filter fun argument => !argument.toList.contains '=').filterMap fun argument =>
    ((Lexeme.ofText argument).head?).bind Lexeme.name?

/-- A table that a module keeps. Those for texts have a column with the name of the table for commands, and others that
have to be named. -/
def ofModule (text : String) (statement : ModuleStatement) : Relation :=
  let names := moduleColumns statement
  let kind := lowerAscii statement.module
  let isOld := kind == "fts3" || kind == "fts4"
  let hidden := if kind == "fts5" then [statement.name, "rank"] else if isOld then [statement.name] else []
  let definition := plainDefinition statement.name text (plainColumns names false ++ plainColumns hidden true) true
  let definition : TableDefinition :=
    if kind == "rtree" || kind == "rtree_i32" then { definition with idColumn := some 0 }
    else if isOld then { definition with numberNames := "docid" :: definition.numberNames }
    else definition
  { ofDefinition definition with module := some kind }

def atMoment (present : Cell) (relation : Relation) : Relation :=
  let columns := relation.definition.columns.map (TableColumn.atMoment (some present))
  { relation with definition := { relation.definition with columns } }

def modules : List String := ["fts3", "fts4", "fts5", "rtree", "rtree_i32"]

end Relation

namespace CatalogEntry

def row (entry : CatalogEntry) : QueryRow :=
  [Cell.ofString entry.kind.text, .ofString entry.name, .ofString entry.tableName, .integer entry.root,
    if entry.statement.isEmpty then .null else .ofString entry.statement].map .ofCell

end CatalogEntry

namespace Tables

def empty : Tables := ⟨[], [], none, 0, 0, 0, 0, 0⟩

def atMoment (present : Cell) (tables : Tables) : Tables :=
  { tables with present := some present, relations := tables.relations.map (Relation.atMoment present) }

def ownLayout? (name : String) : Option Layout :=
  let ofNames (names : List String) : Layout := .ofResults none (names.map fun name => ⟨name, none, .binary⟩)
  match lowerAscii name with
  | "sqlite_master" | "sqlite_schema" | "sqlite_temp_master" | "sqlite_temp_schema" =>
    some (ofNames ["type", "name", "tbl_name", "rootpage", "sql"])
  | _ => none

/-- How the rows of a table or a view look. The rows of a view must not be found by way of itself. A bound says how deep
views can go. -/
def layoutOf (tables : Tables) (busy : List String) : Nat → String → Except NamingFault Layout
  | 0, name => .error (.noTable name)
  | bound + 1, name => do
    match tables.relations.find? (Relation.hasName name) with
    | none =>
      match ownLayout? name with
      | some layout => return layout
      | none => throw (.noTable name)
    | some relation =>
      if let some module := relation.module then
        if !Relation.modules.contains (lowerAscii module) then throw (.said ("no such module: " ++ module))
      let some view := relation.view | return relation.definition.layout
      if busy.any (isSameName name) then throw (.said ("view " ++ view.name ++ " is circularly defined"))
      let (_, columns) ← view.query.placed (.ofTables (tables.layoutOf (name :: busy) bound))
      match view.columns with
      | none => return .ofResults (some view.name) columns
      | some names =>
        if names.length != columns.length then
          throw (.said ("expected " ++ toString names.length ++ " columns for '" ++ view.name ++ "' but got " ++
            toString columns.length))
        return .ofResults (some view.name) ((names.zip columns).map fun (name, column) => { column with name })

def layout (tables : Tables) (name : String) : Except NamingFault Layout :=
  tables.layoutOf [] (tables.relations.length + 1) name

/-- A table with a name. The columns of a view are those of its query. -/
def relation? (tables : Tables) (name : String) : Option Relation :=
  (tables.relations.find? (Relation.hasName name)).map fun relation =>
    match relation.view, tables.layout name with
    | some _, .ok layout =>
      let columns := Relation.plainColumns (layout.columns.map LayoutColumn.name) false
      { relation with definition := { relation.definition with columns } }
    | _, _ => relation

def put (tables : Tables) (relation : Relation) : Tables :=
  { tables with relations := tables.relations.map fun other =>
      if other.hasName relation.definition.name then relation else other }

def add (tables : Tables) (relation : Relation) : Tables :=
  { tables with relations := tables.relations ++ [relation] }

def namingScope (tables : Tables) (layouts : List Layout) (isTrigger : Bool) : NamingScope :=
  { NamingScope.ofTables tables.layout with layouts, isTrigger }

def scopeOn (tables : Tables) (rowsOf : String → Except Obstacle (List QueryRow)) (rows : List QueryRow) : Scope :=
  { rows, members := [], peers := [], position := 0, common := [], tables := rowsOf
    present := tables.present, lastInserted := tables.lastInserted
    changes := tables.changes, totalChanges := tables.totalChanges }

def ownRows (tables : Tables) (name : String) : List QueryRow :=
  if (lowerAscii name).startsWith "sqlite_temp" then [] else tables.catalog.map CatalogEntry.row

/-- The rows of a table, or those that the query of a view finds. A bound says how deep views can go. -/
def rowsOf (tables : Tables) : Nat → String → Except Obstacle (List QueryRow)
  | 0, _ => .error .unknown
  | bound + 1, name => do
    let some relation := tables.relations.find? (Relation.hasName name) | return tables.ownRows name
    match relation.view with
    | none => return relation.orderedRows.map (Relation.fullRow relation.definition)
    | some view =>
      match view.query.placed (tables.namingScope [] false) with
      | .ok (query, _) => query.results (tables.scopeOn (tables.rowsOf bound) [])
      | .error fault => throw (.failed fault.message)

def scope (tables : Tables) (rows : List QueryRow) : Scope :=
  tables.scopeOn (tables.rowsOf (tables.relations.length + 1)) rows

def sequenceName : String := "sqlite_sequence"

def isSequenceOf (name : String) (row : TableRow) : Bool := row.cells.head? == some (.ofString name)

def sequence (tables : Tables) (name : String) : Int :=
  match (tables.relation? sequenceName).bind fun relation => relation.orderedRows.find? (isSequenceOf name) with
  | some row => (row.cells.getD 1 .null).leadingInteger
  | none => 0

def withSequences (tables : Tables) : Tables :=
  let lastId (definition : TableDefinition) : Int :=
    if definition.countsIds then tables.sequence definition.name else 0
  { tables with relations := tables.relations.map fun relation =>
      { relation with lastId := lastId relation.definition } }

def setSequence (tables : Tables) (name : String) (number : Int) : Tables :=
  match tables.relation? sequenceName with
  | none => tables
  | some relation =>
    let cells := [Cell.ofString name, .integer number]
    if relation.rows.any (isSequenceOf name) then
      tables.put { relation with rows := relation.rows.map fun row =>
        (if isSequenceOf name row then { row with cells } else row) }
    else
      let last := relation.rows.foldl (fun last row => max last row.id) 0
      tables.put { relation with rows := relation.rows ++ [⟨last + 1, cells⟩] }

def keepSequences (before tables : Tables) : Tables :=
  tables.relations.foldl (fun tables relation =>
    let name := relation.definition.name
    if relation.definition.countsIds && decide (before.sequence name < relation.lastId) then
      tables.setSequence name relation.lastId
    else tables) tables

/-- The table that a reference names, and the columns it is about, which must be a key of that table. -/
def parent (tables : Tables) (child : Relation) (reference : Reference) :
    Except RelationError (Relation × List Nat) := do
  let some parent := tables.relation? reference.parent | throw (.noTable reference.parent)
  let definition := parent.definition
  let named := reference.parentColumns.filterMap fun name => (definition.column? name).map Prod.fst
  let columns := if reference.parentColumns.isEmpty then definition.primaryKey else named
  let isPlain (part : KeyPart × Collation) : Bool := match part with
    | (.column k, collation) => definition.columns[k]?.any fun column => column.collation == collation
    | (.computed _, _) => false
  let isKey := definition.idColumn.toList == columns || definition.uniqueKeys.any fun key =>
    key.condition.isNone && key.parts.all isPlain && key.columns?.any fun others =>
      others.all columns.contains && columns.all others.contains
  let isComplete := columns.length == reference.columns.length &&
    (reference.parentColumns.isEmpty || named.length == reference.parentColumns.length)
  if !isComplete || columns.isEmpty || !isKey || parent.view.isSome then
    throw (.noParentKey child.definition.name reference.parent)
  return (parent, columns)

def isBound (parent : Relation) (columns : List Nat) (values : List Cell) (other : TableRow) : Bool :=
  !values.contains .null && (columns.zip values).all fun (k, value) =>
    match parent.definition.columns[k]? with
    | none => false
    | some column =>
      (value.adapt (if parent.definition.idColumn = some k then .integer else column.affinity)).agrees column.collation
        (other.cells.getD k .null)

def referencesTo (tables : Tables) (name : String) : List (Relation × Reference) :=
  tables.relations.flatMap fun child => (child.definition.references.filter fun reference =>
    isSameName reference.parent name).map (child, ·)

end Tables

end InspectionForms
