import InspectionForms.Database.Definition
import InspectionForms.Database.Table

namespace InspectionForms

inductive CatalogKind
  | table
  | index
  | view
  | trigger
  deriving DecidableEq, Repr

/-- What a database says of one of its parts: of which kind it is, its name, the table it belongs to, its first page,
and the statement that has made it. -/
structure CatalogEntry where
  kind : CatalogKind
  name : String
  tableName : String
  root : Nat
  statement : String
  deriving DecidableEq, Repr

def CatalogKind.ofText? : String → Option CatalogKind
  | "table" => some table
  | "index" => some index
  | "view" => some view
  | "trigger" => some trigger
  | _ => none

def CatalogKind.text : CatalogKind → String
  | table => "table"
  | index => "index"
  | view => "view"
  | trigger => "trigger"

def Cell.string? : Cell → Option String
  | .text bytes => some (textOfBytes bytes)
  | _ => none

namespace CatalogEntry

def ofCells (pageCount : Nat) (cells : List Cell) : Except ImageError CatalogEntry := do
  let cell (k : Nat) : Cell := cells.getD k .null
  let name := ((cell 1).string?).getD "?"
  let statement := ((cell 4).string?).getD ""
  let .integer root := cell 3 | throw (.malformedEntry name "")
  let isMaking := lowerAscii (String.ofList (statement.toList.take 2)) == "cr"
  if !isMaking && (!statement.isEmpty || cell 1 == .null) then throw (.malformedEntry name "")
  if root < 0 ∨ pageCount < root.toNat ∨ (!isMaking ∧ root < 2) then throw (.malformedEntry name "invalid rootpage")
  return {
    kind := (((cell 0).string?).bind CatalogKind.ofText?).getD .trigger
    name
    tableName := ((cell 2).string?).getD ""
    root := root.toNat
    statement }

def hasName (name : String) (entry : CatalogEntry) : Bool := lowerAscii entry.name == lowerAscii name

end CatalogEntry

namespace PagedImage

def catalog (paged : PagedImage) : Except ImageError (List CatalogEntry) := do
  (← paged.table 1).mapM fun row => CatalogEntry.ofCells paged.pageCount row.cells

end PagedImage

namespace TableDefinition

def scope (definition : TableDefinition) (row : TableRow) : Scope :=
  .ofCells (row.cells ++ if definition.hasRowNumbers then [.integer row.id] else [])

/-- Computes columns from the others. Some of them may need others that are computed, too. -/
def compute (definition : TableDefinition) (row : TableRow) : TableRow :=
  let computed := definition.columns.filter fun column => column.computed.isSome
  computed.foldl (fun row _ =>
    { row with cells := (definition.columns.zip row.cells).map fun (column, cell) =>
        match column.computed with
        | none => cell
        | some value =>
          match value.value (definition.scope row) with
          | .ok cell => cell.adapt column.affinity
          | .error _ => .null }) row

/-- The values of a row, in the order of the columns, from those that are stored. What is missing at the end is the
usual value, numbers in columns for real ones are real, and the number of the row stands in the column for it. -/
def completeRow (definition : TableDefinition) (id : Int) (stored : Nat → Option Cell) : TableRow :=
  definition.compute ⟨id, definition.columns.zipIdx.map fun (column, k) =>
    if definition.idColumn = some k then .integer id
    else match column.affinity, (stored k).getD column.usual with
      | .real, .integer value => Cell.realOfInt value
      | _, cell => cell⟩

/-- The columns in the order in which records hold them. A key on which the table is built comes first. -/
def storedOrder (definition : TableDefinition) : List Nat :=
  let recorded := definition.columns.zipIdx.filterMap fun (column, k) => if column.isRecorded then some k else none
  if definition.hasRowNumbers then recorded
  else definition.primaryKey ++ recorded.filter fun k => !definition.primaryKey.contains k

/-- The rows of a table that starts at a page. Rows without numbers are counted. -/
def readRows (definition : TableDefinition) (paged : PagedImage) (root : Nat) :
    Except ImageError (List TableRow) := do
  let order := definition.storedOrder
  let complete (id : Int) (cells : List Cell) : TableRow :=
    definition.completeRow id fun k => (order.idxOf? k).bind (cells[·]?)
  if definition.hasRowNumbers then return (← paged.table root).map fun row => complete row.id row.cells
  else return (← paged.index root).zipIdx.map fun (cells, n) => complete n cells

end TableDefinition

/-- A part of a database with the statement that has made it. A part that a table has made for itself has none. -/
structure CatalogPart where
  entry : CatalogEntry
  statement : Option SchemaStatement

namespace CatalogPart

def identity (statement : SchemaStatement) : CatalogKind × String × String :=
  match statement with
  | .table statement => (.table, statement.name, statement.name)
  | .index statement => (.index, statement.name, statement.table)
  | .view statement => (.view, statement.name, statement.name)
  | .module statement => (.table, statement.name, statement.name)
  | .trigger statement => (.trigger, statement.name, statement.table)

def definition? (part : CatalogPart) : Except NamingFault (Option TableDefinition) :=
  match part.statement with
  | some (.table statement) => some <$> TableDefinition.ofStatement part.entry.statement statement
  | _ => .ok none

def ownIndexes (definition : TableDefinition) : List String :=
  (List.range definition.uniqueKeys.length).map fun k =>
    "sqlite_autoindex_" ++ definition.name ++ "_" ++ toString (k + 1)

/-- What is wrong with the start of a statement behind other parts. The statement has to agree with its entry. What the
first page holds is nothing else. -/
def headFault? (before : List CatalogPart) (entry : CatalogEntry) (head : SchemaStatement) : Option String :=
  let find? (kinds : List CatalogKind) (name : String) : Option CatalogEntry :=
    (before.find? fun other => kinds.contains other.entry.kind && other.entry.hasName name).map CatalogPart.entry
  let isModule (name : String) : Bool := before.any fun other =>
    other.entry.hasName name && match other.statement with
      | some (.module _) => true
      | _ => false
  let (kind, name, table) := identity head
  let differs := kind != entry.kind || !isSameName name entry.name || !isSameName table entry.tableName
  let existing? (kinds : List CatalogKind) : Option String :=
    (find? kinds name).map fun other => other.kind.text ++ " " ++ name ++ " already exists"
  let target? := find? [.table, .view] table
  match head with
  | .table _ | .module _ | .view _ =>
    if differs || entry.root = 1 then some ""
    else (existing? [.table, .view]).or ((find? [.index] name).map fun _ => "there is already an index named " ++ name)
  | .index _ =>
    match target?.map CatalogEntry.kind with
    | none => some ("no such table: main." ++ table)
    | some .view => some "views may not be indexed"
    | some _ =>
      if isModule table then some "virtual tables may not be indexed"
      else if differs then some "" else existing? [.index]
  | .trigger statement =>
    match target?.map CatalogEntry.kind with
    | none => some ("no such table: main." ++ table)
    | some targetKind =>
      let isInstead := statement.time == .instead
      if isModule table then some "cannot create triggers on virtual tables"
      else if differs then some ""
      else (existing? [.trigger]).or
        (if targetKind == .view && !isInstead then
          some ("cannot create " ++ (if statement.time == .before then "BEFORE" else "AFTER") ++ " trigger on view: " ++
            table)
        else if targetKind != .view && isInstead then some ("cannot create INSTEAD OF trigger on table: " ++ table)
        else none)

/-- What is wrong with the rest of a part behind others. An index that a table makes for itself has no statement. -/
def bodyFault? (before : List CatalogPart) (part : CatalogPart) : Option String :=
  let definitions := before.filterMap fun other => (other.definition?.toOption).join
  let fault? {α : Type} (result : Except NamingFault α) : Option String := match result with
    | .error fault => some fault.message
    | .ok _ => none
  match part.statement with
  | none =>
    if definitions.any fun other => (ownIndexes other).any (isSameName part.entry.name) then none
    else some "orphan index"
  | some (.table _) => fault? part.definition?
  | some (.index statement) =>
    fault? ((definitions.find? fun other => isSameName other.name statement.table).mapM fun definition =>
      definition.indexKey statement)
  | some _ => none

def ofEntry (before : List CatalogPart) (entry : CatalogEntry) : Except ImageError CatalogPart := do
  let require (fault? : Option String) : Except ImageError Unit := match fault? with
    | some fault => .error (.malformedEntry entry.name fault)
    | none => .ok ()
  let part : CatalogPart ← if entry.statement.isEmpty then pure ⟨entry, none⟩ else do
    require ((SchemaStatement.headOfText? entry.statement).bind (headFault? before entry))
    match SchemaStatement.ofText entry.statement with
    | .error fault => throw (.malformedEntry entry.name (fault.message entry.statement))
    | .ok statement =>
      require (headFault? before entry statement)
      pure ⟨entry, some statement⟩
  require (part.bodyFault? before)
  return part

def ofEntries (entries : List CatalogEntry) : Except ImageError (List CatalogPart) :=
  entries.foldlM (fun before entry => do return before ++ [← ofEntry before entry]) []

end CatalogPart

end InspectionForms
