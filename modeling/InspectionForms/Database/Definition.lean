import InspectionForms.Database.Evaluation
import InspectionForms.Database.Grammar.Statement
import InspectionForms.Database.Placement

namespace InspectionForms

/-- A column of a table. `usual` is what a row holds if nothing has been put into it, which may depend on the moment at
which it is computed from `usualValue`. A column can be computed from the others, and then may not be stored. It may have
to be named to be seen. -/
structure TableColumn where
  name : String
  typeName : String
  collation : Collation
  required : Option Remedy
  usual : Cell
  usualValue : Option Expression
  computed : Option Expression
  isStored : Bool
  isHidden : Bool

/-- A condition on rows with the text that tells it. -/
structure RowCondition where
  text : String
  condition : Expression

/-- A part of a key: a column by its position, or what is computed from a row. -/
inductive KeyPart
  | column (position : Nat)
  | computed (value : Expression)

/-- A key that no two rows share, each part with a way of comparing texts. It may only count for some rows. -/
structure UniqueKey where
  name : String
  parts : List (KeyPart × Collation)
  condition : Option Expression
  remedy : Remedy

/-- How the rows of a table look. Rows are known by a number, which has names of its own and for which one column may
stand, or else by a key. The numbers may go on from the greatest one that has ever been given out. `statement` has made
the table, and those of its indexes come with their names. Some keys are only there to be looked up. The last references
come first. What is computed from a row is told where its columns are. -/
structure TableDefinition where
  name : String
  statement : String
  indexes : List (String × String)
  columns : List TableColumn
  conditions : List RowCondition
  idColumn : Option Nat
  idRemedy : Remedy
  countsIds : Bool
  isStrict : Bool
  primaryKey : List Nat
  hasRowNumbers : Bool
  numberNames : List String
  uniqueKeys : List UniqueKey
  plainKeys : List UniqueKey
  references : List Reference

namespace TableColumn

def affinity (column : TableColumn) : Affinity := .ofTypeName column.typeName

def hasName (name : String) (column : TableColumn) : Bool := isSameName column.name name

def isRecorded (column : TableColumn) : Bool := column.computed.isNone || column.isStored

/-- The column with what it usually holds at a moment. What cannot be computed then is null. -/
def atMoment (present : Option Cell) (column : TableColumn) : TableColumn :=
  let cell? := column.usualValue.bind fun value => (value.value { Scope.ofCells [] with present }).toOption
  { column with usual := (cell?.getD .null).adapt column.affinity }

end TableColumn

namespace UniqueKey

def columns? (key : UniqueKey) : Option (List Nat) :=
  key.parts.mapM fun
    | (.column position, _) => some position
    | (.computed _, _) => none

def isSame (a b : UniqueKey) : Bool :=
  a.columns?.isSome && a.columns? == b.columns? && a.parts.map Prod.snd == b.parts.map Prod.snd

end UniqueKey

namespace TableDefinition

def usualNumberNames : List String := ["rowid", "oid", "_rowid_"]

/-- How the values of a row follow each other: those of its columns, and its number if it has one, which can also be
named by other names. They mean the column for the number if there is one. -/
def layoutOf (label : Option String) (columns : List TableColumn) (numberNames : Option (List String))
    (idColumn : Option Nat) : Layout :=
  let plain := columns.zipIdx.map fun (column, k) =>
    (⟨label, column.name, k, some column.affinity, column.collation, if column.isHidden then .hidden else .plain,
      []⟩ : LayoutColumn)
  match numberNames with
  | none => ⟨plain, columns.length⟩
  | some names =>
    let numbers := names.map fun name =>
      (⟨label, name, idColumn.getD columns.length, some .integer, .binary, .reserve, []⟩ : LayoutColumn)
    ⟨plain ++ numbers, columns.length + 1⟩

def layout (definition : TableDefinition) : Layout :=
  layoutOf (some definition.name) definition.columns
    (if definition.hasRowNumbers then some definition.numberNames else none) definition.idColumn

/-- The column with its value that is computed from the others, and with what it usually holds at any moment. -/
def ofColumnStatement (layout : Layout) (column : ColumnStatement) : Except NamingFault TableColumn := do
  let collations := column.clauses.filterMap fun
    | .collation name => some name
    | _ => none
  let usual := column.clauses.reverse.findSome? fun
    | .usual value => some value
    | _ => none
  let required := column.clauses.reverse.findSome? fun
    | .required remedy => some remedy
    | _ => none
  let computed := column.clauses.findSome? fun
    | .computed value isStored => some (value, isStored)
    | _ => none
  let collation := ((collations.getLast?).bind Collation.ofName?).getD .binary
  let usualValue := usual.bind fun value => (value.placed (.ofDefinition .empty "CHECK constraints")).toOption
  let value? ← computed.mapM fun (value, _) => value.placed (.ofDefinition layout "generated columns")
  let plain : TableColumn :=
    { name := column.name, typeName := column.typeName, collation, required, usual := .null, usualValue
      computed := value?, isStored := computed.any Prod.snd, isHidden := false }
  return plain.atMoment none

def keysOf (column : List KeyColumn) (clauses : List TableClause) : List (Bool × List KeyColumn × Remedy) :=
  clauses.filterMap fun
    | .primaryKey columns _ _ remedy => some (true, if columns.isEmpty then column else columns, remedy)
    | .unique columns remedy => some (false, if columns.isEmpty then column else columns, remedy)
    | _ => none

/-- The column that stands for the number of a row: one with the type of integers that is the primary key. A column
that is said to fall does not do so. -/
def idColumn? (columns : List ColumnStatement) (clauses : List TableClause) : Option Nat :=
  columns.findIdx? fun column =>
    column.typeName == "integer" &&
      (column.clauses.any (fun | .primaryKey [] isFalling _ _ => !isFalling | _ => false) ||
        clauses.any fun
          | .primaryKey [(name, _)] _ _ _ => isSameName column.name name
          | _ => false)

def keyParts (columns : List TableColumn) (key : List KeyColumn) : Except NamingFault (List (KeyPart × Collation)) :=
  key.mapM fun (name, collation?) =>
    match columns.zipIdx.find? fun (column, _) => column.hasName name with
    | some (column, k) => .ok (.column k, (collation?.bind Collation.ofName?).getD column.collation)
    | none => .error (.noColumn name)

/-- Of keys with the same columns the first one counts. -/
def distinctKeys (keys : List UniqueKey) : List UniqueKey :=
  keys.foldl (fun keys key => if keys.any key.isSame then keys else keys ++ [key]) []

def fault? (statement : TableStatement) : Option String :=
  let every := statement.columns.flatMap ColumnStatement.clauses ++ statement.clauses
  let names := statement.columns.map fun column => lowerAscii column.name
  let repeated := statement.columns.zipIdx.find? fun (column, k) => (names.take k).contains (lowerAscii column.name)
  let primaryKeys := every.filter fun clause => clause matches .primaryKey ..
  let counts := every.any fun | .primaryKey _ _ counts _ => counts | _ => false
  let isComputed (column : ColumnStatement) : Bool := column.clauses.any fun clause => clause matches .computed ..
  let hasNoNumbers := statement.options.contains "without rowid"
  let isStrict := statement.options.contains "strict"
  let strictTypes := ["int", "integer", "real", "text", "blob", "any"]
  let lacking := statement.columns.find? fun column => column.typeName.isEmpty
  let unknown := statement.columns.find? fun column => !strictTypes.contains column.typeName
  if let some (column, _) := repeated then some ("duplicate column name: " ++ column.name)
  else if 1 < primaryKeys.length then some ("table \"" ++ statement.name ++ "\" has more than one primary key")
  else if counts && (idColumn? statement.columns statement.clauses).isNone then
    some "AUTOINCREMENT is only allowed on an INTEGER PRIMARY KEY"
  else if statement.columns.any fun column =>
      isComputed column && column.clauses.any fun clause => clause matches .primaryKey .. then
    some "generated columns cannot be part of the PRIMARY KEY"
  else if let some column := if isStrict then lacking else none then
    some ("missing datatype for " ++ statement.name ++ "." ++ column.name)
  else if let some column := if isStrict then unknown else none then
    some ("unknown datatype for " ++ statement.name ++ "." ++ column.name ++ ": \"" ++ column.typeName.toUpper ++ "\"")
  else if hasNoNumbers && counts then some "AUTOINCREMENT not allowed on WITHOUT ROWID tables"
  else if hasNoNumbers && primaryKeys.isEmpty then some ("PRIMARY KEY missing on table " ++ statement.name)
  else if statement.columns.all isComputed then some "must have at least one non-generated column"
  else none

/-- Puts a table together from its columns, with the clauses of each, and its own clauses. A row that is known by a
key holds something in its columns, and so does each row of a strict table in those of the primary key. Where a column
could stand for the number of a row, the key comes after all others, or not at all if rows have numbers. -/
def ofStatement (text : String) (statement : TableStatement) : Except NamingFault TableDefinition := do
  if let some fault := fault? statement then throw (.said fault)
  let every := statement.columns.flatMap ColumnStatement.clauses ++ statement.clauses
  let hasRowNumbers := !statement.options.contains "without rowid"
  let bare ← statement.columns.mapM fun column =>
    ofColumnStatement .empty
      { column with clauses := column.clauses.filter fun clause => !(clause matches .computed ..) }
  let idColumn? := idColumn? statement.columns statement.clauses
  let layout := layoutOf (some statement.name) bare (if hasRowNumbers then some usualNumberNames else none) idColumn?
  let plain ← statement.columns.mapM (ofColumnStatement layout)
  let keys ← (statement.columns.flatMap (fun column => keysOf [(column.name, none)] column.clauses) ++
    keysOf [] statement.clauses).mapM fun (isPrimary, key, remedy) => do
      return (isPrimary, (⟨"", ← keyParts plain key, none, remedy⟩ : UniqueKey))
  let isStrict := statement.options.contains "strict"
  let primary := (((keys.find? Prod.fst).bind fun (_, key) => key.columns?).getD []).eraseDups
  let mustHold (k : Nat) : Bool := (isStrict || !hasRowNumbers) && primary.contains k
  let (late, early) := keys.partition fun (isPrimary, _) => isPrimary && idColumn?.isSome
  let conditions ← every.filterMapM fun
    | .condition text value => do return some ⟨text, ← value.placed (.ofDefinition layout "CHECK constraints")⟩
    | _ => return none
  return {
    name := statement.name
    statement := text
    indexes := []
    columns := plain.zipIdx.map fun (column, k) =>
      if mustHold k then { column with required := some .refuse } else column
    conditions
    idColumn := if hasRowNumbers then idColumn? else none
    idRemedy := if idColumn?.isSome then ((keys.find? Prod.fst).map fun key => key.2.remedy).getD .refuse else .refuse
    countsIds := every.any fun
      | .primaryKey _ _ counts _ => counts
      | _ => false
    isStrict
    primaryKey := primary
    hasRowNumbers
    numberNames := usualNumberNames
    uniqueKeys := distinctKeys ((early ++ if hasRowNumbers then [] else late).map Prod.snd)
    plainKeys := []
    references := (every.filterMap fun
      | .reference reference => some reference
      | _ => none).reverse }

def column? (definition : TableDefinition) (name : String) : Option (Nat × TableColumn) :=
  (definition.columns.zipIdx.find? fun (column, _) => column.hasName name).map fun (column, k) => (k, column)

def hasColumn (definition : TableDefinition) (name : String) : Bool := (definition.column? name).isSome

/-- What a part of a key is without a way of comparing texts. -/
def uncollated : Expression → Expression
  | .collated value _ => uncollated value
  | value => value

/-- A part of an index: a column, or what is computed from a row, with a way of comparing texts. -/
def keyPart (definition : TableDefinition) (part : Expression) : Except NamingFault (KeyPart × Collation) := do
  let part : Expression := match uncollated part with
    | .constant (.text bytes) => .column none (textOfBytes bytes) false
    | _ => part
  let placed ← part.placed (.ofDefinition definition.layout "index expressions")
  let collation := (placed.collation?.bind Collation.ofName?).getD .binary
  match uncollated placed with
  | .field place =>
    if place.index < definition.columns.length then return (.column place.index, collation)
    else return (.computed (.field place), collation)
  | value => return (.computed value, collation)

def indexKey (definition : TableDefinition) (statement : IndexStatement) : Except NamingFault UniqueKey := do
  let parts ← statement.parts.mapM definition.keyPart
  let condition ← statement.condition.mapM fun condition =>
    condition.placed (.ofDefinition definition.layout "partial index WHERE clauses")
  return ⟨statement.name, parts, condition, .refuse⟩

/-- A table with some indexes, which come with their names and statements. What cannot be read is left out. -/
def withIndexes (definition : TableDefinition) (indexes : List (String × String)) : TableDefinition :=
  let keys := indexes.filterMap fun (_, text) =>
    match SchemaStatement.ofText text with
    | .ok (.index statement) => (definition.indexKey statement).toOption.map fun key => (statement.isUnique, key)
    | _ => none
  let (unique, plain) := keys.partition Prod.fst
  { definition with
    indexes
    uniqueKeys := definition.uniqueKeys ++ unique.map Prod.snd
    plainKeys := plain.map Prod.snd }

def ofText? (text : String) : Option TableDefinition :=
  match SchemaStatement.ofText text with
  | .ok (.table statement) => (ofStatement text statement).toOption
  | _ => none

end TableDefinition

end InspectionForms
