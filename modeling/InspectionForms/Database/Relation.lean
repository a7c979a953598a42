import InspectionForms.Database.Catalog

namespace InspectionForms

/-- Why a statement cannot be carried out on the tables of a database. -/
inductive RelationError
  | noSuchColumn (column : String) (statement : Option (String × String))
  | noColumnNamed (table column : String)
  | missingValue (table column : String)
  | wrongValue (kind typeName table column : String)
  | conditionFailed (text : String)
  | repeatedKey (table : String) (columns : List String)
  | repeatedIndex (name : String)
  | wrongKind (kind : String) (index : Nat) (column : String)
  | notText (index : Nat) (fault : Utf8Fault)
  | indexNamed (name : String)
  | tableNamed (name : String)
  | noSharedKey
  | viewNotIndexed
  | viewNotChanged (name : String)
  | computedColumn (isNew : Bool) (column : String)
  | noParent
  | noTable (name : String)
  | misnamed (fault : NamingFault)
  | valueCount (table : String) (columns values : Nat)
  | namedValueCount (columns values : Nat)
  | noParentKey (table parent : String)
  | refused (message : String) (keepsChanges : Bool)
  | stopped (error : RelationError)
  | notComputed (message : String)
  | notInteger
  | full
  deriving DecidableEq, Repr

/-- A statement with a column that is missing is told as a whole, with the place of the column. -/
def RelationError.message : RelationError → String
  | noSuchColumn column none => "no such column: " ++ column
  | noSuchColumn column (some (before, after)) =>
    "no such column: " ++ column ++ " in " ++ before ++ after ++ " at offset " ++ toString before.utf8ByteSize
  | noColumnNamed table column => "table " ++ table ++ " has no column named " ++ column
  | missingValue table column => "NOT NULL constraint failed: " ++ table ++ "." ++ column
  | wrongValue kind typeName table column =>
    "cannot store " ++ kind ++ " value in " ++ typeName ++ " column " ++ table ++ "." ++ column
  | conditionFailed text => "CHECK constraint failed: " ++ text
  | repeatedKey table columns =>
    "UNIQUE constraint failed: " ++ ", ".intercalate (columns.map fun column => table ++ "." ++ column)
  | repeatedIndex name => "UNIQUE constraint failed: index '" ++ name ++ "'"
  | computedColumn isNew column =>
    "cannot " ++ (if isNew then "INSERT into" else "UPDATE") ++ " generated column \"" ++ column ++ "\""
  | noParent => "FOREIGN KEY constraint failed"
  | noTable name => "no such table: main." ++ name
  | misnamed fault => fault.message
  | valueCount table columns values =>
    "table " ++ table ++ " has " ++ toString columns ++ " columns but " ++ toString values ++ " values were supplied"
  | namedValueCount columns values => toString values ++ " values for " ++ toString columns ++ " columns"
  | noParentKey table parent => "foreign key mismatch - \"" ++ table ++ "\" referencing \"" ++ parent ++ "\""
  | refused message _ | notComputed message => message
  | stopped error => error.message
  | wrongKind kind index column =>
    "Invalid column type " ++ kind ++ " at index: " ++ toString index ++ ", name: " ++ column
  | notText index fault => "Conversion error from type Text at index: " ++ toString index ++ ", " ++ fault.message
  | indexNamed name => "there is already an index named " ++ name
  | tableNamed name => "there is already a table named " ++ name
  | noSharedKey => "ON CONFLICT clause does not match any PRIMARY KEY or UNIQUE constraint"
  | viewNotIndexed => "views may not be indexed"
  | viewNotChanged name => "cannot modify " ++ name ++ " because it is a view"
  | notInteger => "datatype mismatch"
  | full => "database or disk is full"

def RelationError.keepsChanges : RelationError → Bool
  | refused _ keepsChanges => keepsChanges
  | stopped _ => true
  | _ => false

def Remedy.refusal (remedy : Remedy) (error : RelationError) : RelationError :=
  if remedy = stop then .stopped error else error

/-- A part of a statement, which may be the name of a column. -/
inductive StatementPart
  | text (text : String)
  | column (name : String)

def StatementPart.spelling : StatementPart → String
  | .text words => words
  | .column name => name

/-- The columns that a change gives values to, or none for a new row, in which all have been changed. -/
abbrev Changed := Option (List String)

def Changed.mentions (changed : Changed) (name : String) : Bool :=
  changed.all fun names => names.any (isSameName name)

namespace TableDefinition

def findMissing (definition : TableDefinition) (before : String) : List StatementPart → Option RelationError
  | [] => none
  | .text text :: rest => definition.findMissing (before ++ text) rest
  | .column name :: rest =>
    if definition.hasColumn name then definition.findMissing (before ++ name) rest
    else some (.noSuchColumn name (some (before, name ++ String.join (rest.map StatementPart.spelling))))

/-- A statement names only columns that a table has. -/
def require (definition : TableDefinition) (statement : List StatementPart) : Except RelationError Unit :=
  match definition.findMissing "" statement with
  | some error => .error error
  | none => .ok ()

def given? (values : List (String × Cell)) (column : TableColumn) : Option Cell :=
  (values.find? fun (name, _) => column.hasName name).map fun (_, value) => value.adapt column.affinity

def newCells (definition : TableDefinition) (values : List (String × Cell)) : List Cell :=
  definition.columns.map fun column => (given? values column).getD column.usual

def changeRow (definition : TableDefinition) (values : List (String × Cell)) (row : TableRow) : TableRow :=
  let cells := (definition.columns.zip row.cells).map fun (column, cell) => (given? values column).getD cell
  definition.compute { row with cells }

/-- Fills a column that must hold something and does not, or finds the row unfit. `policy` stands above what the
column says. -/
def fillColumn (definition : TableDefinition) (policy : Option Remedy) (row : TableRow) (k : Nat)
    (column : TableColumn) : Except RelationError (Option TableRow) :=
  match column.required with
  | none => .ok (some row)
  | some remedy =>
    if row.cells.getD k .null ≠ .null ∨ definition.idColumn = some k then .ok (some row) else
    match policy.getD remedy with
      | .leaveOut => .ok none
      | .replace =>
        if column.usual = .null ∨ column.computed.isSome then
          .error (.missingValue definition.name column.name)
        else .ok (some (definition.compute { row with cells := row.cells.set k column.usual }))
      | remedy => .error (remedy.refusal (.missingValue definition.name column.name))

def fill (definition : TableDefinition) (policy : Option Remedy) (changed : Changed) (row : TableRow) :
    Except RelationError (Option TableRow) :=
  let (computed, plain) := definition.columns.zipIdx.partition fun (column, _) => column.computed.isSome
  (plain.filter (fun (column, _) => changed.mentions column.name) ++ computed).foldlM (fun row? (column, k) =>
    match row? with
    | some row => definition.fillColumn policy row k column
    | none => .ok none) (some row)

def strictKinds (typeName : String) : List String :=
  match typeName with
  | "int" | "integer" => ["INT"]
  | "real" => ["REAL"]
  | "text" => ["TEXT"]
  | "blob" => ["BLOB"]
  | _ => ["INT", "REAL", "TEXT", "BLOB"]

def wrongValue? (definition : TableDefinition) (cells : List Cell) : Option RelationError :=
  if !definition.isStrict then none
  else ((definition.columns.zip cells).find? fun (column, cell) =>
    cell != .null && !(strictKinds column.typeName).contains cell.strictName).map fun (column, cell) =>
      .wrongValue cell.strictName column.typeName.toUpper definition.name column.name

/-- The columns that a value is computed from. The number of a row that no column stands for has a name of its own. -/
def columnsIn (definition : TableDefinition) (value : Expression) : List String :=
  value.parts.filterMap fun
    | .field place => some (((definition.columns[place.index]?).map TableColumn.name).getD "rowid")
    | _ => none

/-- Whether a column has been changed, or is computed from one that has. A bound says how deep columns are computed from
others. -/
def isChanged (definition : TableDefinition) (changed : Changed) : Nat → String → Bool
  | 0, _ => false
  | bound + 1, name =>
    changed.mentions name || (definition.column? name).any fun (_, column) =>
      column.computed.any fun value => (definition.columnsIn value).any (definition.isChanged changed bound)

def mentionsChange (definition : TableDefinition) (changed : Changed) (value : Expression) : Bool :=
  changed.isNone || (definition.columnsIn value).any (definition.isChanged changed (definition.columns.length + 1))

/-- Why a value cannot be computed in some place. Nothing is said of values that it is not known how to compute. -/
def obstruction? {α : Type} (place : String) : Except Obstacle α → Option RelationError
  | .error (.failed message) => some (.notComputed message)
  | .error (.changing name) => some (.notComputed ("non-deterministic use of " ++ name ++ "() in " ++ place))
  | _ => none

def failedCondition? (definition : TableDefinition) (changed : Changed) (row : TableRow) :
    List RowCondition → Except RelationError (Option RowCondition)
  | [] => .ok none
  | rule :: rest => do
    let truth := rule.condition.value (definition.scope row)
    if !definition.mentionsChange changed rule.condition then definition.failedCondition? changed row rest
    else if let some error := obstruction? "a CHECK constraint" truth then throw error
    else if truth.toOption.any fun cell => cell.truth == some false then return some rule
    else definition.failedCondition? changed row rest

/-- Values that are computed from a row can be computed: those of columns, and the parts of keys. -/
def requireComputed (definition : TableDefinition) (row : TableRow) : Except RelationError Unit :=
  definition.columns.forM fun column =>
    match column.computed.bind fun value => obstruction? "a generated column" (value.value (definition.scope row)) with
    | some error => .error error
    | none => .ok ()

def requireParts (definition : TableDefinition) (row : TableRow) : Except RelationError Unit :=
  (definition.uniqueKeys ++ definition.plainKeys).forM fun key => do
    let compute (value : Expression) : Except RelationError Cell :=
      match obstruction? "an index" (value.value (definition.scope row)) with
      | some error => .error error
      | none => .ok ((value.value (definition.scope row)).toOption.getD .null)
    let counts ← match key.condition with
      | none => pure true
      | some condition => do pure (← compute condition).isTrue
    if counts then key.parts.forM fun
      | (.computed value, _) => discard (compute value)
      | (.column _, _) => .ok ()

def partValue (definition : TableDefinition) (row : TableRow) : KeyPart → Cell
  | .column k => row.cells.getD k .null
  | .computed value =>
    match value.value (definition.scope row) with
    | .ok cell => cell
    | .error _ => .null

/-- Two rows have the same values in a key, which counts for both. -/
def sharesKey (definition : TableDefinition) (key : UniqueKey) (a b : TableRow) : Bool :=
  let counts (row : TableRow) : Bool := key.condition.all fun condition =>
    match condition.value (definition.scope row) with
    | .ok cell => cell.truth == some true
    | .error _ => false
  counts a && counts b && key.parts.all fun (part, collation) =>
    (definition.partValue a part).agrees collation (definition.partValue b part)

def repeatedKey (definition : TableDefinition) (key : UniqueKey) : RelationError :=
  match key.columns? with
  | some columns =>
    .repeatedKey definition.name (columns.filterMap fun k => definition.columns[k]?.map TableColumn.name)
  | none => .repeatedIndex key.name

def keyMentionsChange (definition : TableDefinition) (changed : Changed) (key : UniqueKey) : Bool :=
  key.condition.any (definition.mentionsChange changed) || key.parts.any fun (part, _) =>
    match part with
    | .column k => definition.columns[k]?.any fun column =>
      definition.isChanged changed (definition.columns.length + 1) column.name
    | .computed value => definition.mentionsChange changed value

/-- Makes room for a row among the others: those with the same key may go, or else the row is left out or refused.
Later keys are looked at first, and those that replace rows at last. -/
def makeRoom (definition : TableDefinition) (policy : Option Remedy) (changed : Changed)
    (others : List TableRow) (row : TableRow) : Except RelationError (Option (List TableRow)) :=
  let keys := definition.uniqueKeys.reverse.filter (definition.keyMentionsChange changed)
  let (late, early) := keys.partition fun key => policy.getD key.remedy == .replace
  (early ++ late).foldlM (fun others? key =>
    match others? with
    | none => .ok none
    | some others =>
      if !others.any (definition.sharesKey key row) then .ok (some others)
      else match policy.getD key.remedy with
        | .leaveOut => .ok none
        | .replace => .ok (some (others.filter fun other => !definition.sharesKey key row other))
        | remedy => .error (remedy.refusal (definition.repeatedKey key))) (some others)

def makeRoomForId (definition : TableDefinition) (policy : Option Remedy) (others : List TableRow) (row : TableRow) :
    Except RelationError (Option (List TableRow)) :=
  if !others.any fun other => other.id == row.id then .ok (some others) else
  match policy.getD definition.idRemedy with
  | .leaveOut => .ok none
  | .replace => .ok (some (others.filter fun other => other.id != row.id))
  | remedy =>
    .error (remedy.refusal (.repeatedKey definition.name
      [((definition.idColumn.bind fun k => definition.columns[k]?.map TableColumn.name)).getD "rowid"]))

/-- Finds a place for a row among the others: what the row becomes, and which of the others stay. -/
def settle (definition : TableDefinition) (policy : Option Remedy) (changed : Changed)
    (others : List TableRow) (row : TableRow) : Except RelationError (Option (TableRow × List TableRow)) := do
  definition.requireComputed row
  let some row ← definition.fill policy changed row | return none
  if let some error := definition.wrongValue? row.cells then throw error
  if let some rule ← definition.failedCondition? changed row definition.conditions then
    if policy = some .leaveOut then return none
    throw ((policy.getD .refuse).refusal (.conditionFailed rule.text))
  let isIdLate := policy.isNone && definition.idRemedy = .replace
  let some others ← if isIdLate then pure (some others) else definition.makeRoomForId policy others row | return none
  definition.requireParts row
  let some others ← definition.makeRoom policy changed others row | return none
  let some others ← if isIdLate then definition.makeRoomForId policy others row else pure (some others) | return none
  return some (row, others)

/-- The number that some values give a row, of which the last one counts. There are other names for it if no column
has them. -/
def givenId? (definition : TableDefinition) (values : List (String × Cell)) : Option Cell := do
  let isId (name : String) : Bool := match definition.column? name with
    | some (k, _) => definition.idColumn == some k
    | none => definition.hasRowNumbers && definition.numberNames.contains (lowerAscii name)
  let (_, value) ← values.reverse.find? fun (name, _) => isId name
  return value.adapt .integer

def newRow (definition : TableDefinition) (id : Int) (values : List (String × Cell)) : TableRow :=
  let cells := definition.newCells values
  definition.completeRow id (cells[·]?)

def changedRow (definition : TableDefinition) (values : List (String × Cell)) (row : TableRow) :
    Except RelationError TableRow :=
  match givenId? definition values with
  | none => .ok (definition.changeRow values row)
  | some (.integer id) => .ok { definition.changeRow values row with id }
  | some _ => .error .notInteger

/-- A column that is put into must be there, and not be computed. It may be the number of the row. -/
def requireColumn (definition : TableDefinition) (isNew : Bool) (missing : String → RelationError) (name : String) :
    Except RelationError Unit :=
  match definition.column? name with
  | none =>
    if definition.hasRowNumbers && definition.numberNames.contains (lowerAscii name) then .ok ()
    else .error (missing name)
  | some (_, column) => if column.computed.isSome then .error (.computedColumn isNew column.name) else .ok ()

def plainNames (definition : TableDefinition) : List String :=
  (definition.columns.filter fun column => column.computed.isNone && !column.isHidden).map TableColumn.name

end TableDefinition

end InspectionForms
