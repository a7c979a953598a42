import InspectionForms.Database.Layout
import InspectionForms.Database.Vocabulary

namespace InspectionForms

/-- Why the places of names cannot be put into a value. -/
inductive NamingFault
  | noColumn (spelling : String)
  | ambiguous (spelling : String)
  | noFunction (name : String)
  | wrongCount (name : String)
  | misplaced (kind name : String)
  | notInPlace (thing place : String)
  | noTable (name : String)
  | notSourceFunction (name : String)
  | noStar (table : Option String)
  | rowMisused
  | wrongWidth (found expected : Nat)
  | wrongTableWidth (name : String) (values columns : Nat)
  | unevenCompound (operation : SetOperation)
  | outOfRange (clause : String) (place count : Nat)
  | unmatchedOrder (place : Nat)
  | notShared (column : String)
  | said (message : String)
  deriving DecidableEq, Repr

def ordinal (n : Nat) : String :=
  let ending := if n / 10 % 10 = 1 then "th" else match n % 10 with
    | 1 => "st"
    | 2 => "nd"
    | 3 => "rd"
    | _ => "th"
  toString n ++ ending

def SetOperation.text : SetOperation → String
  | unionAll => "UNION ALL"
  | union => "UNION"
  | except => "EXCEPT"
  | intersect => "INTERSECT"

def NamingFault.message : NamingFault → String
  | noColumn spelling => "no such column: " ++ spelling
  | ambiguous spelling => "ambiguous column name: " ++ spelling
  | noFunction name => "no such function: " ++ name
  | wrongCount name => "wrong number of arguments to function " ++ name ++ "()"
  | misplaced kind name => "misuse of " ++ kind ++ name ++ "()"
  | notInPlace thing place => thing ++ " prohibited in " ++ place
  | noTable name => "no such table: main." ++ name
  | notSourceFunction name => "'" ++ name ++ "' is not a function"
  | noStar none => "no tables specified"
  | noStar (some table) => "no such table: " ++ table
  | rowMisused => "row value misused"
  | wrongWidth found expected =>
    "sub-select returns " ++ toString found ++ " columns - expected " ++ toString expected
  | wrongTableWidth name values columns =>
    "table " ++ name ++ " has " ++ toString values ++ " values for " ++ toString columns ++ " columns"
  | unevenCompound operation =>
    "SELECTs to the left and right of " ++ operation.text ++ " do not have the same number of result columns"
  | outOfRange clause place count =>
    ordinal place ++ " " ++ clause ++ " BY term out of range - should be between 1 and " ++ toString count
  | unmatchedOrder place => ordinal place ++ " ORDER BY term does not match any column in the result set"
  | notShared column => "cannot join using column " ++ column ++ " - column not present in both tables"
  | said message => message

/-- What can be named: the columns of the rows around a value, from the innermost on, the values of a query by the names
given to them, windows, and tables. `place` is where in a definition the value stands, if it does. There functions need
not be known yet. Functions that take rows together may be misplaced. -/
structure NamingScope where
  layouts : List Layout
  aliases : List (String × Expression)
  windows : List (String × Expression)
  common : List (String × Except NamingFault Layout)
  tables : String → Except NamingFault Layout
  gathering : Option String
  allowsOver : Bool
  place : Option String
  isTrigger : Bool

namespace NamingScope

def ofTables (tables : String → Except NamingFault Layout) : NamingScope :=
  ⟨[], [], [], [], tables, some "aggregate function ", false, none, false⟩

def ofDefinition (layout : Layout) (place : String) : NamingScope :=
  { ofTables (fun name => .error (.noTable name)) with layouts := [layout], place := some place }

def within (scope : NamingScope) (layout : Layout) : NamingScope := { scope with layouts := layout :: scope.layouts }

def spelling (table? : Option String) (name : String) : String :=
  match table? with
  | some table => table ++ "." ++ name
  | none => name

/-- What a name stands for in some layouts, of which the first one is some queries further out. -/
def find? (table? : Option String) (name : String) : Nat → List Layout → Except NamingFault (Option Expression)
  | _, [] => .ok none
  | depth, layout :: rest =>
    match layout.matching table? name with
    | [] => find? table? name (depth + 1) rest
    | [column] => .ok (some (column.field depth))
    | _ => .error (.ambiguous (spelling table? name))

/-- What the name of a column stands for: a place in the innermost row, a value with the name, or a place further
out. A name in quotes that nothing has is a text, and the words for true and false are numbers. -/
def column (scope : NamingScope) (table? : Option String) (name : String) (isQuoted : Bool) :
    Except NamingFault Expression := do
  if let some value ← find? table? name 0 (scope.layouts.take 1) then return value
  if table?.isNone then
    if let some (_, value) := scope.aliases.find? fun entry => isSameName entry.1 name then
      if let some kind := scope.gathering then
        if let some (.gathered name ..) := value.parts.find? fun part => part matches .gathered .. then
          throw (.misplaced kind name)
      return value
  if let some value ← find? table? name 1 (scope.layouts.drop 1) then return value
  if table?.isNone && isQuoted then return .constant (.ofString name)
  match table?, lowerAscii name with
  | none, "true" => return .constant (.integer 1)
  | none, "false" => return .constant (.integer 0)
  | _, _ => throw (.noColumn (spelling table? name))

def functionKind (scope : NamingScope) (name : String) (count : Nat) : Except NamingFault FunctionKind := do
  match FunctionKind.ofName? (lowerAscii name) (some count) with
  | some kind =>
    let isPrivate := scope.place.any (· != "CHECK constraints")
    if isPrivate && FunctionKind.changingFunctions.contains (lowerAscii name) then
      throw (.notInPlace "non-deterministic functions" (scope.place.getD ""))
    return kind
  | none =>
    if (FunctionKind.ofName? (lowerAscii name) none).isSome then throw (.wrongCount name)
    else if scope.place.isSome then return .plain
    else throw (.noFunction name)

def requireGathering (scope : NamingScope) (name : String) : Except NamingFault Unit :=
  match scope.gathering with
  | none => .ok ()
  | some kind => .error (.misplaced kind name)

def inFunction (scope : NamingScope) : NamingScope :=
  { scope with gathering := some "aggregate function ", allowsOver := false }

end NamingScope

/-- A value that a query gives: its name, and what it does to values that are compared with it. -/
structure ResultColumn where
  name : String
  affinity : Option Affinity
  collation : Collation
  deriving DecidableEq, Repr

namespace Expression

def rowWidth : Expression → Nat
  | row values => values.length
  | _ => 1

def affinity? : Expression → Option Affinity
  | field place => place.affinity
  | cast _ affinity => some affinity
  | collated value _ => value.affinity?
  | first index (.select _ values ..) => (values[index]?).elim none ownAffinity?
  | _ => none
where
  ownAffinity? : Expression → Option Affinity
    | field place => place.affinity
    | cast _ affinity => some affinity
    | _ => none

def givenCollation? (value : Expression) : Option String :=
  value.parts.findSome? fun
    | collated _ name => some name
    | _ => none

def ownCollation? : Expression → Option Collation
  | field place => some place.collation
  | cast value _ => value.ownCollation?
  | call "+" [value] => value.ownCollation?
  | _ => none

def collation? (value : Expression) : Option String := value.givenCollation?.or (value.ownCollation?.map Collation.name)

/-- A value without what does not matter for its name. -/
def bare : Expression → Expression
  | collated value _ => value.bare
  | call "likely" [value] | call "unlikely" [value] => value.bare
  | call "likelihood" [value, _] => value.bare
  | value => value

/-- The name of the column at a place. The number of a row may have none. -/
def columnName (layouts : List Layout) (place : CellPlace) : String :=
  let columns := ((layouts[place.depth]?).map Layout.columns).getD []
  let column? := columns.find? fun column => column.index == place.index && column.visibility != .reserve
  (column?.map LayoutColumn.name).getD "rowid"

def resultColumn (layouts : List Layout) (label : ResultLabel) (value : Expression) : ResultColumn :=
  let name := if label.isGiven then label.text else match value.bare with
    | field place => columnName layouts place
    | _ => label.text
  ⟨name, value.affinity?, ((value.collation?.bind Collation.ofName?).getD .binary)⟩

/-- The test whether a value counts as true, or as false. -/
def truthTest (isSame isTrue : Bool) (value : Expression) : Expression :=
  let yes := constant (.integer 1)
  let no := constant (.integer 0)
  match isTrue, isSame with
  | true, true => choice value yes no
  | true, false => choice value no yes
  | false, true => binary .both (binary .notSame value (constant .null)) (choice value no yes)
  | false, false => binary .either (binary .same value (constant .null)) (choice value yes no)

def comparedRows (operation : BinaryOperation) : List Expression → List Expression → Expression
  | [a], [b] => binary operation a b
  | a :: as, b :: bs =>
    match operation with
    | .equals | .same => binary .both (binary operation a b) (comparedRows operation as bs)
    | .differs | .notSame => binary .either (binary operation a b) (comparedRows operation as bs)
    | _ =>
      let strict : BinaryOperation := match operation with
        | .atMost => .less
        | .atLeast => .greater
        | operation => operation
      binary .either (binary strict a b) (binary .both (binary .equals a b) (comparedRows operation as bs))
  | _, _ => constant .null

def isComparison (operation : BinaryOperation) : Bool :=
  [.equals, .differs, .same, .notSame, .less, .atMost, .greater, .atLeast].contains operation

def requireSingle (value : Expression) : Except NamingFault Expression :=
  match value with
  | row (first 0 _ :: rest) => .error (.wrongWidth (rest.length + 1) 1)
  | row _ => .error .rowMisused
  | value => .ok value

/-- The first value behind a condition that holds, of conditions and values in turn, or else the last one. -/
def choiceOf : List Expression → Expression
  | [condition, positive, negative] => choice condition positive negative
  | [condition, positive] => choice condition positive (constant .null)
  | _ => constant .null

end Expression

namespace Source

def tableNames : Source → List String
  | table name _ => [name]
  | join _ _ _ _ _ _ left right => left.tableNames ++ right.tableNames
  | _ => []

end Source

namespace Query

/-- A query that goes on from its own rows: the one it starts with, and the one that finds more. -/
def mentions (name : String) : Query → Bool
  | select _ _ _ source .. => source.tableNames.any (isSameName name)
  | compound _ left right => left.mentions name || right.mentions name
  | ordered inner .. => inner.mentions name
  | named _ _ _ inner => inner.mentions name

end Query

/-- The first name that is not among others, of one that ends in a number from some number on. A bound says how many
are tried. -/
def freshName (others : List String) (stem : String) : Nat → Nat → String
  | 0, n => stem ++ ":" ++ toString n
  | bound + 1, n =>
    let name := stem ++ ":" ++ toString n
    if others.any (isSameName name) then freshName others stem bound (n + 1) else name

/-- A name as the stem of others, without a number that has been put behind it. -/
def nameStem (name : String) : String :=
  let digits := name.toList.reverse.takeWhile Char.isDigit
  match name.toList.reverse.drop digits.length with
  | ':' :: rest => if rest.isEmpty then name else String.ofList rest.reverse
  | _ => name

/-- Names for columns of which none comes twice. The words for true and false are no names. -/
def distinctNames (names : List String) : List String :=
  names.zipIdx.foldl (fun found (name, k) =>
    let name := if ["true", "false"].contains (lowerAscii name) then "column" ++ toString (k + 1) else name
    found ++ [if found.any (isSameName name) then freshName found (nameStem name) found.length 1 else name]) []

def Layout.ofResults (label : Option String) (columns : List ResultColumn) : Layout :=
  let names := distinctNames (columns.map ResultColumn.name)
  ⟨(columns.zip names).zipIdx.map fun ((column, name), k) =>
    ⟨label, name, k, column.affinity, column.collation, .plain, []⟩, columns.length⟩

def Layout.ofFunction? (name : String) : Option Layout :=
  if name != "json_each" && name != "json_tree" then none
  else
    let column (visibility : ColumnVisibility) (name : String) (k : Nat) : LayoutColumn :=
      ⟨none, name, k, some .blob, .binary, visibility, []⟩
    let plain := ["key", "value", "type", "atom", "id", "parent", "fullkey", "path"]
    some ⟨plain.zipIdx.map (fun (name, k) => column .plain name k) ++
      [column .hidden "json" 8, column .hidden "root" 9, column .reserve "rowid" 10], 11⟩

end InspectionForms
