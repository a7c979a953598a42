import InspectionForms.Database.Document.Rows
import InspectionForms.Database.Naming
import InspectionForms.Database.Window

namespace InspectionForms

abbrev QueryRow := List Argument

/-- A row that a query gives a result for, with the rows of its group. -/
structure GroupedRow where
  row : QueryRow
  members : List QueryRow

/-- What values are computed from: the rows around a value, from the innermost on, the rows of the group, all rows that
the query gives results for with the position of this one, and tables. `present` is the moment that counts as the
present, unless values must not depend on it. `lastInserted` is the number of the last new row, `changes` how many rows
the last statement has changed, and `totalChanges` how many all of them have. -/
structure Scope where
  rows : List QueryRow
  members : List QueryRow
  peers : List GroupedRow
  position : Nat
  common : List (String × List QueryRow)
  tables : String → Except Obstacle (List QueryRow)
  present : Option Cell
  lastInserted : Int
  changes : Int
  totalChanges : Int

namespace Scope

def ofCells (cells : List Cell) : Scope :=
  { rows := [cells.map .ofCell], members := [], peers := [], position := 0, common := []
    tables := fun _ => .error .unknown
    present := none, lastInserted := 0, changes := 0, totalChanges := 0 }

def within (scope : Scope) (row : QueryRow) : Scope :=
  { scope with rows := row :: scope.rows, members := [], peers := [] }

def atPosition (scope : Scope) (peers : List GroupedRow) (position : Nat) : Scope :=
  match peers[position]? with
  | some grouped => { scope with rows := grouped.row :: scope.rows, members := grouped.members, peers, position }
  | none => scope

def atMember (scope : Scope) (row : QueryRow) : Scope :=
  { scope with rows := row :: scope.rows.drop 1, members := [], peers := [] }

end Scope

def Affinity.isNumeric : Affinity → Bool
  | numeric | integer | real => true
  | blob | text => false

/-- What becomes of two values before they are compared, if they come with affinities: numbers win over texts. -/
def Affinity.ofComparison : Option Affinity → Option Affinity → Affinity
  | some a, some b => if a.isNumeric || b.isNumeric then numeric else blob
  | some a, none | none, some a => if a.isNumeric then numeric else a
  | none, none => blob

namespace Expression

def collationNamed (name : String) : Except Obstacle Collation :=
  match Collation.ofName? name with
  | some collation => .ok collation
  | none => .error (.failed ("no such collation sequence: " ++ name))

def orderCollation (value : Expression) : Except Obstacle Collation := collationNamed (value.collation?.getD "BINARY")

def orderCollations : List Expression → Except Obstacle (List Collation)
  | [] => .ok []
  | value :: rest => do return (← value.orderCollation) :: (← orderCollations rest)

def comparison (left right : Expression) : Except Obstacle Collation :=
  collationNamed (((left.givenCollation?.or right.givenCollation?).or
    ((left.ownCollation?.or right.ownCollation?).map Collation.name)).getD "BINARY")

def combine (operation : BinaryOperation) (left right : Expression) (a b : Cell) : Except Obstacle Cell :=
  match operation with
  | .equals | .differs | .same | .notSame | .less | .atMost | .greater | .atLeast => do
    let affinity := Affinity.ofComparison left.affinity? right.affinity?
    return .compared (← comparison left right) operation (a.adapt affinity) (b.adapt affinity)
  | .join => .ok (match a.textBytes?, b.textBytes? with
    | some a, some b => .text (a ++ b)
    | _, _ => .null)
  | .add | .subtract | .multiply | .divide | .remainder => .ok (.arithmetic operation a.number b.number)
  | .bitsOfBoth | .bitsOfEither | .shiftLeft | .shiftRight | .both | .either =>
    if a = .null ∨ b = .null then .ok .null else
    let (m, n) := (a.leadingInteger, b.leadingInteger)
    .ok (match operation with
      | .bitsOfBoth => .bitwise (· &&& ·) m n
      | .bitsOfEither => .bitwise (· ||| ·) m n
      | .shiftLeft => .shifted m n
      | _ => .shifted m (-n))

/-- Whether values are among some rows, each compared in its own way. Null leaves it open. -/
def amongRows (ways : List (Affinity × Collation)) (cells : List Cell) (rows : List (List Cell)) : Cell :=
  let matches? (row : List Cell) : Option Bool :=
    (ways.zip (cells.zip row)).foldl (fun found ((affinity, collation), a, b) =>
      let agree : Option Bool := if a = .null ∨ b = .null then none
        else some ((a.adapt affinity).agrees collation (b.adapt affinity))
      if found = some false ∨ agree = some false then some false
      else if found = some true then agree else none) (some true)
  .ofTruth (if rows.any fun row => matches? row == some true then some true
    else if rows.any fun row => matches? row == none then none else some false)

def circumstance? (scope : Scope) (name : String) : Option Cell :=
  match name with
  | "last_insert_rowid" => some (.integer scope.lastInserted)
  | "changes" => some (.integer scope.changes)
  | "total_changes" => some (.integer scope.totalChanges)
  | "random" => some (.integer 1)
  | _ => none

def applied (scope : Scope) (collation : Collation) (name : String) (arguments : List Argument) :
    Except Obstacle Argument :=
  let lower := lowerAscii name
  let moments := [("current_timestamp", "datetime"), ("current_date", "date"), ("current_time", "time")]
  match circumstance? scope lower with
  | some cell => .ok (.ofCell cell)
  | none =>
    if (FunctionKind.ofName? lower none).isNone then .error (.failed ("unknown function: " ++ name ++ "()"))
    else match moments.lookup lower, scope.present with
      | some moment, some present => Argument.call collation moment [.ofCell present]
      | some _, none => .error (.changing lower)
      | none, some present =>
        if Moment.functions.contains lower then
          Argument.call collation lower ((Moment.atPresent present lower (arguments.map Argument.cell)).map .ofCell)
        else Argument.call collation lower arguments
      | none, none => Argument.call collation lower arguments

/-- The row of a group from which values are taken that are not computed from all of its rows: that of the least or
the greatest value if this is all that is asked for, and else the last one. -/
def representative (extremes : List (Bool × Collation × List Cell)) (rows : List QueryRow) : QueryRow :=
  match extremes with
  | [(isGreatest, collation, cells)] =>
    let found := (rows.zip cells).foldl (fun best? candidate =>
      match best? with
      | none => if candidate.2 = .null then none else some candidate
      | some best =>
        let isBetter :=
          if isGreatest then best.2.precedes collation candidate.2 else candidate.2.precedes collation best.2
        some (if candidate.2 != .null && isBetter then candidate else best)) none
    (found.map Prod.fst).getD (rows.getLastD [])
  | _ => rows.getLastD []

end Expression

namespace Query

def collations : Query → List Collation
  | select _ values .. => values.map fun value => ((value.collation?.bind Collation.ofName?).getD .binary)
  | compound _ left _ => left.collations
  | ordered inner .. => inner.collations
  | named _ _ _ inner => inner.collations

def affinities : Query → List (Option Affinity)
  | select _ values .. => values.map Expression.affinity?
  | compound _ _ right => right.affinities
  | ordered inner .. => inner.affinities
  | named _ _ _ inner => inner.affinities

def cellsOf (row : QueryRow) : List Cell := row.map Argument.cell

/-- Rows as they are when they have been put away, without a sign of documents. -/
def stored (rows : List QueryRow) : List QueryRow := rows.map fun row => (cellsOf row).map .ofCell

def distinctRows {α : Type} (collations : List Collation) (cells : α → List Cell) (rows : List α) : List α :=
  rows.foldl (fun kept row =>
    if kept.any fun other => areAlike collations (cells other) (cells row) then kept else kept ++ [row]) []

def sortedRows (collations : List Collation) (rows : List QueryRow) : List QueryRow :=
  (stored rows).mergeSort fun a b =>
    comesBefore (collations.map fun collation => (collation, ⟨false, false⟩)) (cellsOf a) (cellsOf b)

/-- The rows of two queries together. Rows of which none comes twice stand in the order of their values. -/
def combinedRows (operation : SetOperation) (collations : List Collation) (left right : List QueryRow) :
    List QueryRow :=
  let isIn (rows : List QueryRow) (row : QueryRow) : Bool :=
    rows.any fun other => areAlike collations (cellsOf other) (cellsOf row)
  match operation with
  | .unionAll => left ++ right
  | .union => sortedRows collations (distinctRows collations cellsOf (left ++ right))
  | .except => sortedRows collations ((distinctRows collations cellsOf left).filter fun row => !isIn right row)
  | .intersect => sortedRows collations ((distinctRows collations cellsOf left).filter (isIn right))

def boundOf (cell : Cell) : Except Obstacle Int :=
  match cell.adapt .integer with
  | .integer value => .ok value
  | _ => .error (.failed "datatype mismatch")

/-- The part of some rows that bounds allow: how many there are at most, and how many are left out before. -/
def boundedRows {α : Type} (bounds : List Cell) (rows : List α) : Except Obstacle (List α) := do
  let numbers ← bounds.mapM boundOf
  let rows := rows.drop ((numbers[1]?).getD 0).toNat
  return match numbers.head? with
    | none => rows
    | some count => if count < 0 then rows else rows.take count.toNat

def orderedRows {α : Type} (order : List (Collation × SortDirection)) (rows : List (List Cell × α)) :
    List (List Cell × α) :=
  if order.isEmpty then rows else rows.mergeSort fun a b => comesBefore order a.1 b.1

def groupedRows (collations : List Collation) (rows : List (List Cell × QueryRow)) : List (List QueryRow) :=
  let sorted := orderedRows (collations.map fun collation => (collation, ⟨false, false⟩)) rows
  ((sorted.splitBy fun a b => areAlike collations a.1 b.1).map fun group => group.map Prod.snd)

/-- The rows that a query finds which goes on from its own rows: those it starts with, and those that each row leads
to. A bound says how many rows can be found. -/
def iterated (isUnion : Bool) (collations : List Collation) (next : QueryRow → Except Obstacle (List QueryRow))
    (arrange : List QueryRow → Except Obstacle (List QueryRow)) :
    Nat → List QueryRow → List QueryRow → List QueryRow → Except Obstacle (List QueryRow)
  | 0, _, _, found => .ok found.reverse
  | _, [], _, found => .ok found.reverse
  | bound + 1, row :: queue, seen, found => do
    let fresh := (← next row).foldl (fun fresh row =>
      if isUnion && (seen ++ fresh).any fun other => areAlike collations (cellsOf other) (cellsOf row) then fresh
      else fresh ++ [row]) []
    iterated isUnion collations next arrange bound (← arrange (queue ++ fresh)) (if isUnion then seen ++ fresh else [])
      (row :: found)

def iterations (bounds : List Cell) : Nat :=
  match bounds.map Cell.leadingInteger with
  | [] => 20000
  | count :: rest => if count < 0 then 20000 else count.toNat + (rest.headD 0).toNat

end Query

mutual

def Expression.argument (scope : Scope) : Expression → Except Obstacle Argument
  | .constant value => .ok (.ofCell value)
  | .column .. | .every _ | .row _ => .error .unknown
  | .field place => .ok ((((scope.rows[place.depth]?).bind (·[place.index]?))).getD (.ofCell .null))
  | .minus operand => do
    let number := (← operand.argument scope).cell.number
    return .ofCell (match number with
      | .real negative rank => .real (!negative) rank
      | number => .arithmetic .subtract (.integer 0) number)
  | .negation operand => do return .ofCell (.ofTruth ((← operand.argument scope).cell.truth.map not))
  | .complement operand => do
    let cell := (← operand.argument scope).cell
    return .ofCell (if cell = .null then .null else .bitwise (fun a _ => ~~~a) cell.leadingInteger 0)
  | .binary operation left right => do
    let a := (← left.argument scope).cell
    match operation with
    | .both =>
      if a.truth = some false then return .ofCell (.integer 0)
      let truth := (← right.argument scope).cell.truth
      return .ofCell (.ofTruth (if truth = some false then truth else if a.truth = some true then truth else none))
    | .either =>
      if a.truth = some true then return .ofCell (.integer 1)
      let truth := (← right.argument scope).cell.truth
      return .ofCell (.ofTruth (if truth = some true then truth else if a.truth = some false then truth else none))
    | operation => return .ofCell (← Expression.combine operation left right a (← right.argument scope).cell)
  | .member operand values => do
    let cell := (← operand.argument scope).cell
    let cells := (← Expression.arguments scope values).map Argument.cell
    let affinity := (operand.affinity?.map fun a => if a.isNumeric then .numeric else a).getD .blob
    return .ofCell (Expression.amongRows [(affinity, ← operand.orderCollation)] [cell] (cells.map ([·])))
  | .choice condition positive negative => do
    if (← condition.argument scope).cell.truth = some true then positive.argument scope else negative.argument scope
  | .call "coalesce" values => Expression.firstPresent scope values
  | .call "ifnull" values => Expression.firstPresent scope values
  | .call "+" [operand] => operand.argument scope
  | .call name values => do
    let collation := ((values.findSome? Expression.collation?).bind Collation.ofName?).getD .binary
    Expression.applied scope collation name (← Expression.arguments scope values)
  | .gathered name isDistinct values orders directions conditions => do
    let kept ← scope.members.filterM fun row => do
      return (← Expression.arguments (scope.atMember row) conditions).all fun argument => argument.cell.isTrue
    let rows ← kept.mapM fun row => do
      let inner := scope.atMember row
      return ((← Expression.arguments inner orders).map Argument.cell, ← Expression.arguments inner values)
    let collation ← (values.head?.map Expression.orderCollation).getD (.ok .binary)
    let rows := if isDistinct then
        Query.distinctRows [collation] (fun row => (row.2.map Argument.cell).take 1) (rows.filter fun row =>
          row.2.head?.any fun argument => argument.cell != .null)
      else rows
    let rows := Query.orderedRows ((← Expression.orderCollations orders).zip directions) rows
    Argument.aggregate collation (lowerAscii name) (rows.map Prod.snd)
  | .framed name values conditions _ parts orders directions frame distances => do
    let entries ← (List.range scope.peers.length).mapM fun k => do
      let inner := { scope with rows := scope.rows.drop 1 }.atPosition scope.peers k
      let part := (← Expression.arguments inner parts).map Argument.cell
      let order := (← Expression.arguments inner orders).map Argument.cell
      let counts := (← Expression.arguments inner conditions).all fun argument => argument.cell.isTrue
      return (⟨part, order, ← Expression.arguments inner values, counts⟩ : WindowEntry)
    let window : WindowOrder :=
      ⟨← Expression.orderCollations parts, (← Expression.orderCollations orders).zip directions⟩
    let distances := (← Expression.arguments scope distances).map Argument.cell
    let collation ← (values.head?.map Expression.orderCollation).getD (.ok .binary)
    Argument.overWindow collation (lowerAscii name) window frame distances entries scope.position
  | .cast operand affinity => do return .ofCell ((← operand.argument scope).cell.cast affinity)
  | .collated operand _ => operand.argument scope
  | .refusal action message => do
    let bytes := ((← message.argument scope).cell.textBytes?.getD []).takeWhile (· != 0)
    throw (.refused action (textOfBytes bytes))
  | .first index inner => do return ((← inner.results scope).head?.bind (·[index]?)).getD (.ofCell .null)
  | .presence inner => do return .ofCell (.ofBool !(← inner.results scope).isEmpty)
  | .within (.row operands) inner => do
    let cells := (← Expression.arguments scope operands).map Argument.cell
    let rows := (← inner.results scope).map Query.cellsOf
    let ways := (operands.zip inner.affinities).map fun (operand, affinity) =>
      (Affinity.ofComparison operand.affinity? affinity,
        ((operand.collation?.bind Collation.ofName?).getD .binary))
    return .ofCell (Expression.amongRows ways cells rows)
  | .within operand inner => do
    let cell := (← operand.argument scope).cell
    let rows := (← inner.results scope).map Query.cellsOf
    let affinity := Affinity.ofComparison operand.affinity? (inner.affinities.headD none)
    let collation ← Expression.collationNamed ((operand.collation?.or
      (inner.collations.head?.map Collation.name)).getD "BINARY")
    return .ofCell (Expression.amongRows [(affinity, collation)] [cell] rows)

def Expression.arguments (scope : Scope) : List Expression → Except Obstacle (List Argument)
  | [] => .ok []
  | operand :: rest => do return (← operand.argument scope) :: (← Expression.arguments scope rest)

def Expression.firstPresent (scope : Scope) : List Expression → Except Obstacle Argument
  | [] => .ok (.ofCell .null)
  | operand :: rest => do
    let found ← operand.argument scope
    if found.cell = .null then Expression.firstPresent scope rest else return found

def Expression.extremes (scope : Scope) (rows : List QueryRow) :
    List Expression → Except Obstacle (List (Bool × Collation × List Cell))
  | [] => .ok []
  | .gathered name _ [operand] _ _ _ :: rest => do
    let others ← Expression.extremes scope rows rest
    let lower := lowerAscii name
    if lower != "min" && lower != "max" then return (true, .binary, []) :: (true, .binary, []) :: others
    let cells ← rows.mapM fun row => do return (← operand.argument (scope.within row)).cell
    return (lower == "max", ← operand.orderCollation, cells) :: others
  | operand :: rest => do
    let others ← Expression.extremes scope rows rest
    return if operand.isTogether then (true, .binary, []) :: (true, .binary, []) :: others else others

/-- Rows in the order of windows, of which the first one counts most. -/
def Expression.windowed (scope : Scope) (rows : List GroupedRow) : List Expression → Except Obstacle (List GroupedRow)
  | [] => .ok rows
  | .framed _ _ _ _ parts orders directions _ _ :: rest => do
    let rows ← Expression.windowed scope rows rest
    let keyed ← rows.zipIdx.mapM fun (row, k) => do
      let inner := scope.atPosition rows k
      return ((← Expression.arguments inner parts).map Argument.cell ++
        (← Expression.arguments inner orders).map Argument.cell, row)
    let rising := parts.map fun _ => (⟨false, false⟩ : SortDirection)
    let collations := (← Expression.orderCollations parts) ++ (← Expression.orderCollations orders)
    return (Query.orderedRows (collations.zip (rising ++ directions)) keyed).map Prod.snd
  | _ :: rest => Expression.windowed scope rows rest

def Query.results (scope : Scope) : Query → Except Obstacle (List QueryRow)
  | .select isDistinct values _ source conditions groups groupConditions orders directions bounds _ windows => do
    let found ← (← source.rows scope []).filterM fun row => do
      return (← Expression.arguments (scope.within row) conditions).all fun argument => argument.cell.isTrue
    let isGrouped := !groups.isEmpty || (values ++ groupConditions ++ orders).any Expression.isTogether
    let grouped ← if !isGrouped then pure (found.map fun row => (⟨row, []⟩ : GroupedRow)) else do
      let keyed ← found.mapM fun row => do
        return ((← Expression.arguments (scope.within row) groups).map Argument.cell, row)
      let parts := if groups.isEmpty then [found] else
        Query.groupedRows (groups.map fun group => ((group.collation?.bind Collation.ofName?).getD .binary)) keyed
      parts.mapM fun part => do
        return (⟨Expression.representative (← Expression.extremes scope part values) part, part⟩ : GroupedRow)
    let kept ← grouped.filterM fun row => do
      let conditions ← Expression.arguments (scope.atPosition [row] 0) groupConditions
      return conditions.all fun argument => argument.cell.isTrue
    let kept ← Expression.windowed scope kept windows
    let results ← (List.range kept.length).mapM fun k => do
      let inner := scope.atPosition kept k
      return ((← Expression.arguments inner orders).map Argument.cell, ← Expression.arguments inner values)
    let collations := values.map fun value => ((value.collation?.bind Collation.ofName?).getD .binary)
    let results :=
      if isDistinct then Query.distinctRows collations (fun row => Query.cellsOf row.2) results else results
    let sorted := (Query.orderedRows ((← Expression.orderCollations orders).zip directions) results).map Prod.snd
    let sorted := if orders.isEmpty then sorted else Query.stored sorted
    Query.boundedRows ((← Expression.arguments scope bounds).map Argument.cell) sorted
  | .compound operation left right => do
    return Query.combinedRows operation left.collations (← left.results scope) (← right.results scope)
  | .ordered inner orders directions bounds => do
    let keyed ← (← inner.results scope).mapM fun row => do
      return ((← Expression.arguments (scope.within row) orders).map Argument.cell, row)
    let sorted := (Query.orderedRows ((← Expression.orderCollations orders).zip directions) keyed).map Prod.snd
    Query.boundedRows ((← Expression.arguments scope bounds).map Argument.cell) sorted
  | .named name _ (.compound operation left right) inner => do
    let first ← left.results scope
    let rows ← if !right.mentions name then
        pure (Query.combinedRows operation left.collations first (← right.results scope))
      else do
        let isUnion := operation == .union
        let first := if isUnion then Query.distinctRows left.collations Query.cellsOf first else first
        Query.iterated isUnion left.collations
          (fun row => right.results { scope with common := (name, [row]) :: scope.common }) pure
          (Query.iterations []) first first []
    inner.results { scope with common := (name, rows) :: scope.common }
  | .named name _ (.ordered (.compound operation left right) orders directions bounds) inner => do
    let first ← left.results scope
    let collations ← Expression.orderCollations orders
    let arrange (rows : List QueryRow) : Except Obstacle (List QueryRow) := do
      let keyed ← rows.mapM fun row => do
        return ((← Expression.arguments (scope.within row) orders).map Argument.cell, row)
      return (Query.orderedRows (collations.zip directions) keyed).map Prod.snd
    let cells := (← Expression.arguments scope bounds).map Argument.cell
    let rows ← if !right.mentions name then
        arrange (Query.combinedRows operation left.collations first (← right.results scope))
      else do
        let isUnion := operation == .union
        let first := if isUnion then Query.distinctRows left.collations Query.cellsOf first else first
        Query.iterated isUnion left.collations
          (fun row => right.results { scope with common := (name, [row]) :: scope.common }) arrange
          (Query.iterations cells) (← arrange first) first []
    let rows ← Query.boundedRows cells rows
    inner.results { scope with common := (name, rows) :: scope.common }
  | .named name _ definition inner => do
    let rows ← definition.results scope
    inner.results { scope with common := (name, rows) :: scope.common }

def Source.rows (scope : Scope) (before : QueryRow) : Source → Except Obstacle (List QueryRow)
  | .nothing => .ok [[]]
  | .table name _ =>
    match scope.common.find? fun table => isSameName table.1 name with
    | some (_, rows) => .ok rows
    | none => scope.tables name
  | .function name values _ => do Document.functionRows name (← Expression.arguments (scope.within before) values)
  | .query inner _ => inner.results scope
  | .join kind _ _ conditions leftWidth rightWidth left right => do
    let fits (row : QueryRow) : Except Obstacle Bool := do
      return (← Expression.arguments (scope.within row) conditions).all fun argument => argument.cell.isTrue
    let nulls (count : Nat) : QueryRow := List.replicate count (.ofCell .null)
    let lefts ← left.rows scope before
    let joined ← lefts.mapM fun own => do
      let found ← (← right.rows scope (before ++ own)).filterM fun other => fits (own ++ other)
      return if found.isEmpty && (kind == .left || kind == .full) then [own ++ nulls rightWidth]
        else found.map (own ++ ·)
    if kind != .right && kind != .full then return joined.flatten
    let alone ← (← right.rows scope before).filterM fun other => do
      return !(← lefts.anyM fun own => fits (own ++ other))
    return joined.flatten ++ alone.map (nulls leftWidth ++ ·)

end

namespace Expression

def value (scope : Scope) (expression : Expression) : Except Obstacle Cell :=
  (expression.argument scope).map Argument.cell

def valuesOfAll (scope : Scope) (expressions : List Expression) : Except Obstacle (List Cell) :=
  (arguments scope expressions).map fun values => values.map Argument.cell

end Expression

end InspectionForms
