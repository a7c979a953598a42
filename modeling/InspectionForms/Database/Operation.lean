import InspectionForms.Database.Cell

namespace InspectionForms

inductive BinaryOperation
  | either
  | both
  | equals
  | differs
  | same
  | notSame
  | less
  | atMost
  | greater
  | atLeast
  | bitsOfBoth
  | bitsOfEither
  | shiftLeft
  | shiftRight
  | add
  | subtract
  | multiply
  | divide
  | remainder
  | join
  deriving DecidableEq, Repr

namespace Cell

def ofBool (value : Bool) : Cell := integer (if value then 1 else 0)

def ofTruth : Option Bool → Cell
  | some value => ofBool value
  | none => null

def textBytes? : Cell → Option (List UInt8)
  | null => none
  | integer value => some (utf8 (intText value))
  | real negative rank => some (utf8 (realText negative rank))
  | text bytes | blob bytes => some bytes

def characters? (cell : Cell) : Option (List Char) := cell.textBytes?.map fun bytes => (textOfBytes bytes).toList

def leadingNumeral (cs : List Char) : List Char :=
  let sign := cs.take (if cs.head? = some '-' ∨ cs.head? = some '+' then 1 else 0)
  let rest := cs.drop sign.length
  let whole := rest.takeWhile Char.isDigit
  let rest := rest.dropWhile Char.isDigit
  let fraction := if rest.head? = some '.' then '.' :: rest.tail.takeWhile Char.isDigit else []
  let rest := rest.drop fraction.length
  let exponentSign := (rest.drop 1).take (if rest[1]? = some '-' ∨ rest[1]? = some '+' then 1 else 0)
  let exponentDigits := (rest.drop (1 + exponentSign.length)).takeWhile Char.isDigit
  let hasExponent := (rest.head? = some 'e' ∨ rest.head? = some 'E') ∧ !exponentDigits.isEmpty
  sign ++ whole ++ fraction ++ (if hasExponent then rest.take 1 ++ exponentSign ++ exponentDigits else [])

def number : Cell → Cell
  | text bytes | blob bytes =>
    (ofSpelling? (String.ofList (leadingNumeral ((textOfBytes bytes).toList.dropWhile isNumeralBlank)))).getD
      (integer 0)
  | cell => cell

def truth (cell : Cell) : Option Bool := if cell = null then none else some (cell.number.units != 0)

def isTrue (cell : Cell) : Bool := cell.truth == some true

def toReal : Cell → Cell
  | integer value => realOfInt value
  | cell => cell

def realOfRatio (numerator : Int) (denominator : Nat) : Cell :=
  real (decide (numerator < 0)) (min (Double.nearestRank numerator.natAbs denominator) (Double.infiniteRank))

def bitwise (change : BitVec 64 → BitVec 64 → BitVec 64) (a b : Int) : Cell :=
  integer (change (.ofInt 64 a) (.ofInt 64 b)).toInt

/-- Shifts to the left, or to the right if the distance is negative. -/
def shifted (value distance : Int) : Cell :=
  if 0 ≤ distance then integer ((BitVec.ofInt 64 value) <<< (min distance.toNat 64)).toInt
  else integer (value >>> (min (-distance).toNat 64))

/-- Computes with two numbers. Integers that are too large become real. -/
def arithmetic (operation : BinaryOperation) (a b : Cell) : Cell :=
  let reals : Cell :=
    let (m, n) := (a.toReal.units, b.toReal.units)
    match operation with
    | .add => realOfRatio (m + n) Double.unitsOfOne
    | .subtract => realOfRatio (m - n) Double.unitsOfOne
    | .multiply => realOfRatio (m * n) (Double.unitsOfOne * Double.unitsOfOne)
    | .divide => if n = 0 then null else realOfRatio (if n < 0 then -m else m) n.natAbs
    | _ => if b.leadingInteger = 0 then null else realOfInt (Int.tmod a.leadingInteger b.leadingInteger)
  match a, b with
  | null, _ | _, null => null
  | integer m, integer n =>
    let result : Option Int := match operation with
      | .add => some (m + n)
      | .subtract => some (m - n)
      | .multiply => some (m * n)
      | .divide => if n = 0 then none else some (Int.tdiv m n)
      | _ => if n = 0 then none else some (Int.tmod m n)
    match result with
    | none => null
    | some value => if InInt64 value then integer value else reals
  | _, _ => reals

def cast (affinity : Affinity) (cell : Cell) : Cell :=
  match affinity, cell with
  | _, null => null
  | .text, cell => text (cell.textBytes?.getD [])
  | .blob, cell => blob (cell.textBytes?.getD [])
  | .integer, cell => integer cell.leadingInteger
  | .real, cell => cell.number.toReal
  | .numeric, real negative rank => real negative rank
  | .numeric, cell => (adapt .numeric cell.number)

/-- Compares two values, of which neither is null unless it is asked for the same value. -/
def compared (collation : Collation) (operation : BinaryOperation) (a b : Cell) : Cell :=
  if operation = .same then ofBool (a == b || a.agrees collation b)
  else if operation = .notSame then ofBool !(a == b || a.agrees collation b)
  else if a = null ∨ b = null then null
  else ofBool (match operation with
    | .equals => a.agrees collation b
    | .differs => !a.agrees collation b
    | .less => a.precedes collation b
    | .atMost => !b.precedes collation a
    | .greater => b.precedes collation a
    | _ => !a.precedes collation b)

end Cell

end InspectionForms
