import InspectionForms.Json.Double
import InspectionForms.Text.Digits

namespace InspectionForms

/-- A number of a JSON text: an integer of 64 bits, signed if it is negative, or a binary64 number. -/
inductive Number
  | integer (value : Int) (inRange : -0x8000000000000000 ≤ value ∧ value < 0x10000000000000000)
  | double (value : Double)
  deriving DecidableEq

/-- The parts of a number as it is written. -/
structure NumberLiteral where
  negative : Bool
  whole : List Char
  fraction : Option (List Char)
  exponent : Option Int
  deriving DecidableEq

namespace NumberLiteral

def takeDigits? (cs : List Char) : Option (List Char × List Char) :=
  let digits := cs.takeWhile Char.isDigit
  if digits.isEmpty then none else some (digits, cs.dropWhile Char.isDigit)

/-- The whole part: a single zero, or digits of which the first is not zero. -/
def takeWhole? (cs : List Char) : Option (List Char × List Char) := do
  let (digits, rest) ← takeDigits? cs
  if digits.head? = some '0' ∧ digits ≠ ['0'] then none else some (digits, rest)

def takeFraction? : List Char → Option (Option (List Char) × List Char)
  | '.' :: cs => (takeDigits? cs).map fun (digits, rest) => (some digits, rest)
  | cs => some (none, cs)

def takeSigned? (cs : List Char) : Option (Int × List Char) :=
  match cs with
  | '-' :: cs => (takeDigits? cs).map fun (digits, rest) => (-(Nat.ofDigitChars 10 digits 0 : Int), rest)
  | '+' :: cs => (takeDigits? cs).map fun (digits, rest) => (Nat.ofDigitChars 10 digits 0, rest)
  | cs => (takeDigits? cs).map fun (digits, rest) => (Nat.ofDigitChars 10 digits 0, rest)

def takeExponent? : List Char → Option (Option Int × List Char)
  | 'e' :: cs | 'E' :: cs => (takeSigned? cs).map fun (value, rest) => (some value, rest)
  | cs => some (none, cs)

def ofChars? (cs : List Char) : Option NumberLiteral := do
  let (negative, cs) := match cs with
    | '-' :: cs => (true, cs)
    | cs => (false, cs)
  let (whole, cs) ← takeWhole? cs
  let (fraction, cs) ← takeFraction? cs
  let (exponent, cs) ← takeExponent? cs
  if cs.isEmpty then some ⟨negative, whole, fraction, exponent⟩ else none

/-- Appends digits to a number as long as it stays below `2 ^ 64`. The number of digits left over comes
second. -/
def appendDigits (value : Nat) : List Char → Nat × Nat
  | [] => (value, 0)
  | c :: cs =>
    let next := 10 * value + (c.toNat - '0'.toNat)
    if next < 0x10000000000000000 then appendDigits next cs else (value, cs.length + 1)

/-- The decimal that a literal is read as, with a coefficient below `2 ^ 64`. Whole digits that are left over
count as zeros, yet they do not keep the fraction from being appended. -/
def decimal (l : NumberLiteral) : Decimal :=
  let fraction := l.fraction.getD []
  let whole := appendDigits 0 l.whole
  let appended := appendDigits whole.1 fraction
  ⟨appended.1, l.exponent.getD 0 + whole.2 - (fraction.length - appended.2)⟩

/-- The integer that is written without fraction and exponent. A zero with a minus sign is none. -/
def integer? (l : NumberLiteral) : Option Int :=
  let value := Nat.ofDigitChars 10 l.whole 0
  if l.fraction.isSome || l.exponent.isSome || (l.negative && value == 0) then none
  else some (if l.negative then -value else value)

end NumberLiteral

namespace Number

def ofInt? (value : Int) : Option Number :=
  if h : -0x8000000000000000 ≤ value ∧ value < 0x10000000000000000 then some (.integer value h) else none

/-- A literal is an integer if it is written as one and has 64 bits, else the binary64 number that its decimal
is read as. -/
def ofLiteral? (l : NumberLiteral) : Option Number :=
  match l.integer?.bind ofInt? with
  | some n => some n
  | none => (Double.ofDecimal? l.negative l.decimal).map double

def ofChars? (cs : List Char) : Option Number := (NumberLiteral.ofChars? cs).bind ofLiteral?

def text : Number → List Char
  | integer value _ => intDigits value
  | double value => value.text

def isZero : Number → Bool
  | integer value _ => value == 0
  | double value => value.rank.val == 0

/-- The value of an integer that is not negative. -/
def toNat? : Number → Option Nat
  | integer value _ => if 0 ≤ value then some value.toNat else none
  | double _ => none

end Number

end InspectionForms
