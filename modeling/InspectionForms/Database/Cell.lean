import InspectionForms.Json.Double
import InspectionForms.Text.Blank
import InspectionForms.Text.Digits
import InspectionForms.Text.Utf8

namespace InspectionForms

/-- A value in a row. A real number, which may be infinite, is its sign and its rank among the magnitudes. Texts and
blobs are any bytes. -/
inductive Cell
  | null
  | integer (value : Int)
  | real (negative : Bool) (rank : Nat)
  | text (bytes : List UInt8)
  | blob (bytes : List UInt8)
  deriving DecidableEq, Repr

/-- What a column does to the values that are put into it. -/
inductive Affinity
  | blob
  | text
  | numeric
  | integer
  | real
  deriving DecidableEq, Repr

/-- How texts are compared: byte by byte, with letters from A to Z in either case, or without blanks at the end. -/
inductive Collation
  | binary
  | caseless
  | trimmed
  deriving DecidableEq, Repr

def hasInfix (part : List Char) : List Char → Bool
  | [] => part.isEmpty
  | c :: rest => part.isPrefixOf (c :: rest) || hasInfix part rest

def Affinity.ofTypeName (name : String) : Affinity :=
  let mentions (parts : List String) : Bool := parts.any fun part => hasInfix part.toList name.toList
  if mentions ["int"] then integer
  else if mentions ["char", "clob", "text"] then text
  else if name.isEmpty || mentions ["blob"] then blob
  else if mentions ["real", "floa", "doub"] then real
  else numeric

def Collation.name : Collation → String
  | binary => "BINARY"
  | caseless => "NOCASE"
  | trimmed => "RTRIM"

def Collation.ofName? (name : String) : Option Collation :=
  [binary, caseless, trimmed].find? fun collation => isSameName collation.name name

def Collation.key (collation : Collation) (bytes : List UInt8) : List UInt8 :=
  match collation with
  | binary => bytes
  | caseless => bytes.map fun b => if 0x41 ≤ b ∧ b ≤ 0x5A then b + 0x20 else b
  | trimmed => (bytes.reverse.dropWhile (· == 0x20)).reverse

namespace Cell

def ofString (text : String) : Cell := .text (utf8 text)

/-- The real number that eight bytes stand for. What is no number becomes null. -/
def ofBits (bits : Nat) : Cell :=
  let rank := bits % 0x8000000000000000
  if Double.infiniteRank < rank then null else real (decide (0x8000000000000000 ≤ bits)) rank

/-- A real number without a fraction that has 64 bits. -/
def wholeOfReal? (negative : Bool) (rank : Nat) : Option Int :=
  let magnitude : Nat := Double.units rank / Double.unitsOfOne
  if Double.units rank % Double.unitsOfOne = 0 ∧ magnitude < 0x8000000000000000 then
    some (if negative then -magnitude else magnitude)
  else none

def realOfInt (value : Int) : Cell := real (decide (value < 0)) (Double.nearestRank value.natAbs 1)

def isNumeralBlank (c : Char) : Bool := c == ' ' || (decide ('\t' ≤ c) && decide (c ≤ '\r'))

def takeSign : List Char → Bool × List Char
  | '-' :: cs => (true, cs)
  | '+' :: cs => (false, cs)
  | cs => (false, cs)

def exponent? : List Char → Option Int
  | [] => some 0
  | c :: cs =>
    if c = 'e' ∨ c = 'E' then
      let (negative, cs) := takeSign cs
      (naturalOfDigits? cs).map fun n => if negative then -n else n
    else none

def ofNumeral? (text : String) : Option Cell := do
  let cs := ((text.toList.dropWhile isNumeralBlank).reverse.dropWhile isNumeralBlank).reverse
  let (negative, cs) := takeSign cs
  let whole := cs.takeWhile Char.isDigit
  let rest := cs.dropWhile Char.isDigit
  let fraction := if rest.head? = some '.' then rest.tail.takeWhile Char.isDigit else []
  let tail := if rest.head? = some '.' then rest.tail.dropWhile Char.isDigit else rest
  if whole.isEmpty && fraction.isEmpty then none
  let exponent ← exponent? tail
  let coefficient := Nat.ofDigitChars 10 (whole ++ fraction) 0
  let value : Int := if negative then -coefficient else coefficient
  if rest.isEmpty ∧ InInt64 value then return integer value
  let rank := min (Double.rankOfDecimal ⟨coefficient, exponent - fraction.length⟩) Double.infiniteRank
  return ((wholeOfReal? negative rank).map integer).getD (real negative rank)

def ofSpelling? (text : String) : Option Cell :=
  (ofNumeral? text).map fun cell =>
    match cell with
    | integer value => if (takeSign text.toList).2.all Char.isDigit then integer value else realOfInt value
    | cell => cell

/-- The number that a statement spells out. Hexadecimal digits stand for 64 bits. -/
def ofLiteral? (text : String) : Option Cell :=
  match text.toList with
  | '0' :: x :: digits =>
    if x = 'x' ∨ x = 'X' then
      if digits.all (fun c => (hexValue? c).isSome) ∧ leadingHexadecimal 0 digits < 0x10000000000000000 then
        some (integer (BitVec.ofNat 64 (leadingHexadecimal 0 digits)).toInt)
      else none
    else ofSpelling? text
  | _ => ofSpelling? text

/-- Real numbers as texts have fifteen digits at most. -/
def realFormat : DecimalFormat := ⟨-4, 14, 2, true⟩

def realText (negative : Bool) (rank : Nat) : String :=
  let magnitude :=
    if rank < Double.infiniteRank then (Double.roundedDecimal 15 rank).text realFormat else ['I', 'n', 'f']
  String.ofList (if negative && rank != 0 then '-' :: magnitude else magnitude)

def adapt (affinity : Affinity) : Cell → Cell
  | integer value =>
    match affinity with
    | .text => ofString (intText value)
    | .real => realOfInt value
    | _ => integer value
  | real negative rank =>
    match affinity with
    | .numeric | .integer => ((wholeOfReal? negative rank).map integer).getD (real negative rank)
    | .text => ofString (realText negative rank)
    | _ => real negative rank
  | text bytes =>
    let number? := if (utf8Fault? bytes).isSome then none else ofNumeral? (textOfBytes bytes)
    match affinity, number? with
    | .numeric, some number | .integer, some number => number
    | .real, some (integer value) => realOfInt value
    | .real, some number => number
    | _, _ => text bytes
  | cell => cell

def kindName : Cell → String
  | null => "Null"
  | integer _ => "Integer"
  | real _ _ => "Real"
  | text _ => "Text"
  | blob _ => "Blob"

def strictName : Cell → String
  | null => "NULL"
  | integer _ => "INT"
  | real _ _ => "REAL"
  | text _ => "TEXT"
  | blob _ => "BLOB"

def kindRank : Cell → Nat
  | null => 0
  | integer _ | real _ _ => 1
  | text _ => 2
  | blob _ => 3

def units : Cell → Int
  | integer value => value * Double.unitsOfOne
  | real negative rank => if negative then -(Double.units rank) else Double.units rank
  | _ => 0

def sortKey (collation : Collation) : Cell → List UInt8
  | text bytes => collation.key bytes
  | blob bytes => bytes
  | _ => []

/-- Whether a value comes before another one: null first, then numbers, texts and blobs. -/
def precedes (collation : Collation) (a b : Cell) : Bool :=
  if a.kindRank ≠ b.kindRank then decide (a.kindRank < b.kindRank)
  else if a.kindRank = 1 then decide (a.units < b.units)
  else decide (a.sortKey collation < b.sortKey collation)

/-- Whether two values are taken for the same. Null is not taken for anything. -/
def agrees (collation : Collation) (a b : Cell) : Bool :=
  a != null && a.kindRank == b.kindRank && a.units == b.units && a.sortKey collation == b.sortKey collation

/-- The integer that a value counts as where one is needed: zero if it starts with none. -/
def leadingInteger : Cell → Int
  | integer value => value
  | real negative rank =>
    let magnitude : Nat := min (Double.units rank / Double.unitsOfOne) 0x7FFFFFFFFFFFFFFF
    if negative then -magnitude else magnitude
  | text bytes | blob bytes =>
    let (negative, cs) := takeSign ((textOfBytes bytes).toList.dropWhile isNumeralBlank)
    let magnitude : Nat := min (Nat.ofDigitChars 10 (cs.takeWhile Char.isDigit) 0) 0x7FFFFFFFFFFFFFFF
    if negative then -magnitude else magnitude
  | null => 0

end Cell

end InspectionForms
