import InspectionForms.Database.Operation

namespace InspectionForms

/-- The digits of a real number without zeros at the end, and where its point stands behind the first of them. -/
structure RealDigits where
  digits : List Char
  point : Int
  deriving DecidableEq, Repr

namespace RealDigits

/-- The eighteen or nineteen digits of a positive magnitude, and the power of ten of the last one. What is left of the
next digit counts if the number next to it that has 53 bits is larger. -/
def ofRank (rank : Nat) : Nat × Int :=
  let scaled (power : Int) : Nat × Nat :=
    (Double.units rank * Nat.pow 10 (-power).toNat, Double.unitsOfOne * Nat.pow 10 power.toNat)
  let power := Double.leadingPower rank - 18
  let power := if (scaled power).1 / (scaled power).2 < 9223372036854774784 then power else power + 1
  let (numerator, denominator) := scaled power
  let nearest := Double.units (Double.nearestRank numerator denominator) / Double.unitsOfOne
  (if nearest * denominator ≤ numerator then numerator / denominator else (numerator + denominator - 1) / denominator,
    power)

def trimmed (digits : List Char) (point : Int) : RealDigits := ⟨(digits.reverse.dropWhile (· == '0')).reverse, point⟩

/-- The digits of a magnitude that is rounded to some number of digits, or if that is not positive to some number of
places behind the point. There are `most` of them at most. -/
def rounded (rank : Nat) (places : Int) (most : Nat) : RealDigits :=
  if rank = 0 then ⟨['0'], 1⟩ else
  let (value, power) := ofRank rank
  let digits := decimalDigits value
  let point : Int := digits.length + power
  let count := if places ≤ 0 then point - places else places
  let (digits, point, count) :=
    if places ≤ 0 ∧ count = 0 ∧ digits.head?.any (fun c => decide ('5' ≤ c)) then ('0' :: digits, point + 1, 1)
    else (digits, point, count)
  if count ≤ 0 ∨ ((digits.length : Int) ≤ count ∧ digits.length ≤ most) then trimmed digits point
  else
    let count := min count.toNat most
    let kept := Nat.ofDigitChars 10 (digits.take count) 0
    if digits[count]?.any fun c => decide ('5' ≤ c) then
      let next := paddedDigits count (kept + 1)
      trimmed next (point + (next.length - count : Nat))
    else trimmed (digits.take count) point

end RealDigits

namespace Template

/-- How a value is written in a template: on which side it stands in the room it has, with which sign in front of
numbers that are not negative, in another form, with zeros instead of blanks, with marks between thousands, and with
how many digits or characters. -/
structure Field where
  isLeft : Bool
  sign : Option Char
  isAlternate : Bool
  isExact : Bool
  hasZeros : Bool
  hasMarks : Bool
  width : Nat
  precision : Option Nat

def plainField : Field := ⟨false, none, false, false, false, false, 0, none⟩

def readFlags (field : Field) : List Char → Field × List Char
  | c :: rest =>
    match c with
    | '-' => readFlags { field with isLeft := true } rest
    | '+' | ' ' => readFlags { field with sign := some c } rest
    | '#' => readFlags { field with isAlternate := true } rest
    | '!' => readFlags { field with isExact := true } rest
    | '0' => readFlags { field with hasZeros := true } rest
    | ',' => readFlags { field with hasMarks := true } rest
    | _ => (field, c :: rest)
  | [] => (field, [])

def takeCount (values : List Cell) (cs : List Char) : Option Int × List Cell × List Char :=
  if cs.head? = some '*' then
    let value := (values.headD (.integer 0)).leadingInteger
    (some (Int.bmod value 0x100000000), values.drop 1, cs.drop 1)
  else
    let digits := cs.takeWhile Char.isDigit
    let number? := if digits.isEmpty then none else some (Nat.ofDigitChars 10 digits 0 % 0x80000000 : Nat)
    (number?, values, cs.drop digits.length)

def readField (values : List Cell) (cs : List Char) : Field × List Cell × List Char :=
  let (field, cs) := readFlags plainField cs
  let (width, values, cs) := takeCount values cs
  let field := { field with
    width := (width.getD 0).natAbs
    isLeft := field.isLeft || width.any (· < 0) }
  let (precision, values, cs) :=
    if cs.head? = some '.' then
      let (count, values, cs) := takeCount values (cs.drop 1)
      (some (count.getD 0).natAbs, values, cs)
    else (none, values, cs)
  let cs := if cs.head? = some 'l' then cs.drop 1 else cs
  ({ field with precision }, values, if cs.head? = some 'l' then cs.drop 1 else cs)

def marked (digits : List Char) : List Char :=
  let rec go : List Char → List Char
    | a :: b :: c :: d :: rest => a :: b :: c :: ',' :: go (d :: rest)
    | rest => rest
  (go digits.reverse).reverse

def placed (field : Field) (bytes : List UInt8) : List UInt8 :=
  let blanks := List.replicate (field.width - bytes.length) 0x20
  if field.isLeft then bytes ++ blanks else blanks ++ bytes

def integerText (field : Field) (sign : Option Char) (base : Nat) (isUpper : Bool) (front behind : List Char)
    (value : Nat) : List Char :=
  let digits := (Nat.toDigits base value).map fun c => if isUpper then c.toUpper else c
  let room := field.width - sign.toList.length
  let precision := max (field.precision.getD 0) (if field.hasZeros then room else 0)
  let digits := (digits ++ behind).leftpad precision '0'
  let front := if field.isAlternate && value != 0 then front else []
  sign.toList ++ front ++ if field.hasMarks then marked digits else digits

/-- How real numbers are written: with places behind the point, with an exponent, or as it is shorter. -/
inductive RealStyle
  | positional
  | scientific
  | general
  deriving DecidableEq, Repr

def pointed (field : Field) (hasPoint dropsZeros : Bool) (digits : List Char) (point : Int) (places : Nat) :
    List Char :=
  let whole := (digits.take point.toNat).rightpad point.toNat '0'
  let whole := if whole.isEmpty then ['0'] else if field.hasMarks then marked whole else whole
  let zeros := List.replicate (min (-point).toNat places) '0'
  let fraction := ((zeros ++ digits.drop point.toNat).take places)
  let fraction := if dropsZeros then (fraction.reverse.dropWhile (· == '0')).reverse
    else fraction.rightpad places '0'
  let fraction := if fraction.isEmpty && dropsZeros && field.isExact then ['0'] else fraction
  whole ++ (if hasPoint && !(fraction.isEmpty && dropsZeros) then ['.'] else []) ++ fraction

def realText (field : Field) (style : RealStyle) (isUpper negative : Bool) (rank : Nat) : List Char :=
  if rank = Double.infiniteRank ∧ !field.hasZeros then
    (if negative then ['-'] else field.sign.toList) ++ "Inf".toList
  else
    let precision := field.precision.getD 6
    let precision := if style = .general then max precision 1 else precision
    let places : Int := match style with
      | .positional => -precision
      | .general => precision
      | .scientific => precision + 1
    let number : RealDigits := if rank = Double.infiniteRank then ⟨['9'], 1000⟩
      else .rounded rank places (if field.isExact then 26 else 16)
    let isNegative := negative && rank != 0
    let sign := if isNegative then ['-'] else field.sign.toList
    let power := number.point - 1
    let isScientific := style == .scientific ||
      (style == .general && (decide (power < -4) || decide ((precision : Int) - 1 < power)))
    let places : Nat := match style, isScientific with
      | .general, true => precision - 1
      | .general, false => (precision - 1 - power).toNat
      | _, _ => precision
    let dropsZeros := if style = .general then !field.isAlternate else field.isExact
    let hasPoint := 0 < places || field.isAlternate || field.isExact
    let mantissa := pointed { field with hasMarks := field.hasMarks && !isScientific } hasPoint dropsZeros number.digits
      (if isScientific then 1 else number.point) places
    let exponent := if !isScientific then [] else
      (if isUpper then 'E' else 'e') :: (if power < 0 then '-' else '+') :: paddedDigits 2 power.natAbs
    let body := mantissa ++ exponent
    let zeros := if field.hasZeros && !field.isLeft then field.width - (sign.length + body.length) else 0
    sign ++ List.replicate zeros '0' ++ body

/-- A byte that is not the first one of a character. -/
def isContinuation (b : UInt8) : Bool := b &&& 0xC0 == 0x80

def firstCharacters : Nat → List UInt8 → List UInt8
  | 0, _ => []
  | _, [] => []
  | count + 1, b :: rest =>
    let more := rest.takeWhile isContinuation
    b :: more ++ firstCharacters count (rest.drop more.length)
termination_by count _ => count

/-- The room of a text, in which bytes behind the first one of a character may not count. -/
def roomFor (field : Field) (countsCharacters : Bool) (bytes : List UInt8) : Field :=
  if countsCharacters && field.width != 0 then { field with width := field.width + bytes.countP isContinuation }
  else field

def cut (field : Field) (bytes : List UInt8) : List UInt8 :=
  match field.precision with
  | none => bytes
  | some count => if field.isExact then firstCharacters count bytes else bytes.take count

def repeated (field : Field) (bytes : List UInt8) : List UInt8 :=
  let character := match bytes with
    | [] => [0]
    | b :: rest => b :: if b &&& 0xC0 == 0xC0 then (rest.takeWhile isContinuation).take 3 else []
  let before := (field.precision.getD 1) - 1
  let width := field.width - before
  let early := if 0 < before ∧ 1 < width ∧ !field.isLeft then width - 1 else 0
  let field := { field with width := if 0 < early then 0 else width }
  List.replicate early 0x20 ++ (List.replicate before character).flatten ++
    placed (roomFor field true character) character

def quoted (quote : UInt8) (bytes : List UInt8) : List UInt8 :=
  bytes.flatMap fun b => if b = quote then [b, b] else [b]

def ordinalEnding (value : Nat) : List Char :=
  if value / 10 % 10 = 1 then ['t', 'h']
  else match value % 10 with
    | 1 => ['s', 't']
    | 2 => ['n', 'd']
    | 3 => ['r', 'd']
    | _ => ['t', 'h']

/-- The text for a field of some kind. There may be none, and then nothing follows. -/
def fieldBytes? (field : Field) (kind : Char) (value : Cell) : Option (List UInt8) :=
  let integer := value.leadingInteger
  let unsigned := (integer % 0x10000000000000000).toNat
  let plain := { field with hasMarks := false }
  let sign := if integer < 0 then some '-' else field.sign
  let number := value.number.toReal
  let negative := decide (number.units < 0)
  let rank : Nat := match number with
    | .real _ rank => rank
    | _ => 0
  let ofChars (cs : List Char) : Option (List UInt8) := some (placed field (utf8 (String.ofList cs)))
  let bytes? := value.textBytes?.map fun bytes => bytes.takeWhile (· != 0)
  let ofQuoted (quote : UInt8) (bytes : List UInt8) : Option (List UInt8) :=
    let bytes := quoted quote (cut field bytes)
    some (placed (roomFor field field.isExact bytes) bytes)
  match kind with
  | 'd' | 'i' => ofChars (integerText field sign 10 false [] [] integer.natAbs)
  | 'u' => ofChars (integerText field none 10 false [] [] unsigned)
  | 'x' => ofChars (integerText plain none 16 false ['0', 'x'] [] unsigned)
  | 'X' => ofChars (integerText plain none 16 true ['0', 'X'] [] unsigned)
  | 'p' => ofChars (integerText plain none 16 true ['0', 'x'] [] unsigned)
  | 'o' => ofChars (integerText plain none 8 false ['0'] [] unsigned)
  | 'r' => ofChars (integerText plain sign 10 false [] (ordinalEnding integer.natAbs) integer.natAbs)
  | 'f' => ofChars (realText field .positional false negative rank)
  | 'e' => ofChars (realText field .scientific false negative rank)
  | 'E' => ofChars (realText field .scientific true negative rank)
  | 'g' => ofChars (realText field .general false negative rank)
  | 'G' => ofChars (realText field .general true negative rank)
  | 'c' => some (repeated field (bytes?.getD []))
  | 's' | 'z' =>
    let bytes := cut field (bytes?.getD [])
    some (placed (roomFor field field.isExact bytes) bytes)
  | 'q' => ofQuoted 0x27 (bytes?.getD (utf8 "(NULL)"))
  | 'w' => ofQuoted 0x22 (bytes?.getD (utf8 "(NULL)"))
  | 'Q' =>
    match bytes? with
    | none =>
      let bytes := cut field (utf8 "NULL")
      some (placed (roomFor field field.isExact bytes) bytes)
    | some bytes =>
      let bytes := 0x27 :: quoted 0x27 (cut field bytes) ++ [0x27]
      some (placed (roomFor field field.isExact bytes) bytes)
  | _ => none

/-- Fills values into a template. There is nothing, not even an empty text, if it has no parts, or if the first one is
a field of no kind. A bound says how many characters it has. -/
def fill? (bound : Nat) (values : List Cell) (template : List Char) : Option (List UInt8) :=
  match bound, template with
  | bound + 1, '%' :: rest =>
    if rest.isEmpty then some [0x25] else
    let (field, values, rest) := readField values rest
    let before (bytes : List UInt8) (values : List Cell) (rest : List Char) : Option (List UInt8) :=
      some (bytes ++ (fill? bound values rest).getD [])
    match rest with
    | '%' :: rest => before (placed { field with precision := none } [0x25]) values rest
    | 'n' :: rest => before [] values rest
    | kind :: rest => do before (← fieldBytes? field kind (values.headD .null)) (values.drop 1) rest
    | [] => none
  | bound + 1, c :: rest => some (String.utf8EncodeChar c ++ (fill? bound values rest).getD [])
  | _, _ => none

end Template

namespace Cell

/-- A template with its fields filled in, which is null if nothing comes of it. -/
def format (cells : List Cell) : Cell :=
  let cs := (((cells.head?.bind characters?).getD []).takeWhile (· != '\x00'))
  ((Template.fill? cs.length (cells.drop 1) cs).map text).getD null

def spelledReal (negative : Bool) (rank : Nat) : List Char :=
  let field := { Template.plainField with isExact := true, hasZeros := true, precision := some 15 }
  let short := Template.realText field .general false negative rank
  let isSame := match ofNumeral? (String.ofList short) with
    | some cell => cell.units == (real negative rank).units
    | none => false
  if isSame then short else Template.realText { field with precision := some 20 } .scientific false negative rank

def upperHex (b : UInt8) : List Char := ((Nat.toDigits 16 b.toNat).leftpad 2 '0').map Char.toUpper

def quoted : Cell → Cell
  | null => ofString "NULL"
  | integer value => ofString (intText value)
  | real negative rank => ofString (String.ofList (spelledReal negative rank))
  | text bytes => text (0x27 :: Template.quoted 0x27 (bytes.takeWhile (· != 0)) ++ [0x27])
  | blob bytes => ofString (String.ofList ('X' :: '\'' :: bytes.flatMap upperHex ++ ['\'']))

def rounded (places : Int) (cell : Cell) : Cell :=
  match cell.number.toReal with
  | real negative rank =>
    if Double.blockSize * Double.unitsOfOne < Double.units rank then real negative rank
    else if places ≤ 0 then
      let half := Double.units (Double.nearestRank (Double.units rank + Double.unitsOfOne / 2) Double.unitsOfOne)
      realOfInt (if negative then -(half / Double.unitsOfOne) else half / Double.unitsOfOne)
    else
      let field := { Template.plainField with isExact := true, precision := some (min places 30).toNat }
      let cs := Template.realText field .positional false negative rank
      ((ofNumeral? (String.ofList cs)).map toReal).getD (real negative rank)
  | cell => cell

end Cell

end InspectionForms
