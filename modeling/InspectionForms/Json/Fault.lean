import InspectionForms.Json.Reader
import InspectionForms.Text.Utf8

namespace InspectionForms

/-- What is wrong with a text that is no JSON. -/
inductive JsonFault
  | endInValue
  | endInList
  | endInObject
  | endInString
  | expectedColon
  | expectedListEnd
  | expectedObjectEnd
  | expectedWord
  | expectedValue
  | invalidEscape
  | invalidNumber
  | numberOutOfRange
  | controlCharacter
  | nameNotString
  | loneSurrogate
  | endInPair
  | trailingComma
  | trailingText
  | nestedTooDeep
  deriving DecidableEq, Repr

def JsonFault.message : JsonFault → String
  | endInValue => "EOF while parsing a value"
  | endInList => "EOF while parsing a list"
  | endInObject => "EOF while parsing an object"
  | endInString => "EOF while parsing a string"
  | expectedColon => "expected \x60:\x60"
  | expectedListEnd => "expected \x60,\x60 or \x60]\x60"
  | expectedObjectEnd => "expected \x60,\x60 or \x60\x7d\x60"
  | expectedWord => "expected ident"
  | expectedValue => "expected value"
  | invalidEscape => "invalid escape"
  | invalidNumber => "invalid number"
  | numberOutOfRange => "number out of range"
  | controlCharacter => "control character (\\u0000-\\u001F) found while parsing a string"
  | nameNotString => "key must be a string"
  | loneSurrogate => "lone leading surrogate in hex escape"
  | endInPair => "unexpected end of hex escape"
  | trailingComma => "trailing comma"
  | trailingText => "trailing characters"
  | nestedTooDeep => "recursion limit exceeded"

/-- What a reader of bytes waits for between values. -/
inductive JsonGap
  | value
  | firstItem
  | item
  | firstName
  | name
  | colon
  | afterValue
  deriving DecidableEq

/-- Where in a quoted text a reader stands: between characters, in an escape, in the digits of a unit, of which the
high one of a pair may have gone before, or between the units of a pair. -/
inductive JsonQuoted
  | plain
  | escape
  | unit (high : Bool) (digits : List UInt8)
  | pairEscape
  | pairMark

/-- Where in a number a reader stands. -/
inductive JsonNumeral
  | sign
  | zero
  | whole
  | point
  | fraction
  | exponentMark
  | exponentSign
  | exponent
  deriving DecidableEq

inductive JsonPlace
  | gap (gap : JsonGap)
  | word (rest : List UInt8)
  | quoted (isName : Bool) (place : JsonQuoted)
  | numeral (place : JsonNumeral) (letters : List Char)

/-- A reader of bytes that only looks for faults. Of the containers around it, innermost first, it knows which ones
are objects. -/
structure JsonChecker where
  inObject : List Bool
  place : JsonPlace

namespace JsonChecker

def start : JsonChecker := ⟨[], .gap .value⟩

def isSpace (b : UInt8) : Bool := b == 0x20 || b == 0x09 || b == 0x0A || b == 0x0D

def isDigit (b : UInt8) : Bool := 0x30 ≤ b && b ≤ 0x39

def isExponentMark (b : UInt8) : Bool := b == 0x65 || b == 0x45

def openValue (inObject : List Bool) (b : UInt8) : Except JsonFault JsonChecker :=
  let begin (isObject : Bool) (gap : JsonGap) : Except JsonFault JsonChecker :=
    if inObject.length < Json.nestingLimit then .ok ⟨isObject :: inObject, .gap gap⟩ else .error .nestedTooDeep
  let letter := Char.ofNat b.toNat
  match letter with
  | 'n' => .ok ⟨inObject, .word (utf8 "ull")⟩
  | 't' => .ok ⟨inObject, .word (utf8 "rue")⟩
  | 'f' => .ok ⟨inObject, .word (utf8 "alse")⟩
  | '"' => .ok ⟨inObject, .quoted false .plain⟩
  | '[' => begin false .firstItem
  | '\x7b' => begin true .firstName
  | '-' => .ok ⟨inObject, .numeral .sign [letter]⟩
  | '0' => .ok ⟨inObject, .numeral .zero [letter]⟩
  | _ => if isDigit b then .ok ⟨inObject, .numeral .whole [letter]⟩ else .error .expectedValue

def readEnd (inObject : List Bool) (b : UInt8) : Except JsonFault JsonChecker :=
  match inObject, Char.ofNat b.toNat with
  | [], _ => .error .trailingText
  | false :: around, ']' => .ok ⟨around, .gap .afterValue⟩
  | false :: _, ',' => .ok ⟨inObject, .gap .item⟩
  | false :: _, _ => .error .expectedListEnd
  | true :: around, '\x7d' => .ok ⟨around, .gap .afterValue⟩
  | true :: _, ',' => .ok ⟨inObject, .gap .name⟩
  | true :: _, _ => .error .expectedObjectEnd

def readGap (inObject : List Bool) (gap : JsonGap) (b : UInt8) : Except JsonFault JsonChecker :=
  if isSpace b then .ok ⟨inObject, .gap gap⟩
  else match gap, Char.ofNat b.toNat with
    | .afterValue, _ => readEnd inObject b
    | .firstItem, ']' => .ok ⟨inObject.tail, .gap .afterValue⟩
    | .item, ']' => .error .trailingComma
    | .firstName, '\x7d' => .ok ⟨inObject.tail, .gap .afterValue⟩
    | .name, '\x7d' => .error .trailingComma
    | .firstName, '"' | .name, '"' => .ok ⟨inObject, .quoted true .plain⟩
    | .firstName, _ | .name, _ => .error .nameNotString
    | .colon, ':' => .ok ⟨inObject, .gap .value⟩
    | .colon, _ => .error .expectedColon
    | _, _ => openValue inObject b

/-- Reads a byte of a quoted text. The four bytes of a unit are looked at together. -/
def readQuoted (isName : Bool) (place : JsonQuoted) (b : UInt8) : Except JsonFault JsonPlace :=
  let goOn (place : JsonQuoted) : Except JsonFault JsonPlace := .ok (.quoted isName place)
  let letter := Char.ofNat b.toNat
  match place with
  | .plain =>
    if letter = '"' then .ok (.gap (if isName then .colon else .afterValue))
    else if letter = '\\' then goOn .escape
    else if b < 0x20 then .error .controlCharacter
    else goOn .plain
  | .escape =>
    if letter = 'u' then goOn (.unit false [])
    else if (Scanner.escaped? letter).isSome then goOn .plain
    else .error .invalidEscape
  | .unit high digits =>
    if digits.length < 3 then goOn (.unit high (b :: digits))
    else
      match (b :: digits).reverse.mapM fun digit => hexValue? (Char.ofNat digit.toNat) with
      | none => .error .invalidEscape
      | some values =>
        let value := values.foldl (fun value digit => 16 * value + digit) 0
        let isSecond : Bool := 0xDC00 ≤ value && value < 0xE000
        let isFirst : Bool := 0xD800 ≤ value && value < 0xDC00
        if high then if isSecond then goOn .plain else .error .loneSurrogate
        else if isSecond then .error .loneSurrogate
        else goOn (if isFirst then .pairEscape else .plain)
  | .pairEscape => if letter = '\\' then goOn .pairMark else .error .endInPair
  | .pairMark => if letter = 'u' then goOn (.unit true []) else .error .endInPair

/-- Whether a number in which something other than zero has been written is too large already, since its exponent
has more than 31 bits. -/
def hasHugeExponent (letters : List Char) : Bool :=
  let text := letters.reverse
  let coefficient := text.takeWhile fun c => c != 'e' && c != 'E'
  let digits := (text.drop (coefficient.length + 1)).filter Char.isDigit
  decide (0x80000000 ≤ Nat.ofDigitChars 10 digits 0) && !(text.drop (coefficient.length + 1)).contains '-' &&
    coefficient.any fun c => c.isDigit && c != '0'

def endNumeral (inObject : List Bool) (letters : List Char) : Except JsonFault JsonChecker :=
  if (Number.ofChars? letters.reverse).isSome then .ok ⟨inObject, .gap .afterValue⟩
  else .error .numberOutOfRange

/-- Where a byte leads to in a number, unless the number ends before it. -/
def nextNumeral? (place : JsonNumeral) (b : UInt8) : Except JsonFault (Option JsonNumeral) :=
  let needsDigit (next : JsonNumeral) : Except JsonFault (Option JsonNumeral) :=
    if isDigit b then .ok (some next) else .error .invalidNumber
  let orExponent : Option JsonNumeral := if isExponentMark b then some .exponentMark else none
  let orPoint : Option JsonNumeral := if b = 0x2E then some .point else orExponent
  match place with
  | .sign => if b = 0x30 then .ok (some .zero) else needsDigit .whole
  | .zero => if isDigit b then .error .invalidNumber else .ok orPoint
  | .whole => .ok (if isDigit b then some .whole else orPoint)
  | .point => needsDigit .fraction
  | .fraction => .ok (if isDigit b then some .fraction else orExponent)
  | .exponentMark => if b = 0x2B ∨ b = 0x2D then .ok (some .exponentSign) else needsDigit .exponent
  | .exponentSign => needsDigit .exponent
  | .exponent => .ok (if isDigit b then some .exponent else none)

/-- Reads a byte. A fault is found at the byte, or else before it. -/
def step (checker : JsonChecker) (b : UInt8) : Except (JsonFault × Bool) JsonChecker :=
  let atByte {α : Type} (result : Except JsonFault α) : Except (JsonFault × Bool) α :=
    result.mapError fun fault => (fault, true)
  match checker.place with
  | .gap gap => atByte (readGap checker.inObject gap b)
  | .word [] => atByte (readGap checker.inObject .afterValue b)
  | .word (letter :: rest) =>
    if b = letter then .ok ⟨checker.inObject, .word rest⟩ else .error (.expectedWord, true)
  | .quoted isName place => do return ⟨checker.inObject, ← atByte (readQuoted isName place b)⟩
  | .numeral place letters => do
    match ← atByte (nextNumeral? place b) with
    | some next =>
      let letters := Char.ofNat b.toNat :: letters
      if next = .exponent ∧ hasHugeExponent letters then throw (.numberOutOfRange, true)
      return ⟨checker.inObject, .numeral next letters⟩
    | none =>
      let ended ← (endNumeral checker.inObject letters).mapError fun fault => (fault, false)
      atByte (readGap ended.inObject .afterValue b)

def endFault? (checker : JsonChecker) : Option JsonFault :=
  let afterValue := match checker.inObject with
    | [] => none
    | false :: _ => some JsonFault.endInList
    | true :: _ => some JsonFault.endInObject
  match checker.place with
  | .gap .value | .gap .item | .gap .name => some .endInValue
  | .gap .firstItem => some .endInList
  | .gap .firstName | .gap .colon => some .endInObject
  | .gap .afterValue | .word [] => afterValue
  | .word _ => some .endInValue
  | .quoted _ _ => some .endInString
  | .numeral place letters =>
    if place = .zero ∨ place = .whole ∨ place = .fraction ∨ place = .exponent then
      match endNumeral checker.inObject letters with
      | .error fault => some fault
      | .ok _ => afterValue
    else some .endInValue

def findFault (checker : JsonChecker) (count : Nat) : List UInt8 → Option (JsonFault × Nat)
  | [] => checker.endFault?.map (·, count)
  | b :: rest =>
    match checker.step b with
    | .ok checker => checker.findFault (count + 1) rest
    | .error (fault, isAtByte) => some (fault, if isAtByte then count + 1 else count)

end JsonChecker

def placeText (bytes : List UInt8) (count : Nat) : String :=
  let before := bytes.take count
  let column := (before.reverse.takeWhile (· != 0x0A)).length
  " at line " ++ toString (before.count 0x0A + 1) ++ " column " ++ toString column

def jsonFaultText (text : String) : String :=
  match JsonChecker.start.findFault 0 (utf8 text) with
  | none => ""
  | some (fault, count) => fault.message ++ placeText (utf8 text) count

end InspectionForms
