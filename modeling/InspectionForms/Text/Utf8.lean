namespace InspectionForms

def utf8 (text : String) : List UInt8 := text.toList.flatMap String.utf8EncodeChar

/-- A character of which some bytes have been read: its bits so far, how many bytes are missing, and the values
between which the next of them lies. -/
structure OpenCharacter where
  bits : Nat
  missing : Nat
  least : UInt8
  greatest : UInt8

def replacementMark : Char := '\uFFFD'

/-- Reads a byte between characters. The bounds of a second byte leave out longer forms of earlier characters,
surrogates and what lies beyond the last character. -/
def readFirstByte (b : UInt8) : List Char × Option OpenCharacter :=
  if b < 0x80 then ([Char.ofNat b.toNat], none)
  else if 0xC2 ≤ b ∧ b ≤ 0xDF then ([], some ⟨b.toNat % 32, 1, 0x80, 0xBF⟩)
  else if 0xE0 ≤ b ∧ b ≤ 0xEF then
    ([], some ⟨b.toNat % 16, 2, if b = 0xE0 then 0xA0 else 0x80, if b = 0xED then 0x9F else 0xBF⟩)
  else if 0xF0 ≤ b ∧ b ≤ 0xF4 then
    ([], some ⟨b.toNat % 8, 3, if b = 0xF0 then 0x90 else 0x80, if b = 0xF4 then 0x8F else 0xBF⟩)
  else ([replacementMark], none)

/-- Reads a byte. One that cannot continue an open character ends it and is read anew. -/
def readByte (state : Option OpenCharacter) (b : UInt8) : List Char × Option OpenCharacter :=
  match state with
  | none => readFirstByte b
  | some c =>
    if c.least ≤ b ∧ b ≤ c.greatest then
      let bits := 64 * c.bits + b.toNat % 64
      if c.missing = 1 then ([Char.ofNat bits], none) else ([], some ⟨bits, c.missing - 1, 0x80, 0xBF⟩)
    else
      let (cs, next) := readFirstByte b
      (replacementMark :: cs, next)

def decodeUtf8 (state : Option OpenCharacter) : List UInt8 → List Char
  | [] => if state.isSome then [replacementMark] else []
  | b :: rest =>
    let (cs, next) := readByte state b
    cs ++ decodeUtf8 next rest

/-- The text of some bytes. The bytes of a character that breaks off are together read as one replacement mark,
and so is each byte that cannot start a character. -/
def textOfBytes (bytes : List UInt8) : String := String.ofList (decodeUtf8 none bytes)

/-- The first bytes that are no character: where they start, and how many there are unless the text breaks off. -/
structure Utf8Fault where
  start : Nat
  size : Option Nat
  deriving DecidableEq, Repr

def Utf8Fault.message (fault : Utf8Fault) : String :=
  match fault.size with
  | some size =>
    "invalid utf-8 sequence of " ++ toString size ++ " bytes from index " ++ toString fault.start
  | none => "incomplete utf-8 byte sequence from index " ++ toString fault.start

/-- Looks for bytes that are no character. `start` is the index of the open character, and `index` of the next
byte. -/
def findUtf8Fault (state : Option OpenCharacter) (start index : Nat) : List UInt8 → Option Utf8Fault
  | [] => state.map fun _ => ⟨start, none⟩
  | b :: rest =>
    match state, readByte state b with
    | none, ([], next) => findUtf8Fault next index (index + 1) rest
    | none, (_, next) =>
      if b < 0x80 then findUtf8Fault next index (index + 1) rest else some ⟨index, some 1⟩
    | some c, (_, next) =>
      if c.least ≤ b ∧ b ≤ c.greatest then findUtf8Fault next start (index + 1) rest
      else some ⟨start, some (index - start)⟩

def utf8Fault? (bytes : List UInt8) : Option Utf8Fault := findUtf8Fault none 0 0 bytes

end InspectionForms
