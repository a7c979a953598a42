import InspectionForms.Database.Bytes
import InspectionForms.Database.Cell
import InspectionForms.Text.Utf16

namespace InspectionForms

/-- How texts are written in a database. -/
inductive TextEncoding
  | utf8
  | utf16 (highFirst : Bool)
  deriving DecidableEq, Repr

def TextEncoding.ofNumber (number : Nat) : TextEncoding :=
  match number % 4 with
  | 2 => utf16 false
  | 3 => utf16 true
  | _ => utf8

def TextEncoding.utf8Bytes (encoding : TextEncoding) (bytes : List UInt8) : List UInt8 :=
  match encoding with
  | utf8 => bytes
  | utf16 highFirst => utf8OfUtf16 highFirst bytes

/-- Reads a number of one to nine bytes: seven bits in each of the first eight, which also say whether more
follow, and eight in the last one. -/
def readVarint : Nat → Nat → List UInt8 → Nat × List UInt8
  | 0, value, b :: rest => (256 * value + b.toNat, rest)
  | count + 1, value, b :: rest =>
    if b < 128 then (128 * value + b.toNat, rest) else readVarint count (128 * value + b.toNat % 128) rest
  | _, value, [] => (value, [])

def varint (bytes : List UInt8) : Nat × List UInt8 := readVarint 8 0 bytes

def signedOfBytes (bytes : List UInt8) : Int :=
  let value := bigEndian bytes
  if byteAt bytes 0 < 128 then value else (value : Int) - Nat.pow 256 bytes.length

def readCell (encoding : TextEncoding) (kind : Nat) (bytes : List UInt8) : Cell × List UInt8 :=
  let integerOf (count : Nat) := (.integer (signedOfBytes (bytes.take count)), bytes.drop count)
  match kind with
  | 0 | 10 | 11 => (.null, bytes)
  | 1 | 2 | 3 | 4 => integerOf kind
  | 5 => integerOf 6
  | 6 => integerOf 8
  | 7 => (.ofBits (bigEndian (bytes.take 8)), bytes.drop 8)
  | 8 => (.integer 0, bytes)
  | 9 => (.integer 1, bytes)
  | _ =>
    let count := (kind - 12) / 2
    let content := bytes.take count
    (if kind % 2 = 1 then .text (encoding.utf8Bytes content) else .blob content, bytes.drop count)

def readCells (encoding : TextEncoding) : List Nat → List UInt8 → List Cell
  | [], _ => []
  | kind :: kinds, bytes =>
    let (cell, rest) := readCell encoding kind bytes
    cell :: readCells encoding kinds rest

/-- Reads kinds up to the end of the bytes. A bound says how many there can be. -/
def readKinds : Nat → List UInt8 → List Nat
  | 0, _ => []
  | _, [] => []
  | bound + 1, bytes =>
    let (kind, rest) := varint bytes
    kind :: readKinds bound rest

def kindSize : Nat → Nat
  | 0 | 8 | 9 | 10 | 11 => 0
  | 5 => 6
  | 6 | 7 => 8
  | kind => if kind < 12 then kind else (kind - 12) / 2

/-- Reads a row: the size of its head, in the head the kinds of its values, and behind it the values, which take up
the rest. -/
def readRecord? (encoding : TextEncoding) (bytes : List UInt8) : Option (List Cell) :=
  let (size, rest) := varint bytes
  let head := rest.take (size - (bytes.length - rest.length))
  let kinds := readKinds head.length head
  if bytes.length < size ∨ bytes.length < size + (kinds.map kindSize).foldl (· + ·) 0 then none
  else some (readCells encoding kinds (bytes.drop size))

end InspectionForms
