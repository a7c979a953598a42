import InspectionForms.Database.Bytes
import InspectionForms.Database.Document.Basic
import InspectionForms.Text.Utf8

namespace InspectionForms

namespace Document

/-- The first byte of a part with the number of its bytes, which follows there unless it is small. -/
def header (kind size : Nat) : List UInt8 :=
  let bytes (count : Nat) : List UInt8 := (List.range count).reverse.map fun k => UInt8.ofNat (size >>> (8 * k))
  if size ≤ 11 then [UInt8.ofNat (16 * size + kind)]
  else if size < 0x100 then UInt8.ofNat (0xC0 + kind) :: bytes 1
  else if size < 0x10000 then UInt8.ofNat (0xD0 + kind) :: bytes 2
  else UInt8.ofNat (0xE0 + kind) :: bytes 4

def Spelling.kind : Spelling → Nat
  | .plain => 7
  | .escaped => 8
  | .lenient => 9
  | .bare => 10

def part (kind : Nat) (content : List UInt8) : List UInt8 := header kind content.length ++ content

def charBytes (cs : List Char) : List UInt8 := cs.flatMap String.utf8EncodeChar

def textPart (content : DocumentText) : List UInt8 :=
  part (Spelling.kind content.spelling) (charBytes content.chars)

mutual

def binary : Document → List UInt8
  | null => part 0 []
  | truth true => part 1 []
  | truth false => part 2 []
  | integer isLenient digits => part (if isLenient then 4 else 3) (charBytes digits)
  | real isLenient digits => part (if isLenient then 6 else 5) (charBytes digits)
  | text content => textPart content
  | array items => part 11 (binaryItems items)
  | object members => part 12 (binaryMembers members)

def binaryItems : List Document → List UInt8
  | [] => []
  | item :: rest => item.binary ++ binaryItems rest

def binaryMembers : List (DocumentText × Document) → List UInt8
  | [] => []
  | (name, value) :: rest => textPart name ++ value.binary ++ binaryMembers rest

end

def takePart? (bytes : List UInt8) : Option (Nat × List UInt8 × List UInt8) := do
  let first ← bytes.head?
  let small := first.toNat / 16
  let width := if small ≤ 11 then 0 else 1 <<< (small - 12)
  let rest := bytes.drop 1
  if rest.length < width then none
  let size := if width = 0 then small else (rest.take width).foldl (fun size b => 256 * size + b.toNat) 0
  let rest := rest.drop width
  if rest.length < size then none
  return (first.toNat % 16, rest.take size, rest.drop size)

def isBinary (bytes : List UInt8) : Bool :=
  match takePart? bytes with
  | some (kind, content, rest) => kind ≤ 12 && rest.isEmpty && (3 ≤ kind || content.isEmpty)
  | none => false

def textOfPart? (kind : Nat) (content : List UInt8) : Option DocumentText := do
  let spelling ← [(7, Spelling.plain), (8, .escaped), (9, .lenient), (10, .bare)].lookup kind
  return ⟨spelling, (textOfBytes content).toList⟩

mutual

/-- Reads a document in the binary form. A bound says how deep it can be. -/
def ofPart? (bound kind : Nat) (content : List UInt8) : Option Document :=
  match bound with
  | 0 => none
  | bound + 1 =>
    let digits := (textOfBytes content).toList
    match kind with
    | 0 => some null
    | 1 => some (truth true)
    | 2 => some (truth false)
    | 3 => if digits.isEmpty then none else some (integer false digits)
    | 4 => if digits.isEmpty then none else some (integer true digits)
    | 5 => if digits.isEmpty then none else some (real false digits)
    | 6 => if digits.isEmpty then none else some (real true digits)
    | 11 => (itemsOfParts? bound content).map array
    | 12 => (membersOfParts? bound content).map object
    | _ => (textOfPart? kind content).map text

def itemsOfParts? (bound : Nat) (bytes : List UInt8) : Option (List Document) :=
  match bound with
  | 0 => none
  | bound + 1 => do
    if bytes.isEmpty then return []
    let (kind, content, rest) ← takePart? bytes
    return (← ofPart? bound kind content) :: (← itemsOfParts? bound rest)

def membersOfParts? (bound : Nat) (bytes : List UInt8) : Option (List (DocumentText × Document)) :=
  match bound with
  | 0 => none
  | bound + 1 => do
    if bytes.isEmpty then return []
    let (nameKind, nameContent, rest) ← takePart? bytes
    let name ← textOfPart? nameKind nameContent
    let (kind, content, rest) ← takePart? rest
    return (name, ← ofPart? bound kind content) :: (← membersOfParts? bound rest)

end

def ofBinary? (bytes : List UInt8) : Option Document := do
  let (kind, content, _) ← takePart? bytes
  ofPart? (2 * bytes.length + 2) kind content

end Document

end InspectionForms
