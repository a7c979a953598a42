import InspectionForms.Database.Bytes

namespace InspectionForms

/-- The journal of a change holds the pages that the change has overwritten. It has sections, each with a header
that fills a sector. -/
structure JournalHeader where
  recordCount : Nat
  seed : Nat
  pageCount : Nat

/-- A section whose records have not been counted takes the rest of the journal. -/
def JournalHeader.records (header : JournalHeader) (journal : List UInt8) (sectorSize pageSize : Nat) : Nat :=
  if header.recordCount = 0xFFFFFFFF then (journal.length - sectorSize) / (pageSize + 8) else header.recordCount

namespace Journal

def mark : List UInt8 := [0xD9, 0xD5, 0x05, 0xF9, 0x20, 0xA1, 0x63, 0xD7]

def header? (journal : List UInt8) (sectorSize offset : Nat) : Option JournalHeader :=
  if offset + sectorSize ≤ journal.length ∧ byteRange journal offset 8 = mark then
    some ⟨wordAt journal (offset + 8), wordAt journal (offset + 12), wordAt journal (offset + 16)⟩
  else none

/-- Adds up every two hundredth byte of a page, from its end on but not the first one. -/
def checksum (seed : Nat) (page : List UInt8) : Nat :=
  let places := (List.range ((page.length - 1) / 200)).map fun k => page.length - 200 * (k + 1)
  (seed + (places.map (byteAt page)).foldl (· + ·) 0) % 0x100000000

def lockPage (pageSize : Nat) : Nat := 0x40000000 / pageSize + 1

/-- Puts back the pages of some records, each with a number in front and a checksum behind it. A record that is not
right ends the journal; else the offset behind the records comes with the file. -/
def putBackRecords (journal : List UInt8) (pageSize seed pageCount : Nat) :
    Nat → Nat → List UInt8 → List UInt8 × Option Nat
  | 0, offset, file => (file, some offset)
  | count + 1, offset, file =>
    let number := wordAt journal offset
    let page := byteRange journal (offset + 4) pageSize
    let next := offset + pageSize + 8
    if journal.length < offset + 4 + pageSize ∨ number = 0 ∨ number = lockPage pageSize then (file, none)
    else if pageCount < number then putBackRecords journal pageSize seed pageCount count next file
    else if journal.length < next ∨ wordAt journal (next - 4) ≠ checksum seed page then (file, none)
    else putBackRecords journal pageSize seed pageCount count next (overwrite file ((number - 1) * pageSize) page)

/-- Puts back the pages of the sections from an offset on, of which there are at most as many as a bound says. -/
def putBackSections (journal : List UInt8) (sectorSize pageSize pageCount : Nat) :
    Nat → Nat → List UInt8 → List UInt8
  | 0, _, file => file
  | bound + 1, offset, file =>
    let start := (offset + sectorSize - 1) / sectorSize * sectorSize
    match header? journal sectorSize start with
    | none => file
    | some header =>
      match putBackRecords journal pageSize header.seed pageCount
          (header.records journal sectorSize pageSize) (start + sectorSize) file with
      | (file, none) => file
      | (file, some offset) => putBackSections journal sectorSize pageSize pageCount bound offset file

/-- Gives a file its former number of pages. A part of a page that it lacks is not added. -/
def restoreSize (file : List UInt8) (pageSize pageCount : Nat) : List UInt8 :=
  let size := pageSize * pageCount
  if file.length < size ∧ size < file.length + pageSize then file else resize file size

/-- Takes back a change. The first header says how long the file was before it, and tells the sizes of sectors and
pages, no page size being the usual one. -/
def takeBack (journal file : List UInt8) (sectorSize pageSize : Nat) : List UInt8 :=
  match header? journal sectorSize 0 with
  | none => file
  | some header =>
    let sectorSize := wordAt journal 20
    let pageSize := if wordAt journal 24 = 0 then pageSize else wordAt journal 24
    if 32 ≤ sectorSize ∧ sectorSize ≤ 65536 ∧ isPowerOfTwo sectorSize ∧ isPageSize pageSize then
      putBackSections journal sectorSize pageSize header.pageCount journal.length 0
        (restoreSize file pageSize header.pageCount)
    else file

/-- What a byte adds to the checksum of a name: bytes from 128 on count as negative. -/
def nameSummand (b : UInt8) : Int := if b < 128 then b.toNat else (b.toNat : Int) - 256

/-- The name of the list of journals that a change of several files has left at the end of this one. -/
def listName? (journal : List UInt8) : Option (List UInt8) :=
  let size := journal.length
  let length := wordAt journal (size - 16)
  let name := byteRange journal (size - 16 - length) length
  if size < 16 ∨ 513 ≤ length ∨ size - 16 < length ∨ byteRange journal (size - 8) 8 ≠ mark ∨
      ((wordAt journal (size - 12) : Int) - (name.map nameSummand).foldl (· + ·) 0) % 0x100000000 ≠ 0 ∨
      name.head?.getD 0 = 0 then none
  else some (name.takeWhile (· != 0))

end Journal

end InspectionForms
