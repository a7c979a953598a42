import InspectionForms.Database.Bytes

namespace InspectionForms

/-- A page as a change has left it. -/
structure LogFrame where
  number : Nat
  page : List UInt8

/-- The finished changes of a log: their frames, the last one first, and the number of pages after them, which is
zero if there are none. -/
structure Log where
  pageSize : Nat
  pageCount : Nat
  frames : List LogFrame

namespace Log

def empty : Log := ⟨0, 0, []⟩

def checksum (word : List UInt8 → Nat) : UInt32 × UInt32 → List UInt8 → UInt32 × UInt32
  | (s, t), a :: b :: c :: d :: e :: f :: g :: h :: rest =>
    let s := s + UInt32.ofNat (word [a, b, c, d]) + t
    let t := t + UInt32.ofNat (word [e, f, g, h]) + s
    checksum word (s, t) rest
  | sums, _ => sums

def headerSize : Nat := 32

def frameHeaderSize : Nat := 24

def mark : Nat := 0x377F0682

def version : Nat := 3007000

def salt (log : List UInt8) : List UInt8 := byteRange log 16 8

def hasPageSize (log : List UInt8) : Bool :=
  headerSize < log.length && wordAt log 0 / 2 * 2 == mark && isPageSize (wordAt log 8)

def sumsAt (bytes : List UInt8) (offset : Nat) : UInt32 × UInt32 :=
  (UInt32.ofNat (wordAt bytes offset), UInt32.ofNat (wordAt bytes (offset + 4)))

/-- Reads frames up to one that does not fit to those before it. A frame with a number of pages ends a change, and
those behind the last such frame do not count. -/
def readFrames (word : List UInt8 → Nat) (salt : List UInt8) (pageSize : Nat) :
    Nat → List UInt8 → UInt32 × UInt32 → List LogFrame → Log → Log
  | 0, _, _, _, log => log
  | count + 1, bytes, sums, frames, log =>
    let page := byteRange bytes frameHeaderSize pageSize
    let sums := checksum word (checksum word sums (byteRange bytes 0 8)) page
    if wordAt bytes 0 = 0 ∨ byteRange bytes 8 8 ≠ salt ∨ sumsAt bytes 16 ≠ sums then log
    else
      let frames := ⟨wordAt bytes 0, page⟩ :: frames
      let log := if wordAt bytes 4 = 0 then log else ⟨pageSize, wordAt bytes 4, frames⟩
      readFrames word salt pageSize count (bytes.drop (frameHeaderSize + pageSize)) sums frames log

/-- Reads a log, of which nothing counts if the header is not right. A log of another version cannot be read. -/
def ofBytes? (bytes : List UInt8) : Option Log :=
  let word := if wordAt bytes 0 % 2 = 0 then littleEndian else bigEndian
  let sums := checksum word (0, 0) (byteRange bytes 0 24)
  let pageSize := wordAt bytes 8
  if !hasPageSize bytes || sumsAt bytes 24 != sums then some empty
  else if wordAt bytes 4 ≠ version then none
  else some (readFrames word (salt bytes) pageSize ((bytes.length - headerSize) / (frameHeaderSize + pageSize))
    (bytes.drop headerSize) sums [] empty)

/-- Someone who cannot write the index takes the salt from the header, or zeros if it tells no page size. Another
salt in the log is a sign of changes. -/
def hasForeignSalt (log : List UInt8) : Bool :=
  headerSize ≤ log.length && !hasPageSize log && (salt log).any (· != 0)

def page? (log : Log) (number : Nat) : Option (List UInt8) :=
  (log.frames.find? fun frame => frame.number == number).map LogFrame.page

/-- Writes the pages of a log into the file. A file that would have to grow by more than the log and some room is
left alone. -/
def writeBack? (log : Log) (file : List UInt8) : Option (List UInt8) :=
  let size := log.pageCount * log.pageSize
  if log.pageCount = 0 then some file
  else if file.length + 65536 + log.frames.length * log.pageSize < size then none
  else some (resize (log.frames.foldr (fun frame file =>
    if log.pageCount < frame.number then file
    else overwrite file ((frame.number - 1) * log.pageSize) frame.page) file) size)

end Log

end InspectionForms
