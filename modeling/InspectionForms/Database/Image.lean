import InspectionForms.Database.Log
import InspectionForms.Text.Utf8

namespace InspectionForms

/-- What is wrong with a database. -/
inductive ImageError
  | notADatabase
  | malformed
  | malformedEntry (name cause : String)
  | unknownFormat
  deriving DecidableEq, Repr

/-- A database as the bytes of its file, with a log whose pages stand before those of the file. -/
structure Image where
  file : List UInt8
  log : Log

namespace Image

def mark : List UInt8 := utf8 "SQLite format 3" ++ [0]

def writerVersion : Nat := 3048000

def firstPage (pageSize reserve : Nat) (hasLog : Bool) : List UInt8 :=
  let version := if hasLog then 2 else 1
  let sizes := [UInt8.ofNat (pageSize / 256), UInt8.ofNat (pageSize / 65536), version, version, UInt8.ofNat reserve]
  let header := mark ++ sizes ++ [64, 32, 32] ++ wordBytes 1 ++ wordBytes 1
  (header.rightpad 92 0 ++ wordBytes 1 ++ wordBytes writerVersion ++ [13]).rightpad pageSize 0

def usualPageSize : Nat := 4096

def namedPageSize (file : List UInt8) : Nat := 256 * byteAt file 16 + 65536 * byteAt file 17

/-- The size of pages before the first one has been looked at. -/
def presumedPageSize (file : List UInt8) : Nat :=
  if isPageSize (namedPageSize file) then namedPageSize file else usualPageSize

/-- How many bytes of each page are kept free, before the first one has been looked at. -/
def presumedReserve (file : List UInt8) : Nat := if isPageSize (namedPageSize file) then byteAt file 20 else 0

def firstBytes (hasLog : Bool) : List UInt8 := (firstPage usualPageSize 0 hasLog).take 32

def isFresh (file : List UInt8) : Bool := decide (file.length ≤ 1)

/-- The page with a number, which counts from one. -/
def page (image : Image) (pageSize number : Nat) : List UInt8 :=
  match image.log.page? number with
  | some page => byteRange page 0 pageSize
  | none => byteRange image.file ((number - 1) * pageSize) pageSize

def header (image : Image) : List UInt8 := image.page 512 1

def pageCount (image : Image) (pageSize : Nat) : Nat :=
  if image.log.pageCount = 0 then pagesIn image.file pageSize else image.log.pageCount

/-- Whether the database can only be read with a log. -/
def needsLog (image : Image) : Bool := byteRange image.header 0 16 == mark && byteAt image.header 19 == 2

def forbidsChanges (image : Image) : Bool := decide (2 < byteAt image.header 18)

end Image

/-- A database whose header has been found right: the size of its pages, and how much of them is used. -/
structure PagedImage where
  image : Image
  pageSize : Nat
  usableSize : Nat

/-- Looks at the header. The size of pages that has been found, or else the one that has been presumed, goes with an
error, too. -/
def Image.paged (image : Image) (presumed : Nat) : Except (ImageError × Nat) PagedImage := do
  let header := image.header
  let pageSize := namedPageSize header
  if byteRange header 0 16 ≠ mark ∨ 2 < byteAt header 19 ∨ byteRange header 21 3 ≠ [64, 32, 32] then
    throw (.notADatabase, presumed)
  if !isPageSize pageSize then throw (.notADatabase, presumed)
  let usableSize := pageSize - byteAt header 20
  let isCounted := wordAt header 28 != 0 && wordAt header 24 == wordAt header 92
  if isCounted && image.pageCount pageSize < wordAt header 28 then throw (.malformed, pageSize)
  if usableSize < 480 then throw (.notADatabase, pageSize)
  if 4 < byteAt header 47 then throw (.unknownFormat, pageSize)
  return ⟨image, pageSize, usableSize⟩

namespace PagedImage

def page (paged : PagedImage) (number : Nat) : List UInt8 := paged.image.page paged.pageSize number

def pageCount (paged : PagedImage) : Nat :=
  let header := paged.image.header
  if wordAt header 28 = 0 ∨ wordAt header 24 ≠ wordAt header 92 then paged.image.pageCount paged.pageSize
  else wordAt header 28

end PagedImage

end InspectionForms
