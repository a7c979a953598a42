import InspectionForms.Database.Image
import InspectionForms.Database.Record

namespace InspectionForms

/-- A row of a table with its number. -/
structure TableRow where
  id : Int
  cells : List Cell

namespace PagedImage

def textEncoding (paged : PagedImage) : TextEncoding := .ofNumber (byteAt paged.image.header 59)

/-- The content of the pages that take what a row has too much. A bound says how many there can be. -/
def overflow (paged : PagedImage) : Nat → Nat → Nat → List UInt8
  | 0, _, _ => []
  | bound + 1, number, count =>
    let page := paged.page number
    if count = 0 then []
    else byteRange page 4 (min count (paged.usableSize - 4)) ++
      paged.overflow bound (wordAt page 0) (count - (paged.usableSize - 4))

/-- How many bytes of a record of a given size stand in its own page, where there is room for some at most. -/
def localSize (paged : PagedImage) (most size : Nat) : Nat :=
  let least := (paged.usableSize - 12) * 32 / 255 - 23
  let wanted := least + (size - least) % (paged.usableSize - 4)
  if size ≤ most then size else if wanted ≤ most then wanted else least

def readRecord (paged : PagedImage) (most size : Nat) (bytes : List UInt8) : Except ImageError (List Cell) :=
  let count := paged.localSize most size
  let content := byteRange bytes 0 count ++ paged.overflow paged.pageCount (wordAt bytes count) (size - count)
  match readRecord? paged.textEncoding content with
  | some cells => .ok cells
  | none => .error .malformed

def readRow (paged : PagedImage) (bytes : List UInt8) : Except ImageError TableRow := do
  let (size, rest) := varint bytes
  let (id, rest) := varint rest
  let cells ← paged.readRecord (paged.usableSize - 35) size rest
  return ⟨if id < 0x8000000000000000 then id else (id : Int) - 0x10000000000000000, cells⟩

def readEntry (paged : PagedImage) (bytes : List UInt8) : Except ImageError (List Cell) :=
  let (size, rest) := varint bytes
  paged.readRecord ((paged.usableSize - 12) * 64 / 255 - 23) size rest

/-- Where the head of a page starts. On the first page it follows the header. -/
def headOffset (number : Nat) : Nat := if number = 1 then 100 else 0

def entryOffsets (page : List UInt8) (start count : Nat) : List Nat :=
  (List.range count).map fun k => halfWordAt page (start + 2 * k)

def openPage (paged : PagedImage) (number : Nat) : Except ImageError (List UInt8 × Nat × Nat) :=
  let page := paged.page number
  let head := headOffset number
  let count := halfWordAt page (head + 3)
  if number = 0 ∨ paged.pageCount < number ∨ (paged.pageSize - 8) / 6 < count then .error .malformed
  else .ok (page, head, count)

/-- The rows of the table at a page, in the order of their numbers. Tables are at most `depth` pages deep. -/
def rows (paged : PagedImage) (depth number : Nat) : Except ImageError (List TableRow) :=
  match depth with
  | 0 => .error .malformed
  | depth + 1 => do
    let (page, head, count) ← paged.openPage number
    match byteAt page head with
    | 13 => (entryOffsets page (head + 8) count).mapM fun offset => paged.readRow (page.drop offset)
    | 5 =>
      let children := (entryOffsets page (head + 12) count).map (wordAt page)
      let parts ← (children ++ [wordAt page (head + 8)]).mapM (paged.rows depth)
      return parts.flatten
    | _ => throw .malformed

/-- The entries of the index at a page, in order. Those of an inner page stand between the ones of the pages below. -/
def entries (paged : PagedImage) (depth number : Nat) : Except ImageError (List (List Cell)) :=
  match depth with
  | 0 => .error .malformed
  | depth + 1 => do
    let (page, head, count) ← paged.openPage number
    match byteAt page head with
    | 10 => (entryOffsets page (head + 8) count).mapM fun offset => paged.readEntry (page.drop offset)
    | 2 =>
      let parts ← (entryOffsets page (head + 12) count).mapM fun offset => do
        return (← paged.entries depth (wordAt page offset)) ++ [← paged.readEntry (page.drop (offset + 4))]
      return parts.flatten ++ (← paged.entries depth (wordAt page (head + 8)))
    | _ => throw .malformed

def table (paged : PagedImage) (number : Nat) : Except ImageError (List TableRow) := paged.rows 20 number

def index (paged : PagedImage) (number : Nat) : Except ImageError (List (List Cell)) := paged.entries 20 number

/-- The size of the free blocks of a page from an offset on. Each names the next one, which must lie behind it. -/
def freeBlocks? (paged : PagedImage) (page : List UInt8) : Nat → Nat → Option Nat
  | 0, _ => none
  | bound + 1, offset =>
    let next := halfWordAt page offset
    let size := halfWordAt page (offset + 2)
    if paged.usableSize < offset + 4 then none
    else if offset + size + 3 < next then (paged.freeBlocks? page bound next).map (size + ·)
    else if 0 < next ∨ paged.usableSize < offset + size then none
    else some size

/-- The first page tells its free room: where entries start, the blocks between them, and how many bytes are too
few for a block. -/
def hasSoundRoom (paged : PagedImage) : Bool :=
  let page := paged.page 1
  let entryEnd := 108 + 2 * halfWordAt page 103
  let entryStart := if halfWordAt page 105 = 0 then 65536 else halfWordAt page 105
  let firstBlock := halfWordAt page 101
  let blocks? := if firstBlock = 0 then some 0
    else if firstBlock < entryStart then none
    else paged.freeBlocks? page paged.pageSize firstBlock
  blocks?.any fun blocks =>
    let room := byteAt page 107 + entryStart + blocks
    decide (room ≤ paged.usableSize) && decide (entryEnd ≤ entryStart)

def hasSoundFreeList (paged : PagedImage) : Bool :=
  let header := paged.image.header
  let first := wordAt header 32
  wordAt header 36 == 0 ||
    (decide (wordAt header 36 < paged.pageCount) && first != 0 && decide (first ≤ paged.pageCount))

end PagedImage

end InspectionForms
