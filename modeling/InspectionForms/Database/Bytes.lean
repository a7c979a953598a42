namespace InspectionForms

/-- The bytes from an offset on, as many as asked for. Behind the last byte there are zeros. -/
def byteRange (bytes : List UInt8) (offset count : Nat) : List UInt8 :=
  ((bytes.drop offset).take count).rightpad count 0

def bigEndian (bytes : List UInt8) : Nat := bytes.foldl (fun n b => 256 * n + b.toNat) 0

def littleEndian (bytes : List UInt8) : Nat := bytes.foldr (fun b n => b.toNat + 256 * n) 0

def byteAt (bytes : List UInt8) (offset : Nat) : Nat := (bytes.getD offset 0).toNat

def halfWordAt (bytes : List UInt8) (offset : Nat) : Nat := bigEndian (byteRange bytes offset 2)

def wordAt (bytes : List UInt8) (offset : Nat) : Nat := bigEndian (byteRange bytes offset 4)

def wordBytes (n : Nat) : List UInt8 :=
  [UInt8.ofNat (n / 0x1000000), UInt8.ofNat (n / 0x10000), UInt8.ofNat (n / 0x100), UInt8.ofNat n]

def fileSizeLimit : Nat := 0x4000000

/-- Writes bytes at an offset. A gap before it is filled with zeros. -/
def overwrite (bytes : List UInt8) (offset : Nat) (patch : List UInt8) : List UInt8 :=
  if fileSizeLimit < offset + patch.length then bytes
  else (bytes.rightpad offset 0).take offset ++ patch ++ bytes.drop (offset + patch.length)

def resize (bytes : List UInt8) (size : Nat) : List UInt8 :=
  if fileSizeLimit < size then bytes else (bytes.take size).rightpad size 0

def isPowerOfTwo (n : Nat) : Bool := n != 0 && 1 <<< n.log2 == n

def isPageSize (n : Nat) : Bool := decide (512 ≤ n) && decide (n ≤ 65536) && isPowerOfTwo n

/-- How many pages a file fills. One byte alone does not count. -/
def pagesIn (bytes : List UInt8) (pageSize : Nat) : Nat :=
  if bytes.length ≤ 1 then 0 else (bytes.length + pageSize - 1) / pageSize

end InspectionForms
