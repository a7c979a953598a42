import InspectionForms.CommandLine.FileTree
import InspectionForms.Database.Image

namespace InspectionForms

/-- What can stand beside the file of a store: the journal of a change, the log that collects changes, the index
of the log, and the lock. -/
inductive Companion
  | journal
  | log
  | index
  | lock
  deriving DecidableEq, Repr

namespace Companion

def ending : Companion → String
  | journal => "-journal"
  | log => "-wal"
  | index => "-shm"
  | lock => ".lock"

def name (companion : Companion) (storeName : FileName) : FileName := storeName ++ utf8 companion.ending

def path (companion : Companion) (storePath : Path) : Path :=
  storePath.dropLast ++ [companion.name (storePath.getLastD [])]

end Companion

/-- The first bytes of an index: the version of its layout, the lowest byte first. -/
def indexHeader : List UInt8 := [0x18, 0xE2, 0x2D, 0]

def indexSize : Nat := 32768

namespace FileNode

def isEmptyFile : FileNode → Bool
  | .file [] => true
  | _ => false

/-- A journal is closed by a zero in front. The file of a store does not start with a zero. -/
def isOpenJournal : FileNode → Bool
  | .directory _ => false
  | .file bytes => bytes.head?.any (· != 0)
  | .database _ _ => true

/-- The bytes of a file. Of a store that this library has written only the first ones are told. -/
def bytes : FileNode → List UInt8
  | .file bytes => bytes
  | .directory _ => []
  | .database _ hasLog => Image.firstBytes hasLog

end FileNode

end InspectionForms
