import InspectionForms.Json.Printer
import InspectionForms.Json.Reader
import InspectionForms.Store.Error
import InspectionForms.Submission
import InspectionForms.Text.Digits

namespace InspectionForms

/-- A row of the submission table as it is stored. Payload and status are texts. -/
structure StoredRow where
  id : Int
  formId : String
  payloadText : String
  statusText : String
  createdAt : Int
  updatedAt : Int
  deriving DecidableEq, Repr

/-- A submission as it is read back. -/
structure SubmissionRow where
  id : Int
  formId : String
  payload : Json
  status : Status
  createdAt : Int
  updatedAt : Int

namespace StoredRow

/-- Makes sense of the stored texts, of the status first. -/
def read (row : StoredRow) : Except StoreError SubmissionRow :=
  match Status.ofText? row.statusText with
  | none => .error .invalidStatus
  | some status =>
    match Json.parse? row.payloadText with
    | none => .error (.payloadNotJson row.payloadText)
    | some payload => .ok ⟨row.id, row.formId, payload, status, row.createdAt, row.updatedAt⟩

/-- A filter compares the stored text of a status with its code. -/
def hasStatus (status : Option Status) (row : StoredRow) : Bool :=
  status.all fun status => row.statusText == status.code

/-- The order of listings: the latest creation first, of equal ones the greatest id. -/
def newerFirst (a b : StoredRow) : Bool :=
  decide (b.createdAt < a.createdAt) || (a.createdAt == b.createdAt && decide (b.id ≤ a.id))

end StoredRow

/-- The submission table: its rows, oldest first, and the last id given out, which no later row takes again. -/
structure SubmissionTable where
  rows : List StoredRow
  lastId : Nat

def SubmissionTable.empty : SubmissionTable := ⟨[], 0⟩

/-- A submission store. The table may be missing if someone else has removed it. -/
structure Store where
  table : Option SubmissionTable
  versionText : String

namespace Store

def currentVersion : String := "1"

def empty : Store := ⟨some .empty, currentVersion⟩

instance : Inhabited Store := ⟨empty⟩

/-- Opens the store again. A missing table is made anew, and the version is set to the current one. -/
def reopen (store : Store) : Store := ⟨some (store.table.getD .empty), currentVersion⟩

def schemaVersion? (store : Store) : Option Int := readInt64? store.versionText

def insert (store : Store) (record : SubmissionRecord) : Except StoreError SubmissionRow × Store :=
  if record.updatedAt < record.createdAt then (.error .updatedBeforeCreated, store)
  else match store.table with
    | none => (.error .noSuchTable, store)
    | some table =>
      let id := table.lastId + 1
      let row : StoredRow :=
        ⟨id, record.formId, record.payload.compact, record.status.code, record.createdAt, record.updatedAt⟩
      (.ok ⟨id, record.formId, record.payload, record.status, record.createdAt, record.updatedAt⟩,
        { store with table := some ⟨table.rows ++ [row], id⟩ })

def add (store : Store) (record : SubmissionRecord) : Except StoreError Int × Store :=
  let (result, store) := store.insert record
  (result.map SubmissionRow.id, store)

def requireTable (store : Store) : Except StoreError SubmissionTable :=
  match store.table with
  | some table => .ok table
  | none => .error .noSuchTable

def get? (store : Store) (id : Int) : Except StoreError (Option SubmissionRow) := do
  let table ← store.requireTable
  match table.rows.find? fun row => row.id == id with
  | none => .ok none
  | some row => row.read.map some

/-- A page never has more rows. -/
def maxPage : Nat := 500

def page (table : SubmissionTable) (status : Option Status) (limit offset : Nat) : List StoredRow :=
  (((table.rows.mergeSort StoredRow.newerFirst).filter (StoredRow.hasStatus status)).drop offset).take
    (min limit maxPage)

/-- Reads a page. One row that cannot be read spoils the page. -/
def list (store : Store) (status : Option Status) (limit offset : Nat) :
    Except StoreError (List SubmissionRow) := do
  if 0x8000000000000000 ≤ offset then throw .numericOverflow
  let table ← store.requireTable
  (page table status limit offset).mapM StoredRow.read

def count (store : Store) (status : Option Status) : Except StoreError Nat := do
  let table ← store.requireTable
  return table.rows.countP (StoredRow.hasStatus status)

/-- Gives a row a new status and a new time of change, and reads it back. The change stands even if the
row cannot be read. -/
def setStatus (store : Store) (id : Int) (status : Status) (updatedAt : Int) :
    Except StoreError SubmissionRow × Store :=
  match store.table with
  | none => (.error .noSuchTable, store)
  | some table =>
    match table.rows.find? fun row => row.id == id with
    | none => (.error .unknownId, store)
    | some row =>
      if updatedAt < row.createdAt then (.error .updatedBeforeCreated, store)
      else
        let change (row : StoredRow) : StoredRow :=
          if row.id == id then { row with statusText := status.code, updatedAt } else row
        ((change row).read, { store with table := some { table with rows := table.rows.map change } })

end Store

end InspectionForms
