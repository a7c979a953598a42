import InspectionForms.Text.Blank

namespace InspectionForms

/-- How far a stored submission has come. -/
inductive Status
  | draft
  | pendingSync
  | synced
  deriving DecidableEq, Repr

namespace Status

def all : List Status := [draft, pendingSync, synced]

/-- The stored form. -/
def code : Status → String
  | draft => "draft"
  | pendingSync => "pending_sync"
  | synced => "synced"

/-- The form shown to people. -/
def label : Status → String
  | draft => "Draft"
  | pendingSync => "Pending Sync"
  | synced => "Synced"

/-- Reads a code in any case, with blanks around it. -/
def ofText? (text : String) : Option Status :=
  let plain := lowerAscii (trim text)
  all.find? fun status => status.code == plain

end Status

end InspectionForms
