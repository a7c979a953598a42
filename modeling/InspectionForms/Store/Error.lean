import InspectionForms.Database.Relation
import InspectionForms.FileError
import InspectionForms.Json.Fault
import InspectionForms.Store.Address

namespace InspectionForms

inductive StoreError
  | file (cause : FileError)
  | address (cause : AddressError)
  | cannotOpen (path : String)
  | cannotOpenCompanion
  | unreadable
  | notADatabase
  | malformed
  | malformedEntry (name cause : String)
  | unknownFormat
  | locked
  | logChanged
  | readOnly
  | noSuchTable
  | relation (cause : RelationError)
  | payloadNotJson (payloadText : String)
  | updatedBeforeCreated
  | numericOverflow
  | invalidStatus
  | unknownId
  deriving DecidableEq, Repr

namespace StoreError

def code : StoreError → String
  | file _ => "IO"
  | address _ | cannotOpen _ | cannotOpenCompanion | unreadable | notADatabase | malformed | malformedEntry _ _
  | unknownFormat | locked | logChanged | readOnly | noSuchTable | relation _ => "SQLITE"
  | payloadNotJson _ => "JSON"
  | updatedBeforeCreated | numericOverflow | invalidStatus => "INVALID_INPUT"
  | unknownId => "UNKNOWN_ID"

def message : StoreError → String
  | file cause => "io: " ++ cause.message
  | address cause => "sqlite: " ++ cause.message
  | cannotOpen path => "sqlite: unable to open database file: " ++ path
  | cannotOpenCompanion => "sqlite: unable to open database file"
  | unreadable => "sqlite: disk I/O error"
  | notADatabase => "sqlite: file is not a database"
  | malformed => "sqlite: database disk image is malformed"
  | malformedEntry name cause =>
    "sqlite: malformed database schema (" ++ name ++ ")" ++ if cause.isEmpty then "" else " - " ++ cause
  | unknownFormat => "sqlite: unsupported file format"
  | locked => "sqlite: database is locked"
  | logChanged => "sqlite: locking protocol"
  | readOnly => "sqlite: attempt to write a readonly database"
  | noSuchTable => "sqlite: no such table: submissions"
  | relation cause => "sqlite: " ++ cause.message
  | payloadNotJson payloadText => "json: " ++ jsonFaultText payloadText
  | updatedBeforeCreated => "invalid input: updated_at must not precede created_at"
  | numericOverflow => "invalid input: numeric overflow"
  | invalidStatus => "invalid input: stored submission status is invalid"
  | unknownId => "unknown id"

end StoreError

end InspectionForms
