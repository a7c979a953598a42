import InspectionForms.Submission
import InspectionForms.View

namespace InspectionForms

universe u v

inductive Phase
  | editing
  | submitted (submissionId : Int)
  deriving DecidableEq, Repr

/-- One filling of a form. It takes answers until it is submitted, which happens at most once. -/
structure Session where
  schema : Schema
  answers : Answers
  phase : Phase

structure Receipt where
  submissionId : Int
  formId : String
  deriving DecidableEq, Repr

inductive SubmitError (ε : Type u)
  | alreadySubmitted
  /-- The record was refused. The session stays as it was and can be submitted again. -/
  | notPersisted (cause : ε)

def SubmitError.message {ε : Type u} : SubmitError ε → String
  | alreadySubmitted => "form has already been submitted"
  | notPersisted _ => "Failed to save submission to offline storage."

namespace Session

def new (schema : Schema) : Session := ⟨schema, .empty, .editing⟩

def isEditing (session : Session) : Bool := session.phase == .editing

def setField (session : Session) (sectionId fieldId : String) (value : Json) : Session :=
  if session.isEditing then
    { session with answers := session.answers.writeField sectionId fieldId value }
  else session

/-- Writes a cell. Only the rows of the form can be written. -/
def setCell (session : Session) (sectionId subSectionId : String) (row : Nat) (columnId : String)
    (value : Json) : Session :=
  if session.isEditing ∧ row < session.schema.rowCount sectionId subSectionId then
    { session with answers := session.answers.writeCell sectionId subSectionId row columnId value }
  else session

/-- Notes a file by its name. -/
def attach (session : Session) (sectionId fieldId fileName : String) : Session :=
  session.setField sectionId fieldId (.string fileName)

def field? (session : Session) (sectionId fieldId : String) : Option Json :=
  session.answers.field? sectionId fieldId

def cell (session : Session) (sectionId subSectionId : String) (row : Nat) (columnId : String) :
    CellResolution :=
  resolveCell session.schema session.answers sectionId subSectionId row columnId

def render (session : Session) : List SectionView := session.schema.render session.answers

def submission (session : Session) : Submission := assemble session.schema session.answers

def pendingRecord (session : Session) (now : Int) : SubmissionRecord :=
  session.submission.record .pendingSync now

/-- Hands the answers to a store as a record that waits for its synchronisation. `add` puts a record into
the store and gives it an id, or refuses it. -/
def submit {σ : Type u} {ε : Type v} (session : Session) (add : σ → SubmissionRecord → Except ε Int × σ)
    (store : σ) (now : Int) : Except (SubmitError ε) Receipt × Session × σ :=
  if session.isEditing then
    match add store (session.pendingRecord now) with
    | (.ok id, store) =>
      (.ok ⟨id, session.submission.formId⟩, { session with phase := .submitted id }, store)
    | (.error cause, store) => (.error (.notPersisted cause), session, store)
  else (.error .alreadySubmitted, session, store)

end Session

end InspectionForms
