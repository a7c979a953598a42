import InspectionForms.Answers
import InspectionForms.Schema.Basic
import InspectionForms.Status

namespace InspectionForms

/-- What a form hands over: its id and what has been written, without any defaults. -/
structure Submission where
  formId : String
  payload : Json

def assemble (schema : Schema) (answers : Answers) : Submission :=
  ⟨schema.formIdOrUnknown, answers.snapshot⟩

/-- A submission with its status and its times in milliseconds. -/
structure SubmissionRecord where
  formId : String
  payload : Json
  status : Status
  createdAt : Int
  updatedAt : Int

def Submission.record (submission : Submission) (status : Status) (now : Int) : SubmissionRecord :=
  ⟨submission.formId, submission.payload, status, now, now⟩

end InspectionForms
