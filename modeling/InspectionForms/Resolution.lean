import InspectionForms.Answers
import InspectionForms.Schema.Basic

namespace InspectionForms

/-- One cell of a table as it stands. -/
structure CellResolution where
  value : Option Json
  enabled : Bool
  readOnly : Bool

/-- What is written in a cell, be it false or null, and otherwise the default of its row. -/
def cellValue? (schema : Schema) (answers : Answers) (sectionId subSectionId : String) (row : Nat)
    (columnId : String) : Option Json :=
  match answers.cell? sectionId subSectionId row columnId with
  | some written => some written
  | none => (schema.subSection? sectionId subSectionId).bind fun sub => sub.default? row columnId

def isTruthyValue (value : Option Json) : Bool := value.any Json.isTruthy

/-- A cell is enabled if its column has no condition or the cell that the condition names has a value that
counts as true, whether or not that cell is enabled itself. A column that the table does not declare is
neither disabled nor read-only. -/
def resolveCell (schema : Schema) (answers : Answers) (sectionId subSectionId : String) (row : Nat)
    (columnId : String) : CellResolution :=
  let value := cellValue? schema answers sectionId subSectionId row columnId
  match (schema.subSection? sectionId subSectionId).bind fun sub => sub.column? columnId with
  | none => ⟨value, true, false⟩
  | some column =>
    let enabled := match column.visibleIf with
      | none => true
      | some condition => isTruthyValue (cellValue? schema answers sectionId subSectionId row condition)
    ⟨value, enabled, !column.editable⟩

end InspectionForms
