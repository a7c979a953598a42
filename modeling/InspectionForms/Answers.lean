import InspectionForms.Json.Basic
import InspectionForms.Text.Digits

namespace InspectionForms

/-- The cells written in one row, by column. -/
abbrev RowAnswers := SortedMap String Json

/-- The rows of one table in which something is written. -/
abbrev TableAnswers := SortedMap Nat RowAnswers

/-- What is written in one section. Fields and tables are kept apart, and one id may be both. -/
structure SectionAnswers where
  fields : SortedMap String Json
  tables : SortedMap String TableAnswers

/-- Everything that has been written in a form, and nothing else. -/
structure Answers where
  sections : SortedMap String SectionAnswers

namespace Answers

def empty : Answers := ⟨∅⟩

instance : Inhabited Answers := ⟨empty⟩

def isEmpty (answers : Answers) : Bool := answers.sections.isEmpty

def field? (answers : Answers) (sectionId fieldId : String) : Option Json := do
  let inSection ← answers.sections.get? sectionId
  inSection.fields.get? fieldId

def cell? (answers : Answers) (sectionId subSectionId : String) (row : Nat) (columnId : String) :
    Option Json := do
  let inSection ← answers.sections.get? sectionId
  let table ← inSection.tables.get? subSectionId
  let cells ← table.get? row
  cells.get? columnId

def writeField (answers : Answers) (sectionId fieldId : String) (value : Json) : Answers :=
  ⟨answers.sections.alter sectionId fun old =>
    let inSection := old.getD ⟨∅, ∅⟩
    { inSection with fields := inSection.fields.insert fieldId value }⟩

def writeCell (answers : Answers) (sectionId subSectionId : String) (row : Nat) (columnId : String)
    (value : Json) : Answers :=
  ⟨answers.sections.alter sectionId fun old =>
    let inSection := old.getD ⟨∅, ∅⟩
    { inSection with tables := inSection.tables.alter subSectionId fun table =>
        (table.getD ∅).alter row fun cells => (cells.getD ∅).insert columnId value }⟩

end Answers

/-- A table as JSON. The position of a row becomes its name. -/
def TableAnswers.toJson (table : TableAnswers) : Json :=
  Json.ofMembers (table.entries.map fun (row, cells) => (natText row, Json.ofMap cells))

/-- A section as JSON. A table hides a field with the same id. -/
def SectionAnswers.toJson (s : SectionAnswers) : Json :=
  Json.ofMap (s.fields.insertMany (s.tables.entries.map fun (id, table) => (id, table.toJson)))

/-- The answers as JSON: what has been written and no defaults. -/
def Answers.snapshot (answers : Answers) : Json := Json.ofMap (answers.sections.map SectionAnswers.toJson)

end InspectionForms
