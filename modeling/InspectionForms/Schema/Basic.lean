import InspectionForms.Json.Basic

namespace InspectionForms

inductive FieldKind
  | text
  | date
  | dateTime
  | checkboxGroup (options : List String)
  | radio (options : List String)
  | signaturePad
  /-- A kind that no form can show, under its name in the document. -/
  | unsupported (name : String)
  deriving DecidableEq

namespace FieldKind

def name : FieldKind → String
  | text => "text"
  | date => "date"
  | dateTime => "datetime"
  | checkboxGroup _ => "checkbox_group"
  | radio _ => "radio"
  | signaturePad => "signature_pad"
  | unsupported name => name

def options : FieldKind → List String
  | checkboxGroup options => options
  | radio options => options
  | _ => []

def isSupported : FieldKind → Bool
  | unsupported _ => false
  | _ => true

end FieldKind

structure Field where
  id : String
  label : String
  required : Bool
  kind : FieldKind
  deriving DecidableEq

/-- One who signs, with fields of their own. -/
structure Role where
  id : String
  name : String
  fields : List Field
  deriving DecidableEq

/-- The key under which the answers of a role's fields are kept. -/
def roleScope (sectionId roleId : String) : String := sectionId ++ "_" ++ roleId

/-- A place for one attached file. -/
structure UploadSlot where
  id : String
  label : String
  required : Bool
  deriving DecidableEq

inductive ColumnKind
  | checkbox
  | date
  | textarea
  /-- A column for display, under its name in the document if it has one. -/
  | plain (name : Option String)
  deriving DecidableEq

def ColumnKind.name : ColumnKind → String
  | checkbox => "checkbox"
  | date => "date"
  | textarea => "textarea"
  | plain name => name.getD "static"

structure Column where
  id : String
  label : String
  kind : ColumnKind
  editable : Bool
  /-- The column whose cell in the same row switches this one on. -/
  visibleIf : Option String
  deriving DecidableEq

/-- A table of a section. A row is known by its position and holds the values shown before anything is
written, by column. -/
structure SubSection where
  id : String
  title : String
  columns : List Column
  rows : List (SortedMap String Json)

namespace SubSection

/-- The first column with this id. -/
def column? (sub : SubSection) (columnId : String) : Option Column :=
  sub.columns.find? fun column => column.id == columnId

def rowCount (sub : SubSection) : Nat := sub.rows.length

/-- What a cell shows before it is written. The column need not be declared. -/
def default? (sub : SubSection) (row : Nat) (columnId : String) : Option Json :=
  sub.rows[row]?.bind fun defaults => defaults.get? columnId

def heading (sub : SubSection) : String := sub.id ++ ". " ++ sub.title

end SubSection

inductive SectionBody
  | fieldset (fields : List Field)
  | tableGroup (subSections : List SubSection)
  | infoList (items : List String)
  | signatureGroup (roles : List Role)
  | fileUploadGroup (slots : List UploadSlot)
  /-- A kind that no form can show, under its name in the document. -/
  | unsupported (name : String)

namespace SectionBody

def name : SectionBody → String
  | fieldset _ => "fieldset"
  | tableGroup _ => "table_group"
  | infoList _ => "info_list"
  | signatureGroup _ => "signature_group"
  | fileUploadGroup _ => "file_upload_group"
  | unsupported name => name

def isSupported : SectionBody → Bool
  | unsupported _ => false
  | _ => true

end SectionBody

structure Section where
  id : String
  title : String
  body : SectionBody

/-- A form as its author describes it. -/
structure Schema where
  formId : Option String
  formTitle : Option String
  sections : List Section

namespace Schema

def formIdOrUnknown (schema : Schema) : String := schema.formId.getD "unknown"

def titleOrDefault (schema : Schema) : String := schema.formTitle.getD "Inspection Form"

/-- The first section with this id. -/
def section? (schema : Schema) (sectionId : String) : Option Section :=
  schema.sections.find? fun s => s.id == sectionId

/-- The first table with this id in the first section with its id, if that section has tables. -/
def subSection? (schema : Schema) (sectionId subSectionId : String) : Option SubSection :=
  match schema.section? sectionId with
  | some ⟨_, _, .tableGroup subSections⟩ => subSections.find? fun sub => sub.id == subSectionId
  | _ => none

/-- How many rows can be written in a table, none if the form has no such table. -/
def rowCount (schema : Schema) (sectionId subSectionId : String) : Nat :=
  match schema.subSection? sectionId subSectionId with
  | some sub => sub.rowCount
  | none => 0

end Schema

end InspectionForms
