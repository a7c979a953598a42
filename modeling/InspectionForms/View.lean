import InspectionForms.Json.Printer
import InspectionForms.Resolution

namespace InspectionForms

structure ChoiceOption where
  value : String
  selected : Bool

inductive InputType
  | text
  | date
  | dateTime

inductive FieldControl
  | input (type : InputType)
  | choice (multiple : Bool) (group : String) (options : List ChoiceOption)
  | signaturePad
  | unsupported (kind : String)

structure FieldView where
  /-- The key under which the answer is kept. -/
  scope : String
  fieldId : String
  label : String
  required : Bool
  value : Option Json
  control : FieldControl

structure RoleView where
  roleId : String
  roleName : String
  scope : String
  fields : List FieldView

structure UploadView where
  fieldId : String
  label : String
  required : Bool
  attached : Option String

inductive CellControl
  | checkbox (checked : Bool)
  | date
  | display (multiline : Bool)

structure CellView where
  row : Nat
  columnId : String
  value : Option Json
  enabled : Bool
  readOnly : Bool
  control : CellControl

structure RowView where
  row : Nat
  cells : List CellView

structure ColumnHeader where
  columnId : String
  label : String
  kind : String

structure TableView where
  subSectionId : String
  heading : String
  columns : List ColumnHeader
  rows : List RowView

inductive SectionViewBody
  | fieldset (fields : List FieldView)
  | tableGroup (tables : List TableView)
  | infoList (items : List String)
  | signatureGroup (roles : List RoleView)
  | fileUploadGroup (uploads : List UploadView)
  | unsupported (kind : String)

structure SectionView where
  sectionId : String
  title : String
  body : SectionViewBody

/-- An option is selected by its own text, and where several may be chosen also by a list that holds it. -/
def isSelected (value : Option Json) (option : String) (multiple : Bool) : Bool :=
  match value with
  | some (.string chosen) => chosen == option
  | some (.array chosen) => multiple && chosen.any fun item =>
      match item with
      | .string text => text == option
      | _ => false
  | _ => false

/-- The name that the options of one field share. -/
def choiceGroup (scope fieldId : String) : String := scope ++ "-" ++ fieldId

def choiceControl (scope fieldId : String) (options : List String) (value : Option Json) (multiple : Bool) :
    FieldControl :=
  .choice multiple (choiceGroup scope fieldId)
    (options.map fun option => ⟨option, isSelected value option multiple⟩)

def fieldControl (scope : String) (field : Field) (value : Option Json) : FieldControl :=
  match field.kind with
  | .text => .input .text
  | .date => .input .date
  | .dateTime => .input .dateTime
  | .checkboxGroup options => choiceControl scope field.id options value true
  | .radio options => choiceControl scope field.id options value false
  | .signaturePad => .signaturePad
  | .unsupported name => .unsupported name

def Field.view (field : Field) (answers : Answers) (scope : String) : FieldView :=
  let value := answers.field? scope field.id
  ⟨scope, field.id, field.label, field.required, value, fieldControl scope field value⟩

def Role.view (role : Role) (answers : Answers) (sectionId : String) : RoleView :=
  let scope := roleScope sectionId role.id
  ⟨role.id, role.name, scope, role.fields.map fun field => field.view answers scope⟩

/-- The name of an attached file. A value that is no text but counts as true shows as JSON. -/
def attachedName (value : Option Json) : Option String :=
  (value.filter Json.isTruthy).map fun value =>
    match value with
    | .string name => name
    | other => other.compact

def UploadSlot.view (slot : UploadSlot) (answers : Answers) (sectionId : String) : UploadView :=
  ⟨slot.id, slot.label, slot.required, attachedName (answers.field? sectionId slot.id)⟩

def cellControl (kind : ColumnKind) (value : Option Json) : CellControl :=
  match kind with
  | .checkbox => .checkbox (isTruthyValue value)
  | .date => .date
  | .textarea => .display true
  | .plain _ => .display false

/-- A cell of a table. The ids of its place are looked up in the whole form. -/
def Column.cellView (column : Column) (schema : Schema) (answers : Answers) (sectionId subSectionId : String)
    (row : Nat) : CellView :=
  let cell := resolveCell schema answers sectionId subSectionId row column.id
  ⟨row, column.id, cell.value, cell.enabled, cell.readOnly, cellControl column.kind cell.value⟩

def SubSection.view (sub : SubSection) (schema : Schema) (answers : Answers) (sectionId : String) :
    TableView where
  subSectionId := sub.id
  heading := sub.heading
  columns := sub.columns.map fun column => ⟨column.id, column.label, column.kind.name⟩
  rows := (List.range sub.rowCount).map fun row =>
    ⟨row, sub.columns.map fun column => column.cellView schema answers sectionId sub.id row⟩

def SectionBody.view (body : SectionBody) (schema : Schema) (answers : Answers) (sectionId : String) :
    SectionViewBody :=
  match body with
  | .fieldset fields => .fieldset (fields.map fun field => field.view answers sectionId)
  | .tableGroup subSections => .tableGroup (subSections.map fun sub => sub.view schema answers sectionId)
  | .infoList items => .infoList items
  | .signatureGroup roles => .signatureGroup (roles.map fun role => role.view answers sectionId)
  | .fileUploadGroup slots => .fileUploadGroup (slots.map fun slot => slot.view answers sectionId)
  | .unsupported name => .unsupported name

def Section.view (s : Section) (schema : Schema) (answers : Answers) : SectionView :=
  ⟨s.id, s.title, s.body.view schema answers s.id⟩

/-- What a form shows: one view for each section, in the order of the document. -/
def Schema.render (schema : Schema) (answers : Answers) : List SectionView :=
  schema.sections.map fun s => s.view schema answers

def SectionView.isUnsupported (view : SectionView) : Bool :=
  match view.body with
  | .unsupported _ => true
  | _ => false

end InspectionForms
