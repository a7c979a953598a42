import InspectionForms.View

namespace InspectionForms

def InputType.name : InputType → String
  | text => "text"
  | date => "date"
  | dateTime => "datetime-local"

def ChoiceOption.toJson (option : ChoiceOption) : Json :=
  .ofMembers [("value", .string option.value), ("selected", .bool option.selected)]

def FieldControl.toJson : FieldControl → Json
  | input type => .ofMembers [("control", .string "input"), ("input_type", .string type.name)]
  | choice multiple group options =>
    .ofMembers [("control", .string "choice"), ("multiple", .bool multiple), ("group", .string group),
      ("options", .array (options.map ChoiceOption.toJson))]
  | signaturePad => .ofMembers [("control", .string "signature_pad")]
  | unsupported kind => .ofMembers [("control", .string "unsupported"), ("kind", .string kind)]

def FieldView.toJson (view : FieldView) : Json :=
  .ofMembers [("scope", .string view.scope), ("field_id", .string view.fieldId), ("label", .string view.label),
    ("required", .bool view.required), ("value", .ofOption view.value), ("control", view.control.toJson)]

def RoleView.toJson (view : RoleView) : Json :=
  .ofMembers [("role_id", .string view.roleId), ("role_name", .string view.roleName),
    ("scope", .string view.scope), ("fields", .array (view.fields.map FieldView.toJson))]

def UploadView.toJson (view : UploadView) : Json :=
  .ofMembers [("field_id", .string view.fieldId), ("label", .string view.label),
    ("required", .bool view.required), ("attached", .ofOption (view.attached.map .string))]

def CellControl.toJson : CellControl → Json
  | checkbox checked => .ofMembers [("control", .string "checkbox"), ("checked", .bool checked)]
  | date => .ofMembers [("control", .string "date")]
  | display multiline => .ofMembers [("control", .string "display"), ("multiline", .bool multiline)]

def CellView.toJson (view : CellView) : Json :=
  .ofMembers [("row_index", .ofNat view.row), ("column_id", .string view.columnId),
    ("value", .ofOption view.value), ("enabled", .bool view.enabled), ("read_only", .bool view.readOnly),
    ("control", view.control.toJson)]

def RowView.toJson (view : RowView) : Json :=
  .ofMembers [("row_index", .ofNat view.row), ("cells", .array (view.cells.map CellView.toJson))]

def ColumnHeader.toJson (header : ColumnHeader) : Json :=
  .ofMembers [("column_id", .string header.columnId), ("label", .string header.label),
    ("kind", .string header.kind)]

def TableView.toJson (view : TableView) : Json :=
  .ofMembers [("sub_section_id", .string view.subSectionId), ("heading", .string view.heading),
    ("columns", .array (view.columns.map ColumnHeader.toJson)), ("rows", .array (view.rows.map RowView.toJson))]

/-- The members that tell a kind of section from the others. -/
def SectionViewBody.members : SectionViewBody → List (String × Json)
  | fieldset fields => [("type", .string "fieldset"), ("fields", .array (fields.map FieldView.toJson))]
  | tableGroup tables => [("type", .string "table_group"), ("tables", .array (tables.map TableView.toJson))]
  | infoList items => [("type", .string "info_list"), ("items", .ofStrings items)]
  | signatureGroup roles => [("type", .string "signature_group"), ("roles", .array (roles.map RoleView.toJson))]
  | fileUploadGroup uploads =>
    [("type", .string "file_upload_group"), ("uploads", .array (uploads.map UploadView.toJson))]
  | unsupported kind => [("type", .string "unsupported"), ("kind", .string kind)]

def SectionView.toJson (view : SectionView) : Json :=
  .ofMembers (("section_id", .string view.sectionId) :: ("title", .string view.title) :: view.body.members)

/-- A rendered form under its id and title. -/
def Schema.renderJson (schema : Schema) (answers : Answers) : Json :=
  .ofMembers [("formId", .string schema.formIdOrUnknown), ("formTitle", .string schema.titleOrDefault),
    ("sections", .array ((schema.render answers).map SectionView.toJson))]

end InspectionForms
