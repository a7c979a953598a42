import InspectionForms.Json.Fault
import InspectionForms.Schema.Basic
import InspectionForms.Text.Blank

namespace InspectionForms

namespace Json

/-- A text, or a number as its text. -/
def scalarText? : Json → Option String
  | .string value => some value
  | .number value => some (String.ofList value.text)
  | _ => none

def memberText? (json : Json) (name : String) : Option String := (json.member? name).bind scalarText?

def memberText (json : Json) (name : String) : String := (json.memberText? name).getD ""

def memberFlag? (json : Json) (name : String) : Option Bool :=
  match json.member? name with
  | some (.bool value) => some value
  | _ => none

def memberItems (json : Json) (name : String) : List Json :=
  match json.member? name with
  | some (.array items) => items
  | _ => []

def memberTexts (json : Json) (name : String) : List String := (json.memberItems name).filterMap scalarText?

end Json

inductive SchemaError
  | notJson (schemaText : String)
  | rootNotObject
  deriving DecidableEq, Repr

def SchemaError.message : SchemaError → String
  | notJson schemaText => "schema is not valid JSON: " ++ jsonFaultText schemaText
  | rootNotObject => "schema root must be a JSON object"

def FieldKind.ofJson (json : Json) : FieldKind :=
  match json.memberText "type" with
  | "text" => text
  | "date" => date
  | "datetime" => dateTime
  | "checkbox_group" => checkboxGroup (json.memberTexts "options")
  | "radio" => radio (json.memberTexts "options")
  | "signature_pad" => signaturePad
  | other => unsupported other

def Field.ofJson (json : Json) : Field where
  id := json.memberText "fieldId"
  label := json.memberText "label"
  required := (json.memberFlag? "required").getD false
  kind := FieldKind.ofJson json

def Role.ofJson (json : Json) : Role where
  id := json.memberText "roleId"
  name := json.memberText "roleName"
  fields := (json.memberItems "fields").map Field.ofJson

def UploadSlot.ofJson (json : Json) : UploadSlot where
  id := json.memberText "fieldId"
  label := json.memberText "label"
  required := (json.memberFlag? "required").getD false

def ColumnKind.ofName? : Option String → ColumnKind
  | some "checkbox" => checkbox
  | some "date" => date
  | some "textarea" => textarea
  | other => plain other

/-- A condition that names no column, being blank, is none. -/
def Column.ofJson (json : Json) : Column where
  id := json.memberText "columnId"
  label := json.memberText "label"
  kind := ColumnKind.ofName? (json.memberText? "type")
  editable := (json.memberFlag? "editable").getD true
  visibleIf := (json.memberText? "visibleIf").filter fun id => !isBlankText id

/-- The defaults of a row. What is no object still takes its place among the rows. -/
def rowOfJson : Json → SortedMap String Json
  | .object members => SortedMap.ofList members
  | _ => ∅

def SubSection.ofJson (json : Json) : SubSection where
  id := json.memberText "subSectionId"
  title := json.memberText "subSectionTitle"
  columns := (json.memberItems "columns").map Column.ofJson
  rows := (json.memberItems "rows").map rowOfJson

def SectionBody.ofJson (json : Json) : SectionBody :=
  match json.memberText "type" with
  | "fieldset" => fieldset ((json.memberItems "fields").map Field.ofJson)
  | "table_group" => tableGroup ((json.memberItems "sub_sections").map SubSection.ofJson)
  | "info_list" => infoList (json.memberTexts "items")
  | "signature_group" => signatureGroup ((json.memberItems "roles").map Role.ofJson)
  | "file_upload_group" => fileUploadGroup ((json.memberItems "upload_fields").map UploadSlot.ofJson)
  | other => unsupported other

def Section.ofJson (json : Json) : Section where
  id := json.memberText "sectionId"
  title := json.memberText "sectionTitle"
  body := SectionBody.ofJson json

/-- Only the root has to be an object. Below it whatever is missing or of a wrong type reads as empty, and
each entry of a list keeps its position. -/
def Schema.ofJson (json : Json) : Except SchemaError Schema :=
  match json with
  | .object _ => .ok {
      formId := json.memberText? "formId"
      formTitle := json.memberText? "formTitle"
      sections := (json.memberItems "sections").map Section.ofJson }
  | _ => .error .rootNotObject

def Schema.ofText (text : String) : Except SchemaError Schema :=
  match Json.parse? text with
  | some json => Schema.ofJson json
  | none => .error (.notJson text)

end InspectionForms
