import InspectionForms.Json.Reader
import InspectionForms.Session
import InspectionForms.Text.Blank

namespace InspectionForms

/-- One step of filling a form. -/
inductive Edit
  | field (sectionId fieldId : String) (value : Json)
  | cell (sectionId subSectionId : String) (row : Nat) (columnId : String) (value : Json)
  | attach (sectionId fieldId fileName : String)

inductive EditKind
  | field
  | cell
  | attach
  deriving DecidableEq, Repr

namespace EditKind

def all : List EditKind := [field, cell, attach]

def name : EditKind → String
  | field => "field"
  | cell => "cell"
  | attach => "attach"

def ofName? (name : String) : Option EditKind := all.find? fun kind => kind.name == name

def memberNames : EditKind → List String
  | field => ["section", "field", "value"]
  | cell => ["section", "sub_section", "row", "column", "value"]
  | attach => ["section", "field", "file_name"]

end EditKind

/-- The value of a member that comes exactly once. -/
def uniqueMember? (members : List (String × Json)) (name : String) : Option Json :=
  match members.filter fun member => member.1 == name with
  | [(_, value)] => some value
  | _ => none

namespace Edit

/-- An edit from the values of its members, in order. A row is a whole number that is written as one. -/
def ofParts? : EditKind → List Json → Option Edit
  | .field, [.string sectionId, .string fieldId, value] => some (field sectionId fieldId value.normal)
  | .cell, [.string sectionId, .string subSectionId, .number row, .string columnId, value] =>
    row.toNat?.map fun row => cell sectionId subSectionId row columnId value.normal
  | .attach, [.string sectionId, .string fieldId, .string fileName] =>
    some (attach sectionId fieldId fileName)
  | _, _ => none

/-- Reads an edit as it is written, either as an object in which `op` names the kind, or as a list that
begins with the kind. Members that the kind does not know are passed over, repeated or not. -/
def ofJson? : Json → Option Edit
  | .object members => do
    let .string name ← uniqueMember? members "op" | none
    let kind ← EditKind.ofName? name
    let parts ← kind.memberNames.mapM (uniqueMember? members)
    ofParts? kind parts
  | .array (.string name :: parts) => do
    let kind ← EditKind.ofName? name
    ofParts? kind parts
  | _ => none

/-- Reads a script: a blank text, which has no edits, or a JSON list of edits. -/
def readScript? (text : String) : Option (List Edit) :=
  if isBlankText text then some []
  else match Json.ofText? Json.nestingLimit text with
    | some (.array items) => items.mapM ofJson?
    | _ => none

end Edit

namespace Session

def applyEdit (session : Session) : Edit → Session
  | .field sectionId fieldId value => session.setField sectionId fieldId value
  | .cell sectionId subSectionId row columnId value =>
    session.setCell sectionId subSectionId row columnId value
  | .attach sectionId fieldId fileName => session.attach sectionId fieldId fileName

def applyEdits (session : Session) (edits : List Edit) : Session := edits.foldl applyEdit session

end Session

end InspectionForms
