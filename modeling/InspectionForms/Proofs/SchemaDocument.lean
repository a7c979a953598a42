import InspectionForms.Proofs.JsonTree
import InspectionForms.Schema.Reader

namespace InspectionForms

/-- An object of those members that are present. -/
def Json.ofPresent (members : List (String × Option Json)) : Json :=
  .ofMembers (members.filterMap fun m => m.2.map fun value => (m.1, value))

def FieldKind.options? : FieldKind → Option (List String)
  | checkboxGroup options => some options
  | radio options => some options
  | _ => none

def Field.toJson (field : Field) : Json := .ofPresent [
  ("fieldId", some (.string field.id)),
  ("label", some (.string field.label)),
  ("required", some (.bool field.required)),
  ("type", some (.string field.kind.name)),
  ("options", field.kind.options?.map .ofStrings)]

def Role.toJson (role : Role) : Json := .ofPresent [
  ("roleId", some (.string role.id)),
  ("roleName", some (.string role.name)),
  ("fields", some (.array (role.fields.map Field.toJson)))]

def UploadSlot.toJson (slot : UploadSlot) : Json := .ofPresent [
  ("fieldId", some (.string slot.id)),
  ("label", some (.string slot.label)),
  ("required", some (.bool slot.required))]

def ColumnKind.typeName? : ColumnKind → Option String
  | plain name => name
  | kind => some kind.name

def Column.toJson (column : Column) : Json := .ofPresent [
  ("columnId", some (.string column.id)),
  ("label", some (.string column.label)),
  ("type", column.kind.typeName?.map .string),
  ("editable", some (.bool column.editable)),
  ("visibleIf", column.visibleIf.map .string)]

def SubSection.toJson (sub : SubSection) : Json := .ofPresent [
  ("subSectionId", some (.string sub.id)),
  ("subSectionTitle", some (.string sub.title)),
  ("columns", some (.array (sub.columns.map Column.toJson))),
  ("rows", some (.array (sub.rows.map .ofMap)))]

/-- The member of a section under which its contents stand. -/
def SectionBody.contents : SectionBody → List (String × Option Json)
  | fieldset fields => [("fields", some (.array (fields.map Field.toJson)))]
  | tableGroup subSections => [("sub_sections", some (.array (subSections.map SubSection.toJson)))]
  | infoList items => [("items", some (.ofStrings items))]
  | signatureGroup roles => [("roles", some (.array (roles.map Role.toJson)))]
  | fileUploadGroup slots => [("upload_fields", some (.array (slots.map UploadSlot.toJson)))]
  | unsupported _ => []

def Section.toJson (s : Section) : Json := .ofPresent ([
  ("sectionId", some (.string s.id)),
  ("sectionTitle", some (.string s.title)),
  ("type", some (.string s.body.name))] ++ s.body.contents)

def Schema.toJson (schema : Schema) : Json := .ofPresent [
  ("formId", schema.formId.map .string),
  ("formTitle", schema.formTitle.map .string),
  ("sections", some (.array (schema.sections.map Section.toJson)))]

/-- An unsupported kind does not have the name of a kind that is supported. -/
def FieldKind.WellFormed : FieldKind → Prop
  | unsupported name => name ∉ ["text", "date", "datetime", "checkbox_group", "radio", "signature_pad"]
  | _ => True

/-- A column for display is not named like the other ones, and a condition names a column. -/
structure Column.WellFormed (column : Column) : Prop where
  kind : ∀ name, column.kind = .plain (some name) → name ∉ ["checkbox", "date", "textarea"]
  visibleIf : ∀ id, column.visibleIf = some id → isBlankText id = false

def SectionBody.WellFormed : SectionBody → Prop
  | fieldset fields => ∀ field ∈ fields, field.kind.WellFormed
  | tableGroup subSections => ∀ sub ∈ subSections, ∀ column ∈ sub.columns, column.WellFormed
  | infoList _ => True
  | signatureGroup roles => ∀ role ∈ roles, ∀ field ∈ role.fields, field.kind.WellFormed
  | fileUploadGroup _ => True
  | unsupported name =>
    name ∉ ["fieldset", "table_group", "info_list", "signature_group", "file_upload_group"]

def Schema.WellFormed (schema : Schema) : Prop := ∀ s ∈ schema.sections, s.body.WellFormed

namespace Json

variable {members : List (String × Option Json)}

theorem nodup_present (distinct : (members.map Prod.fst).Nodup) :
    ((members.filterMap fun m => m.2.map fun value => (m.1, value)).map Prod.fst).Nodup := by
  rw [List.Nodup, List.pairwise_map] at distinct ⊢
  rw [List.pairwise_filterMap]
  refine distinct.imp fun {m n} differ a ofM b ofN => ?_
  obtain ⟨_, _, rfl⟩ := Option.map_eq_some_iff.mp ofM
  obtain ⟨_, _, rfl⟩ := Option.map_eq_some_iff.mp ofN
  exact differ

/-- What is said of a member is found under its name. -/
theorem member?_ofPresent (distinct : (members.map Prod.fst).Nodup) {name : String} {value : Option Json}
    (said : (name, value) ∈ members) : (ofPresent members).member? name = value := by
  refine (SortedMap.get?_ofList (nodup_present distinct) name).trans ?_
  induction members with
  | nil => cases said
  | cons m members ih =>
    obtain ⟨key, other⟩ := m
    obtain ⟨fresh, others⟩ := List.nodup_cons.mp distinct
    rw [List.filterMap_cons]
    rcases List.mem_cons.mp said with first | later
    · obtain ⟨rfl, rfl⟩ := Prod.mk.inj first
      cases value with
      | none =>
        refine lookupEntry_eq_none_iff.mpr fun inside => fresh ?_
        obtain ⟨e, present, rfl⟩ := List.mem_map.mp inside
        obtain ⟨m, member, found⟩ := List.mem_filterMap.mp present
        obtain ⟨_, _, rfl⟩ := Option.map_eq_some_iff.mp found
        exact List.mem_map.mpr ⟨m, member, rfl⟩
      | some value => simp [lookupEntry_cons]
    · have differ : name ≠ key := fun same => fresh (List.mem_map.mpr ⟨_, later, same⟩)
      cases other with
      | none => exact ih others later
      | some other => simpa [lookupEntry_cons, differ] using ih others later

variable {json : Json} {name : String}

theorem memberText?_of_text {text : Option String} (h : json.member? name = text.map .string) :
    json.memberText? name = text := by
  rw [memberText?, h]
  cases text <;> rfl

theorem memberText_of_text {text : String} (h : json.member? name = some (.string text)) :
    json.memberText name = text := by
  have present : json.memberText? name = some text := memberText?_of_text h
  rw [memberText, present, Option.getD_some]

theorem memberFlag?_of_flag {flag : Bool} (h : json.member? name = some (.bool flag)) :
    json.memberFlag? name = some flag := by
  rw [memberFlag?, h]

theorem memberItems_of_array {items : List Json} (h : json.member? name = some (.array items)) :
    json.memberItems name = items := by
  rw [memberItems, h]

theorem memberTexts_of_texts {texts : Option (List String)} (h : json.member? name = texts.map .ofStrings) :
    json.memberTexts name = texts.getD [] := by
  rw [memberTexts, memberItems, h]
  cases texts with
  | none => rfl
  | some texts =>
    show (texts.map Json.string).filterMap scalarText? = texts
    rw [List.filterMap_map]
    exact List.filterMap_some

end Json

/-- Things that are each read as themselves where they have been written are read as themselves together. -/
theorem map_read_map_write {α : Type} {write : α → Json} {read : Json → α} {xs : List α}
    (h : ∀ x ∈ xs, read (write x) = x) : (xs.map write).map read = xs := by
  rw [List.map_map]
  exact (List.map_congr_left h).trans (List.map_id _)

theorem FieldKind.ofJson_eq {json : Json} {kind : FieldKind} (wellFormed : kind.WellFormed)
    (type : json.memberText "type" = kind.name) (options : json.memberTexts "options" = kind.options) :
    FieldKind.ofJson json = kind := by
  unfold FieldKind.ofJson
  rw [type, options]
  cases kind with
  | unsupported name =>
    simp only [WellFormed, List.mem_cons, List.not_mem_nil, or_false, not_or] at wellFormed
    simp only [FieldKind.name]
    split <;> simp_all
  | _ => rfl

theorem FieldKind.options_eq (kind : FieldKind) : kind.options = kind.options?.getD [] := by cases kind <;> rfl

theorem Field.ofJson_toJson {field : Field} (wellFormed : field.kind.WellFormed) :
    Field.ofJson field.toJson = field := by
  have said {name : String} {value : Option Json} : _ → field.toJson.member? name = value :=
    Json.member?_ofPresent (by simp)
  have id : field.toJson.memberText "fieldId" = field.id := Json.memberText_of_text (said (by simp))
  have label : field.toJson.memberText "label" = field.label := Json.memberText_of_text (said (by simp))
  have required : field.toJson.memberFlag? "required" = some field.required :=
    Json.memberFlag?_of_flag (said (by simp))
  have type : field.toJson.memberText "type" = field.kind.name := Json.memberText_of_text (said (by simp))
  have options : field.toJson.memberTexts "options" = field.kind.options := by
    rw [field.kind.options_eq]
    exact Json.memberTexts_of_texts (said (by simp))
  rw [Field.ofJson, id, label, required, FieldKind.ofJson_eq wellFormed type options]
  rfl

theorem Role.ofJson_toJson {role : Role} (wellFormed : ∀ field ∈ role.fields, field.kind.WellFormed) :
    Role.ofJson role.toJson = role := by
  have said {name : String} {value : Option Json} : _ → role.toJson.member? name = value :=
    Json.member?_ofPresent (by simp)
  have id : role.toJson.memberText "roleId" = role.id := Json.memberText_of_text (said (by simp))
  have name : role.toJson.memberText "roleName" = role.name := Json.memberText_of_text (said (by simp))
  have fields : role.toJson.memberItems "fields" = role.fields.map Field.toJson :=
    Json.memberItems_of_array (said (by simp))
  rw [Role.ofJson, id, name, fields,
    map_read_map_write fun field member => Field.ofJson_toJson (wellFormed field member)]

theorem UploadSlot.ofJson_toJson (slot : UploadSlot) : UploadSlot.ofJson slot.toJson = slot := by
  have said {name : String} {value : Option Json} : _ → slot.toJson.member? name = value :=
    Json.member?_ofPresent (by simp)
  have id : slot.toJson.memberText "fieldId" = slot.id := Json.memberText_of_text (said (by simp))
  have label : slot.toJson.memberText "label" = slot.label := Json.memberText_of_text (said (by simp))
  have required : slot.toJson.memberFlag? "required" = some slot.required :=
    Json.memberFlag?_of_flag (said (by simp))
  rw [UploadSlot.ofJson, id, label, required]
  rfl

theorem ColumnKind.ofName?_typeName? {kind : ColumnKind}
    (plain : ∀ name, kind = .plain (some name) → name ∉ ["checkbox", "date", "textarea"]) :
    ColumnKind.ofName? kind.typeName? = kind := by
  cases kind with
  | plain name =>
    cases name with
    | none => rfl
    | some name =>
      have other := plain name rfl
      simp only [List.mem_cons, List.not_mem_nil, or_false, not_or] at other
      simp only [ColumnKind.typeName?, ColumnKind.ofName?]
      split <;> simp_all
  | _ => rfl

theorem Column.ofJson_toJson {column : Column} (wellFormed : column.WellFormed) :
    Column.ofJson column.toJson = column := by
  have said {name : String} {value : Option Json} : _ → column.toJson.member? name = value :=
    Json.member?_ofPresent (by simp)
  have id : column.toJson.memberText "columnId" = column.id := Json.memberText_of_text (said (by simp))
  have label : column.toJson.memberText "label" = column.label := Json.memberText_of_text (said (by simp))
  have type : column.toJson.memberText? "type" = column.kind.typeName? := Json.memberText?_of_text (said (by simp))
  have editable : column.toJson.memberFlag? "editable" = some column.editable :=
    Json.memberFlag?_of_flag (said (by simp))
  have visibleIf : column.toJson.memberText? "visibleIf" = column.visibleIf :=
    Json.memberText?_of_text (said (by simp))
  have condition : (column.visibleIf.filter fun id => !isBlankText id) = column.visibleIf := by
    cases named : column.visibleIf with
    | none => rfl
    | some id => simp [Option.filter, wellFormed.visibleIf id named]
  rw [Column.ofJson, id, label, type, editable, visibleIf, condition, ColumnKind.ofName?_typeName? wellFormed.kind]
  rfl

theorem rowOfJson_ofMap (defaults : SortedMap String Json) : rowOfJson (.ofMap defaults) = defaults :=
  SortedMap.ofList_entries defaults

theorem SubSection.ofJson_toJson {sub : SubSection} (wellFormed : ∀ column ∈ sub.columns, column.WellFormed) :
    SubSection.ofJson sub.toJson = sub := by
  have said {name : String} {value : Option Json} : _ → sub.toJson.member? name = value :=
    Json.member?_ofPresent (by simp)
  have id : sub.toJson.memberText "subSectionId" = sub.id := Json.memberText_of_text (said (by simp))
  have title : sub.toJson.memberText "subSectionTitle" = sub.title := Json.memberText_of_text (said (by simp))
  have columns : sub.toJson.memberItems "columns" = sub.columns.map Column.toJson :=
    Json.memberItems_of_array (said (by simp))
  have rows : sub.toJson.memberItems "rows" = sub.rows.map .ofMap := Json.memberItems_of_array (said (by simp))
  rw [SubSection.ofJson, id, title, columns, rows,
    map_read_map_write fun column member => Column.ofJson_toJson (wellFormed column member),
    map_read_map_write fun row _ => rowOfJson_ofMap row]

theorem SectionBody.ofJson_eq {json : Json} {body : SectionBody} (wellFormed : body.WellFormed)
    (type : json.memberText "type" = body.name) (contents : ∀ m ∈ body.contents, json.member? m.1 = m.2) :
    SectionBody.ofJson json = body := by
  unfold SectionBody.ofJson
  rw [type]
  cases body with
  | fieldset fields =>
    have items : json.memberItems "fields" = fields.map Field.toJson :=
      Json.memberItems_of_array (contents _ List.mem_cons_self)
    rw [items, map_read_map_write fun field member => Field.ofJson_toJson (wellFormed field member)]
    rfl
  | tableGroup subSections =>
    have items : json.memberItems "sub_sections" = subSections.map SubSection.toJson :=
      Json.memberItems_of_array (contents _ List.mem_cons_self)
    rw [items, map_read_map_write fun sub member => SubSection.ofJson_toJson (wellFormed sub member)]
    rfl
  | infoList items =>
    have present : json.member? "items" = (some items).map .ofStrings := contents _ List.mem_cons_self
    have texts : json.memberTexts "items" = items := Json.memberTexts_of_texts present
    rw [texts]
    rfl
  | signatureGroup roles =>
    have items : json.memberItems "roles" = roles.map Role.toJson :=
      Json.memberItems_of_array (contents _ List.mem_cons_self)
    rw [items, map_read_map_write fun role member => Role.ofJson_toJson (wellFormed role member)]
    rfl
  | fileUploadGroup slots =>
    have items : json.memberItems "upload_fields" = slots.map UploadSlot.toJson :=
      Json.memberItems_of_array (contents _ List.mem_cons_self)
    rw [items, map_read_map_write fun slot _ => slot.ofJson_toJson]
    rfl
  | unsupported name =>
    simp only [WellFormed, List.mem_cons, List.not_mem_nil, or_false, not_or] at wellFormed
    simp only [SectionBody.name]
    split <;> simp_all

theorem Section.ofJson_toJson {s : Section} (wellFormed : s.body.WellFormed) : Section.ofJson s.toJson = s := by
  have said {name : String} {value : Option Json} : _ → s.toJson.member? name = value :=
    Json.member?_ofPresent (by cases s.body <;> simp [SectionBody.contents])
  have id : s.toJson.memberText "sectionId" = s.id := Json.memberText_of_text (said (by simp))
  have title : s.toJson.memberText "sectionTitle" = s.title := Json.memberText_of_text (said (by simp))
  have type : s.toJson.memberText "type" = s.body.name := Json.memberText_of_text (said (by simp))
  have contents : ∀ m ∈ s.body.contents, s.toJson.member? m.1 = m.2 :=
    fun m member => said (List.mem_append_right _ member)
  rw [Section.ofJson, id, title, SectionBody.ofJson_eq wellFormed type contents]

namespace Schema

variable {schema : Schema}

theorem ofJson_toJson (wellFormed : schema.WellFormed) : Schema.ofJson schema.toJson = .ok schema := by
  have said {name : String} {value : Option Json} : _ → schema.toJson.member? name = value :=
    Json.member?_ofPresent (by simp)
  have formId : schema.toJson.memberText? "formId" = schema.formId := Json.memberText?_of_text (said (by simp))
  have title : schema.toJson.memberText? "formTitle" = schema.formTitle := Json.memberText?_of_text (said (by simp))
  have sections : schema.toJson.memberItems "sections" = schema.sections.map Section.toJson :=
    Json.memberItems_of_array (said (by simp))
  have read : Schema.ofJson schema.toJson = .ok {
      formId := schema.toJson.memberText? "formId"
      formTitle := schema.toJson.memberText? "formTitle"
      sections := (schema.toJson.memberItems "sections").map Section.ofJson } := rfl
  rw [read, formId, title, sections, map_read_map_write fun s member => Section.ofJson_toJson (wellFormed s member)]

end Schema

theorem FieldKind.wellFormed_ofJson (json : Json) : (FieldKind.ofJson json).WellFormed := by
  unfold FieldKind.ofJson
  split <;> simp_all [WellFormed]

theorem Field.wellFormed_of_mem {items : List Json} {field : Field} (member : field ∈ items.map Field.ofJson) :
    field.kind.WellFormed := by
  obtain ⟨json, _, rfl⟩ := List.mem_map.mp member
  exact FieldKind.wellFormed_ofJson json

theorem Column.wellFormed_ofJson (json : Json) : (Column.ofJson json).WellFormed := by
  constructor
  · intro name plain
    simp only [Column.ofJson] at plain
    unfold ColumnKind.ofName? at plain
    split at plain <;> simp_all
  · intro id named
    simpa using (Option.filter_eq_some_iff.mp named).2

theorem SectionBody.wellFormed_ofJson (json : Json) : (SectionBody.ofJson json).WellFormed := by
  unfold SectionBody.ofJson
  split
  · exact fun field member => Field.wellFormed_of_mem member
  · intro sub member column inColumns
    obtain ⟨subJson, _, rfl⟩ := List.mem_map.mp member
    obtain ⟨columnJson, _, rfl⟩ := List.mem_map.mp inColumns
    exact Column.wellFormed_ofJson columnJson
  · trivial
  · intro role member field inFields
    obtain ⟨roleJson, _, rfl⟩ := List.mem_map.mp member
    exact Field.wellFormed_of_mem inFields
  · trivial
  · simp_all [WellFormed]

theorem Schema.wellFormed_of_ofJson {json : Json} {schema : Schema} (read : Schema.ofJson json = .ok schema) :
    schema.WellFormed := by
  unfold Schema.ofJson at read
  split at read
  · obtain rfl := Except.ok.inj read
    intro s member
    obtain ⟨sectionJson, _, rfl⟩ := List.mem_map.mp member
    exact SectionBody.wellFormed_ofJson sectionJson
  · cases read

/-- The values in the rows of a section are in normal form. -/
def SectionBody.HasNormalRows : SectionBody → Prop
  | tableGroup subSections =>
    ∀ sub ∈ subSections, ∀ row ∈ sub.rows, ∀ name value, row.get? name = some value → value.IsNormal
  | _ => True

namespace Json

theorem isNormal_ofPresent {members : List (String × Option Json)}
    (h : ∀ m ∈ members, ∀ value ∈ m.2, value.IsNormal) : (ofPresent members).IsNormal := by
  refine isNormal_ofMap fun name value found => ?_
  rcases SortedMap.mem_insertMany ((SortedMap.get?_eq_some_iff _).mp found) with said | old
  · obtain ⟨m, member, present⟩ := List.mem_filterMap.mp said
    obtain ⟨value, isValue, same⟩ := Option.map_eq_some_iff.mp present
    obtain ⟨rfl, rfl⟩ := Prod.mk.inj same
    exact h m member value isValue
  · cases old

theorem isNormal_map {α : Type} {write : α → Json} {xs : List α} (h : ∀ x ∈ xs, (write x).IsNormal) :
    (Json.array (xs.map write)).IsNormal := by
  refine isNormal_array_iff.mpr fun item member => ?_
  obtain ⟨x, inList, rfl⟩ := List.mem_map.mp member
  exact h x inList

@[simp]
theorem isNormal_string (text : String) : (Json.string text).IsNormal := rfl

@[simp]
theorem isNormal_bool (value : Bool) : (Json.bool value).IsNormal := rfl

theorem isNormal_ofStrings (texts : List String) : (ofStrings texts).IsNormal :=
  isNormal_map fun text _ => isNormal_string text

theorem isNormal_memberItems {json : Json} (isNormal : json.IsNormal) (name : String) {item : Json}
    (member : item ∈ json.memberItems name) : item.IsNormal := by
  unfold memberItems at member
  split at member
  · next items found =>
    cases json with
    | object members =>
      have inMembers := mem_of_lookupEntry found
      exact isNormal_array_iff.mp ((isNormal_object_iff.mp isNormal).2 _ inMembers) item member
    | _ => cases found
  · cases member

end Json

theorem Field.isNormal_toJson (field : Field) : field.toJson.IsNormal := by
  refine Json.isNormal_ofPresent ?_
  simp [Json.isNormal_ofStrings]

theorem Role.isNormal_toJson (role : Role) : role.toJson.IsNormal := by
  refine Json.isNormal_ofPresent ?_
  simp [Json.isNormal_map fun field _ => Field.isNormal_toJson field]

theorem UploadSlot.isNormal_toJson (slot : UploadSlot) : slot.toJson.IsNormal := by
  refine Json.isNormal_ofPresent ?_
  simp

theorem Column.isNormal_toJson (column : Column) : column.toJson.IsNormal := by
  refine Json.isNormal_ofPresent ?_
  simp

theorem SubSection.isNormal_toJson {sub : SubSection}
    (normalRows : ∀ row ∈ sub.rows, ∀ name value, row.get? name = some value → value.IsNormal) :
    sub.toJson.IsNormal := by
  refine Json.isNormal_ofPresent ?_
  simp [Json.isNormal_map fun column _ => Column.isNormal_toJson column,
    Json.isNormal_map fun row member => Json.isNormal_ofMap (normalRows row member)]

theorem SectionBody.isNormal_contents {body : SectionBody} (normalRows : body.HasNormalRows) :
    ∀ m ∈ body.contents, ∀ value ∈ m.2, value.IsNormal := by
  cases body with
  | fieldset => simp [contents, Json.isNormal_map fun field _ => Field.isNormal_toJson field]
  | tableGroup =>
    simp [contents, Json.isNormal_map fun sub member => SubSection.isNormal_toJson (normalRows sub member)]
  | infoList => simp [contents, Json.isNormal_ofStrings]
  | signatureGroup => simp [contents, Json.isNormal_map fun role _ => Role.isNormal_toJson role]
  | fileUploadGroup => simp [contents, Json.isNormal_map fun slot _ => UploadSlot.isNormal_toJson slot]
  | unsupported => simp [contents]

theorem Section.isNormal_toJson {s : Section} (normalRows : s.body.HasNormalRows) : s.toJson.IsNormal :=
  Json.isNormal_ofPresent (List.forall_mem_append.mpr ⟨by simp, SectionBody.isNormal_contents normalRows⟩)

theorem rowOfJson_isNormal {json : Json} (isNormal : json.IsNormal) {name : String} {value : Json}
    (found : (rowOfJson json).get? name = some value) : value.IsNormal := by
  cases json with
  | object members =>
    rcases SortedMap.mem_insertMany ((SortedMap.get?_eq_some_iff _).mp found) with member | old
    · exact (Json.isNormal_object_iff.mp isNormal).2 _ member
    · cases old
  | _ => cases found

theorem SectionBody.hasNormalRows_ofJson {json : Json} (isNormal : json.IsNormal) :
    (SectionBody.ofJson json).HasNormalRows := by
  unfold SectionBody.ofJson
  split
  case h_2 =>
    intro sub member row inRows name value found
    obtain ⟨subJson, inItems, rfl⟩ := List.mem_map.mp member
    obtain ⟨rowJson, inRowItems, rfl⟩ := List.mem_map.mp inRows
    have subNormal := Json.isNormal_memberItems isNormal _ inItems
    exact rowOfJson_isNormal (Json.isNormal_memberItems subNormal _ inRowItems) found
  all_goals trivial

namespace Schema

variable {schema : Schema} {json : Json}

theorem isNormal_toJson (normalRows : ∀ s ∈ schema.sections, s.body.HasNormalRows) : schema.toJson.IsNormal := by
  refine Json.isNormal_ofPresent ?_
  simp [Json.isNormal_map fun s member => Section.isNormal_toJson (normalRows s member)]

theorem isNormal_toJson_of_ofJson (isNormal : json.IsNormal) (read : Schema.ofJson json = .ok schema) :
    schema.toJson.IsNormal := by
  refine isNormal_toJson fun s member => ?_
  unfold Schema.ofJson at read
  split at read
  · obtain rfl := Except.ok.inj read
    obtain ⟨sectionJson, inItems, rfl⟩ := List.mem_map.mp member
    exact SectionBody.hasNormalRows_ofJson (Json.isNormal_memberItems isNormal _ inItems)
  · cases read

/-- Forms are read from documents exactly if they are well formed, and then also from their own document. Writing a
form that has been read and reading it again changes nothing. -/
theorem document_readBack :
    (∀ (json : Json) (schema : Schema), Schema.ofJson json = .ok schema → schema.WellFormed) ∧
    (∀ schema : Schema, schema.WellFormed → Schema.ofJson schema.toJson = .ok schema) ∧
    ∀ (json : Json) (schema : Schema), Schema.ofJson json = .ok schema →
      Schema.ofJson schema.toJson = .ok schema ∧ (json.IsNormal → schema.toJson.IsNormal) :=
  ⟨fun _ _ read => wellFormed_of_ofJson read, fun _ wellFormed => ofJson_toJson wellFormed, fun _ _ read =>
    ⟨ofJson_toJson (wellFormed_of_ofJson read), fun isNormal => isNormal_toJson_of_ofJson isNormal read⟩⟩

/-- A form id that is a number, a blank condition, a row that is no object, and sections of unknown kinds. -/
def lenientDocument : Json := .object [
  ("formId", .ofNat 7),
  ("sections", .array [
    .object [
      ("sectionId", .string "T"),
      ("sub_sections", .array [.object [
        ("columns", .array [.object [("columnId", .string "c"), ("type", .string "memo"), ("visibleIf", .string " ")]]),
        ("rows", .array [.null, .object [("c", .bool true)]]),
        ("subSectionId", .string "a")]]),
      ("type", .string "table_group")],
    .object [("sectionId", .string "M"), ("type", .string "map")],
    .null])]

def lenientForm : Schema where
  formId := some "7"
  formTitle := none
  sections := [
    ⟨"T", "", .tableGroup [⟨"a", "", [⟨"c", "", .plain (some "memo"), true, none⟩], [∅, .ofList [("c", .bool true)]]⟩]⟩,
    ⟨"M", "", .unsupported "map"⟩,
    ⟨"", "", .unsupported ""⟩]

theorem document_readBack_lenient :
    Schema.ofJson lenientDocument = .ok lenientForm ∧ Schema.ofJson lenientForm.toJson = .ok lenientForm ∧
      lenientForm.toJson.IsNormal ∧
      ∀ json, Schema.ofJson json ≠ .ok ⟨none, none, [⟨"S", "", .unsupported "fieldset"⟩]⟩ := by
  obtain ⟨wellFormed, -, again⟩ := document_readBack
  have read : Schema.ofJson lenientDocument = .ok lenientForm := by rfl
  obtain ⟨same, isNormal⟩ := again _ _ read
  refine ⟨read, same, isNormal rfl, fun json clash => ?_⟩
  have body := wellFormed _ _ clash _ List.mem_cons_self
  simp [SectionBody.WellFormed] at body

end Schema

end InspectionForms
