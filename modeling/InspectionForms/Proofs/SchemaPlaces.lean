import InspectionForms.Proofs.SortedMapEntries
import InspectionForms.Schema.Reader
import Mathlib.Data.List.Forall2

namespace InspectionForms

/-- What a value of a document is read as. -/
inductive NodeKind
  | form
  | formSection
  | field
  | role
  | uploadSlot
  | subSection
  | column
  | row
  deriving DecidableEq

/-- A part of a form, or the form itself. -/
inductive Entry
  | form (schema : Schema)
  | formSection (s : Section)
  | field (field : Field)
  | role (role : Role)
  | uploadSlot (slot : UploadSlot)
  | subSection (sub : SubSection)
  | column (column : Column)
  | row (defaults : SortedMap String Json)

/-- Where a part stands: the names of lists and the positions in them, from the form on. -/
abbrev SchemaPath := List (String × Nat)

namespace NodeKind

def read (kind : NodeKind) (json : Json) : Entry :=
  match kind with
  | form => .form {
      formId := json.memberText? "formId"
      formTitle := json.memberText? "formTitle"
      sections := (json.memberItems "sections").map Section.ofJson }
  | formSection => .formSection (.ofJson json)
  | field => .field (.ofJson json)
  | role => .role (.ofJson json)
  | uploadSlot => .uploadSlot (.ofJson json)
  | subSection => .subSection (.ofJson json)
  | column => .column (.ofJson json)
  | row => .row (rowOfJson json)

/-- The lists of parts that are looked for in a value, and what stands in them. -/
def lists (kind : NodeKind) (json : Json) : List (String × NodeKind) :=
  match kind with
  | form => [("sections", formSection)]
  | formSection =>
    match json.memberText "type" with
    | "fieldset" => [("fields", field)]
    | "table_group" => [("sub_sections", subSection)]
    | "signature_group" => [("roles", role)]
    | "file_upload_group" => [("upload_fields", uploadSlot)]
    | _ => []
  | role => [("fields", field)]
  | subSection => [("columns", column), ("rows", row)]
  | field | uploadSlot | column | row => []

/-- The list of texts that is looked for in a value. -/
def textList? (kind : NodeKind) (json : Json) : Option String :=
  match kind, json.memberText "type" with
  | formSection, "info_list" => some "items"
  | field, "checkbox_group" | field, "radio" => some "options"
  | _, _ => none

/-- The other members that are looked for in a value. -/
def plainNames : NodeKind → List String
  | form => ["formId", "formTitle"]
  | formSection => ["sectionId", "sectionTitle", "type"]
  | field => ["fieldId", "label", "required", "type"]
  | role => ["roleId", "roleName"]
  | uploadSlot => ["fieldId", "label", "required"]
  | subSection => ["subSectionId", "subSectionTitle"]
  | column => ["columnId", "label", "type", "editable", "visibleIf"]
  | row => []

/-- What is read where no object stands. -/
def blank : NodeKind → Entry
  | form => .form ⟨none, none, []⟩
  | formSection => .formSection ⟨"", "", .unsupported ""⟩
  | field => .field ⟨"", "", false, .unsupported ""⟩
  | role => .role ⟨"", "", []⟩
  | uploadSlot => .uploadSlot ⟨"", "", false⟩
  | subSection => .subSection ⟨"", "", [], []⟩
  | column => .column ⟨"", "", .plain none, true, none⟩
  | row => .row ∅

end NodeKind

def SectionBody.lists : SectionBody → List (String × List Entry)
  | fieldset fields => [("fields", fields.map .field)]
  | tableGroup subSections => [("sub_sections", subSections.map .subSection)]
  | signatureGroup roles => [("roles", roles.map .role)]
  | fileUploadGroup slots => [("upload_fields", slots.map .uploadSlot)]
  | infoList _ | unsupported _ => []

/-- A body without the parts in it. -/
def SectionBody.own : SectionBody → SectionBody
  | fieldset _ => fieldset []
  | tableGroup _ => tableGroup []
  | signatureGroup _ => signatureGroup []
  | fileUploadGroup _ => fileUploadGroup []
  | body => body

theorem SectionBody.eq_of_own {a b : SectionBody} (own : a.own = b.own) (lists : a.lists = b.lists) : a = b := by
  cases a <;> cases b <;> simp_all [SectionBody.own, SectionBody.lists, List.map_inj_right]

theorem SectionBody.own_ofJson_congr {a b : Json} (type : a.memberText "type" = b.memberText "type")
    (items : a.memberText "type" = "info_list" → a.memberTexts "items" = b.memberTexts "items") :
    (SectionBody.ofJson a).own = (SectionBody.ofJson b).own := by
  unfold SectionBody.ofJson
  rw [← type]
  split <;> simp_all [SectionBody.own]

theorem FieldKind.ofJson_congr {a b : Json} (type : a.memberText "type" = b.memberText "type")
    (options : a.memberText "type" = "checkbox_group" ∨ a.memberText "type" = "radio" →
      a.memberTexts "options" = b.memberTexts "options") : FieldKind.ofJson a = FieldKind.ofJson b := by
  unfold FieldKind.ofJson
  rw [← type]
  split <;> simp_all

namespace Entry

/-- The parts of a part, list by list. -/
def lists : Entry → List (String × List Entry)
  | form schema => [("sections", schema.sections.map formSection)]
  | formSection s => s.body.lists
  | role r => [("fields", r.fields.map field)]
  | subSection sub => [("columns", sub.columns.map column), ("rows", sub.rows.map row)]
  | field _ | uploadSlot _ | column _ | row _ => []

/-- What a part says besides the parts in it. -/
def own : Entry → Entry
  | form schema => form { schema with sections := [] }
  | formSection s => formSection { s with body := s.body.own }
  | role r => role { r with fields := [] }
  | subSection sub => .subSection { sub with columns := [], rows := [] }
  | entry => entry

/-- The texts that stand in a list of a part. -/
def texts? : Entry → Option (List String)
  | formSection ⟨_, _, .infoList items⟩ => some items
  | field ⟨_, _, _, .checkboxGroup options⟩ => some options
  | field ⟨_, _, _, .radio options⟩ => some options
  | _ => none

/-- The part with other texts in its list of texts. -/
def withTexts (entry : Entry) (texts : List String) : Entry :=
  match entry with
  | formSection ⟨id, title, .infoList _⟩ => formSection ⟨id, title, .infoList texts⟩
  | field ⟨id, label, required, .checkboxGroup _⟩ => field ⟨id, label, required, .checkboxGroup texts⟩
  | field ⟨id, label, required, .radio _⟩ => field ⟨id, label, required, .radio texts⟩
  | entry => entry

/-- The part at a place below a part. -/
def at? : SchemaPath → Entry → Option Entry
  | [], entry => some entry
  | (name, i) :: place, entry => do
    let parts ← lookupEntry name entry.lists
    at? place (← parts[i]?)

/-- Two parts that say the same and have the same parts in them are the same. -/
theorem eq_of_own {a b : Entry} (own : a.own = b.own) (lists : a.lists = b.lists) : a = b := by
  cases a with
  | form schema =>
    cases b with
    | form other =>
      obtain ⟨formId, formTitle, sections⟩ := schema
      obtain ⟨otherId, otherTitle, others⟩ := other
      simp_all [Entry.own, Entry.lists, List.map_inj_right]
    | _ => cases own
  | formSection s =>
    cases b with
    | formSection other =>
      obtain ⟨id, title, body⟩ := s
      obtain ⟨otherId, otherTitle, other⟩ := other
      obtain ⟨rfl, rfl, ownBody⟩ := Section.mk.inj (formSection.inj own)
      obtain rfl : body = other := SectionBody.eq_of_own ownBody lists
      rfl
    | _ => cases own
  | role r =>
    cases b with
    | role other =>
      obtain ⟨id, name, fields⟩ := r
      obtain ⟨otherId, otherName, others⟩ := other
      simp_all [Entry.own, Entry.lists, List.map_inj_right]
    | _ => cases own
  | subSection sub =>
    cases b with
    | subSection other =>
      obtain ⟨id, title, columns, rows⟩ := sub
      obtain ⟨otherId, otherTitle, otherColumns, otherRows⟩ := other
      simp_all [Entry.own, Entry.lists, List.map_inj_right]
    | _ => cases own
  | field | uploadSlot | column | row => cases b <;> simp_all [Entry.own]

end Entry

namespace Json

variable {a b : Json} {name : String} (same : a.member? name = b.member? name)
include same

theorem memberText?_congr : a.memberText? name = b.memberText? name := by rw [memberText?, memberText?, same]

theorem memberText_congr : a.memberText name = b.memberText name := by
  rw [memberText, memberText, memberText?_congr same]

theorem memberFlag?_congr : a.memberFlag? name = b.memberFlag? name := by rw [memberFlag?, memberFlag?, same]

theorem memberItems_congr : a.memberItems name = b.memberItems name := by rw [memberItems, memberItems, same]

theorem memberTexts_congr : a.memberTexts name = b.memberTexts name := by
  rw [memberTexts, memberTexts, memberItems_congr same]

end Json

namespace NodeKind

variable {kind : NodeKind} {json : Json}

/-- The value of a document from which a part at a place is read. -/
def element? : SchemaPath → NodeKind → Json → Option (NodeKind × Json)
  | [], kind, json => some (kind, json)
  | (name, i) :: place, kind, json => do
    let item ← lookupEntry name (kind.lists json)
    element? place item (← (json.memberItems name)[i]?)

/-- The parts of what is read are read from the elements of lists, one part from each element. -/
theorem lists_read (kind : NodeKind) (json : Json) :
    (kind.read json).lists = (kind.lists json).map fun l => (l.1, (json.memberItems l.1).map l.2.read) := by
  cases kind with
  | formSection =>
    show (SectionBody.ofJson json).lists = _
    unfold SectionBody.ofJson lists
    split
    case h_6 => split <;> simp_all [SectionBody.lists]
    all_goals
      next type =>
      rw [type]
      simp [SectionBody.lists, read, Function.comp_def]
  | _ => simp [read, Entry.lists, lists, Role.ofJson, SubSection.ofJson, Function.comp_def]

/-- Lists under different names are looked for, which stand for nothing else. -/
theorem nodup_lists (kind : NodeKind) (json : Json) : ((kind.lists json).map Prod.fst).Nodup := by
  cases kind with
  | formSection =>
    simp only [lists]
    split <;> simp
  | _ => simp [lists]

theorem not_mem_plainNames {l : String × NodeKind} (member : l ∈ kind.lists json) : l.1 ∉ kind.plainNames := by
  cases kind with
  | formSection =>
    simp only [lists] at member
    split at member <;> simp_all [plainNames]
  | form | role => simp_all [lists, plainNames]
  | subSection =>
    simp only [lists, List.mem_cons, List.not_mem_nil, or_false] at member
    rcases member with rfl | rfl <;> simp [plainNames]
  | _ => cases member

/-- Where there is a list of texts there are no parts. -/
theorem lists_eq_nil {name : String} (texts : kind.textList? json = some name) : kind.lists json = [] := by
  unfold textList? at texts
  split at texts
  · next type => simp [lists, type]
  · rfl
  · rfl
  · cases texts

theorem lists_congr {a b : Json} (plain : ∀ name ∈ kind.plainNames, a.member? name = b.member? name) :
    kind.lists a = kind.lists b := by
  cases kind with
  | formSection =>
    have type : a.memberText "type" = b.memberText "type" := Json.memberText_congr (plain _ (by simp [plainNames]))
    simp only [lists, type]
  | _ => rfl

/-- What a part says besides the parts in it depends on the members for that alone. -/
theorem own_read_congr {a b : Json} (noRow : kind ≠ row)
    (plain : ∀ name ∈ kind.plainNames, a.member? name = b.member? name)
    (texts : ∀ name, kind.textList? a = some name → a.member? name = b.member? name) :
    (kind.read a).own = (kind.read b).own := by
  have text? {name : String} (member : name ∈ kind.plainNames) := Json.memberText?_congr (plain name member)
  have text {name : String} (member : name ∈ kind.plainNames) := Json.memberText_congr (plain name member)
  have flag {name : String} (member : name ∈ kind.plainNames) := Json.memberFlag?_congr (plain name member)
  have list {name : String} (h : kind.textList? a = some name) := Json.memberTexts_congr (texts name h)
  cases kind with
  | form =>
    simp only [read, Entry.own]
    rw [text? (by simp [plainNames]), text? (by simp [plainNames])]
  | formSection =>
    simp only [read, Entry.own, Section.ofJson]
    rw [text (by simp [plainNames]), text (by simp [plainNames]),
      SectionBody.own_ofJson_congr (text (by simp [plainNames])) fun type => list (by simp [textList?, type])]
  | field =>
    simp only [read, Entry.own, Field.ofJson]
    rw [text (by simp [plainNames]), text (by simp [plainNames]), flag (by simp [plainNames]),
      FieldKind.ofJson_congr (text (by simp [plainNames])) fun type =>
        list (by rcases type with h | h <;> simp [textList?, h])]
  | role =>
    simp only [read, Entry.own, Role.ofJson]
    rw [text (by simp [plainNames]), text (by simp [plainNames])]
  | uploadSlot =>
    simp only [read, Entry.own, UploadSlot.ofJson]
    rw [text (by simp [plainNames]), text (by simp [plainNames]), flag (by simp [plainNames])]
  | subSection =>
    simp only [read, Entry.own, SubSection.ofJson]
    rw [text (by simp [plainNames]), text (by simp [plainNames])]
  | column =>
    simp only [read, Entry.own, Column.ofJson]
    rw [text (by simp [plainNames]), text (by simp [plainNames]), text? (by simp [plainNames]),
      text? (by simp [plainNames]), flag (by simp [plainNames])]
  | row => exact absurd rfl noRow

/-- Whether a member is looked at where a value is read. Of a row every member is kept. -/
def Reads (kind : NodeKind) (json : Json) (name : String) : Prop :=
  kind = row ∨ name ∈ kind.plainNames ∨ kind.textList? json = some name ∨ name ∈ (kind.lists json).map Prod.fst

instance (kind : NodeKind) (json : Json) (name : String) : Decidable (kind.Reads json name) :=
  inferInstanceAs (Decidable (_ ∨ _ ∨ _ ∨ _))

/-- Only the members that are looked at matter. -/
theorem read_congr {a b : Json} (noRow : kind ≠ row)
    (agree : ∀ name, kind.Reads a name → a.member? name = b.member? name) : kind.read a = kind.read b := by
  have plain : ∀ name ∈ kind.plainNames, a.member? name = b.member? name :=
    fun name plain => agree name (.inr (.inl plain))
  refine Entry.eq_of_own ?_ ?_
  · exact own_read_congr noRow plain fun name texts => agree name (.inr (.inr (.inl texts)))
  · rw [lists_read, lists_read, ← lists_congr plain]
    refine List.map_congr_left fun l member => ?_
    have list := agree l.1 (.inr (.inr (.inr (List.mem_map_of_mem member))))
    rw [Json.memberItems_congr list]

/-- What is no object is read as if nothing were said in it. -/
theorem read_of_no_object (noObject : ∀ members, json ≠ .object members) : kind.read json = kind.blank := by
  by_cases isRow : kind = row
  · subst isRow
    cases json with
    | object members => exact absurd rfl (noObject members)
    | _ => rfl
  · have absent (name : String) : json.member? name = Json.null.member? name := by
      cases json with
      | object members => exact absurd rfl (noObject members)
      | _ => rfl
    rw [read_congr isRow fun name _ => absent name]
    cases kind <;> rfl

theorem texts_read {name : String} (texts : kind.textList? json = some name) :
    (kind.read json).texts? = some (json.memberTexts name) := by
  unfold textList? at texts
  split at texts
  · next type =>
    obtain rfl := Option.some.inj texts
    simp [read, Section.ofJson, SectionBody.ofJson, type, Entry.texts?]
  · next type =>
    obtain rfl := Option.some.inj texts
    simp [read, Field.ofJson, FieldKind.ofJson, type, Entry.texts?]
  · next type =>
    obtain rfl := Option.some.inj texts
    simp [read, Field.ofJson, FieldKind.ofJson, type, Entry.texts?]
  · cases texts

theorem read_withTexts {a b : Json} {name : String} (texts : kind.textList? a = some name)
    (others : ∀ other, other ≠ name → a.member? other = b.member? other) :
    kind.read b = (kind.read a).withTexts (b.memberTexts name) := by
  have text {other : String} (differ : other ≠ name) := Json.memberText_congr (others other differ)
  have flag {other : String} (differ : other ≠ name) := Json.memberFlag?_congr (others other differ)
  unfold textList? at texts
  split at texts
  · next type =>
    obtain rfl := Option.some.inj texts
    have same : b.memberText "type" = "info_list" := by rw [← text (by decide), type]
    simp [read, Section.ofJson, SectionBody.ofJson, type, same, Entry.withTexts, text]
  · next type =>
    obtain rfl := Option.some.inj texts
    have same : b.memberText "type" = "checkbox_group" := by rw [← text (by decide), type]
    simp [read, Field.ofJson, FieldKind.ofJson, type, same, Entry.withTexts, text, flag]
  · next type =>
    obtain rfl := Option.some.inj texts
    have same : b.memberText "type" = "radio" := by rw [← text (by decide), type]
    simp [read, Field.ofJson, FieldKind.ofJson, type, same, Entry.withTexts, text, flag]
  · cases texts

/-- The part at a place below a part is read from the element at the same place. -/
theorem at?_cons_read (kind : NodeKind) (json : Json) (name : String) (i : Nat) (place : SchemaPath) :
    (kind.read json).at? ((name, i) :: place) = (lookupEntry name (kind.lists json)).bind fun item =>
      (json.memberItems name)[i]?.bind fun element => (item.read element).at? place := by
  have found : lookupEntry name (kind.read json).lists =
      (lookupEntry name (kind.lists json)).map fun item => (json.memberItems name).map item.read := by
    rw [lists_read]
    exact lookupEntry_map_withKey (fun name (item : NodeKind) => (json.memberItems name).map item.read) name _
  rw [Entry.at?, found]
  cases lookupEntry name (kind.lists json) with
  | none => rfl
  | some item =>
    simp only [Option.map_some, Option.bind_some, List.getElem?_map, Option.bind_eq_bind]
    cases (json.memberItems name)[i]? <;> rfl

/-- Every part of what is read is read from the element at its place, and from nothing else. -/
theorem at?_read (place : SchemaPath) (kind : NodeKind) (json : Json) :
    (kind.read json).at? place = (element? place kind json).map fun e => e.1.read e.2 := by
  induction place generalizing kind json with
  | nil => rfl
  | cons step place ih =>
    obtain ⟨name, i⟩ := step
    rw [at?_cons_read, element?]
    cases lookupEntry name (kind.lists json) with
    | none => rfl
    | some item =>
      simp only [Option.bind_some, Option.bind_eq_bind]
      cases (json.memberItems name)[i]? with
      | none => rfl
      | some element => exact ih item element

end NodeKind

end InspectionForms
