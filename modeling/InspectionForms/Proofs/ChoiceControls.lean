import InspectionForms.Proofs.FieldScopes
import Mathlib.Data.List.Count

namespace InspectionForms

/-- The fields of a section with the scopes of their answers, in the order in which they are shown. -/
def Section.scopedFields (s : Section) : List (String × Field) :=
  match s.body with
  | .fieldset fields => fields.map fun field => (s.id, field)
  | .signatureGroup roles =>
    roles.flatMap fun role => role.fields.map fun field => (roleScope s.id role.id, field)
  | _ => []

/-- The fields that a section shows, role after role where it has roles. -/
def SectionView.fieldViews (view : SectionView) : List FieldView :=
  match view.body with
  | .fieldset fields => fields
  | .signatureGroup roles => roles.flatMap RoleView.fields
  | _ => []

/-- The field at an index in the section at a position, with its scope. -/
def Schema.fieldAt? (schema : Schema) (position index : Nat) : Option (String × Field) :=
  schema.sections[position]?.bind fun s => s.scopedFields[index]?

def Session.fieldView? (session : Session) (position index : Nat) : Option FieldView :=
  session.render[position]?.bind fun view => view.fieldViews[index]?

theorem Section.fieldViews_view (s : Section) (schema : Schema) (answers : Answers) :
    (s.view schema answers).fieldViews = s.scopedFields.map fun (scope, field) => field.view answers scope := by
  obtain ⟨id, title, body⟩ := s
  cases body with
  | fieldset fields =>
    simp only [Section.view, SectionBody.view, SectionView.fieldViews, scopedFields, List.map_map]
    rfl
  | signatureGroup roles =>
    simp only [Section.view, SectionBody.view, SectionView.fieldViews, scopedFields, List.flatMap_map,
      List.map_flatMap, Role.view, List.map_map]
    rfl
  | _ => rfl

theorem Session.fieldView?_eq (session : Session) (position index : Nat) :
    session.fieldView? position index =
      (session.schema.fieldAt? position index).map fun (scope, field) => field.view session.answers scope := by
  rw [fieldView?, render, Schema.render, List.getElem?_map, Schema.fieldAt?]
  cases session.schema.sections[position]? with
  | none => rfl
  | some s => rw [Option.map_some, Option.bind_some, Option.bind_some, Section.fieldViews_view, List.getElem?_map]

/-- The kinds of fields that are answered by a choice among some texts. -/
def FieldKind.choice : Bool → List String → FieldKind
  | true, texts => .checkboxGroup texts
  | false, texts => .radio texts

/-- The options of a choice as they are shown for an answer. -/
def shownOptions (multiple : Bool) (texts : List String) (answer : Option Json) : List ChoiceOption :=
  texts.map fun text => ⟨text, isSelected answer text multiple⟩

/-- The texts of the selected options, in the order in which these are shown. -/
def selectedTexts (options : List ChoiceOption) : List String :=
  (options.filter ChoiceOption.selected).map ChoiceOption.value

theorem fieldControl_eq_choice_iff {scope : String} {field : Field} {answer : Option Json} {multiple : Bool}
    {group : String} {options : List ChoiceOption} :
    fieldControl scope field answer = .choice multiple group options ↔ choiceGroup scope field.id = group ∧
      ∃ texts, field.kind = .choice multiple texts ∧ shownOptions multiple texts answer = options := by
  rw [fieldControl]
  constructor
  · intro shown
    split at shown
    all_goals cases shown
    · next texts kind => exact ⟨rfl, texts, kind, rfl⟩
    · next texts kind => exact ⟨rfl, texts, kind, rfl⟩
  · rintro ⟨rfl, texts, kind, rfl⟩
    rw [kind]
    cases multiple <;> rfl

theorem map_value_shownOptions (multiple : Bool) (texts : List String) (answer : Option Json) :
    (shownOptions multiple texts answer).map ChoiceOption.value = texts := by
  rw [shownOptions, List.map_map]
  exact List.map_id texts

theorem selectedTexts_shownOptions (multiple : Bool) (texts : List String) (answer : Option Json) :
    selectedTexts (shownOptions multiple texts answer) = texts.filter fun text => isSelected answer text multiple := by
  rw [selectedTexts, shownOptions, List.filter_map, List.map_map]
  exact List.map_id _

/-- A list selects the options that it holds, whatever else it holds, and only where several may be chosen. -/
theorem isSelected_array_iff {items : List Json} {text : String} {multiple : Bool} :
    isSelected (some (.array items)) text multiple ↔ multiple = true ∧ .string text ∈ items := by
  rw [isSelected, Bool.and_eq_true, List.any_eq_true]
  refine and_congr_right fun _ => ⟨?_, fun member => ⟨_, member, beq_self_eq_true text⟩⟩
  rintro ⟨item, member, same⟩
  split at same
  · next chosen =>
    obtain rfl := eq_of_beq same
    exact member
  · cases same

/-- Where one option may be chosen it is selected by its own text and by nothing else. -/
theorem isSelected_single_iff {answer : Option Json} {text : String} :
    isSelected answer text false ↔ answer = some (.string text) := by
  unfold isSelected
  split
  · next chosen => rw [beq_iff_eq, Option.some.injEq, Json.string.injEq]
  · simp
  · next other _ => simpa using other text

theorem selectedTexts_single {texts : List String} (distinct : texts.Nodup) (answer : Option Json) :
    (∀ text ∈ texts, answer = some (.string text) → selectedTexts (shownOptions false texts answer) = [text]) ∧
    ((∀ text ∈ texts, answer ≠ some (.string text)) → selectedTexts (shownOptions false texts answer) = []) := by
  rw [selectedTexts_shownOptions]
  constructor
  · rintro text member rfl
    have own : (texts.filter fun other => isSelected (some (.string text)) other false) =
        texts.filter fun other => other == text := by
      refine List.filter_congr fun other _ => Bool.eq_iff_iff.mpr ?_
      rw [isSelected_single_iff, beq_iff_eq, Option.some.injEq, Json.string.injEq, eq_comm]
    rw [own, List.filter_beq, List.count_eq_one_of_mem distinct member]
    rfl
  · intro other
    refine List.filter_eq_nil_iff.mpr fun text member selected => ?_
    exact other text member (isSelected_single_iff.mp selected)

theorem length_selectedTexts_le {texts : List String} (distinct : texts.Nodup) (answer : Option Json) :
    (selectedTexts (shownOptions false texts answer)).length ≤ 1 := by
  obtain ⟨chosen, nothing⟩ := selectedTexts_single distinct answer
  by_cases own : ∃ text ∈ texts, answer = some (.string text)
  · obtain ⟨text, member, same⟩ := own
    rw [chosen text member same]
    exact Nat.le_refl 1
  · rw [nothing fun text member same => own ⟨text, member, same⟩]
    exact Nat.zero_le 1

/-- Writing back what is selected selects the same options again. -/
theorem shownOptions_writeBack (multiple : Bool) (texts : List String) (items : List Json) :
    shownOptions multiple texts
        (some (.ofStrings (selectedTexts (shownOptions true texts (some (.array items)))))) =
      shownOptions multiple texts (some (.array items)) := by
  refine List.map_congr_left fun text member => congrArg (ChoiceOption.mk text) (Bool.eq_iff_iff.mpr ?_)
  rw [Json.ofStrings, isSelected_array_iff, isSelected_array_iff, selectedTexts_shownOptions]
  refine and_congr_right fun _ => ?_
  rw [List.mem_map_of_injective fun _ _ => Json.string.inj, List.mem_filter, isSelected_array_iff]
  exact ⟨fun found => found.2.2, fun found => ⟨member, rfl, found⟩⟩

namespace Session

/-- Somewhere a control with these options is shown for a scope and a field id. -/
def ShowsChoice (session : Session) (scope fieldId : String) (multiple : Bool) (options : List ChoiceOption) : Prop :=
  ∃ position index view group, session.fieldView? position index = some view ∧ view.scope = scope ∧
    view.fieldId = fieldId ∧ view.control = .choice multiple group options

variable {session : Session} {scope fieldId : String}

theorem showsChoice_iff {multiple : Bool} {options : List ChoiceOption} :
    session.ShowsChoice scope fieldId multiple options ↔ ∃ position index field texts,
      session.schema.fieldAt? position index = some (scope, field) ∧ field.id = fieldId ∧
      field.kind = .choice multiple texts ∧ shownOptions multiple texts (session.field? scope fieldId) = options := by
  constructor
  · rintro ⟨position, index, view, group, atPlace, rfl, rfl, control⟩
    rw [fieldView?_eq] at atPlace
    obtain ⟨⟨scope, field⟩, placed, rfl⟩ := Option.map_eq_some_iff.mp atPlace
    obtain ⟨_, texts, kind, shown⟩ := fieldControl_eq_choice_iff.mp control
    exact ⟨position, index, field, texts, placed, rfl, kind, shown⟩
  · rintro ⟨position, index, field, texts, placed, rfl, kind, shown⟩
    refine ⟨position, index, field.view session.answers scope, choiceGroup scope field.id, ?_, rfl, rfl, ?_⟩
    · rw [fieldView?_eq, placed]
      rfl
    · exact fieldControl_eq_choice_iff.mpr ⟨rfl, texts, kind, shown⟩

/-- All controls of one kind for a scope and a field id show the options with the same texts alike. -/
theorem ShowsChoice.options_eq {multiple : Bool} {options : List ChoiceOption}
    (shown : session.ShowsChoice scope fieldId multiple options) : options =
      shownOptions multiple (options.map ChoiceOption.value) (session.field? scope fieldId) := by
  obtain ⟨_, _, _, texts, _, _, _, rfl⟩ := showsChoice_iff.mp shown
  rw [map_value_shownOptions]

theorem showsChoice_of_placed {position index : Nat} {field : Field} {texts : List String} (multiple : Bool)
    (placed : session.schema.fieldAt? position index = some (scope, field)) (kind : field.kind = .choice multiple texts) :
    session.ShowsChoice scope field.id multiple (shownOptions multiple texts (session.field? scope field.id)) :=
  showsChoice_iff.mpr ⟨position, index, field, texts, placed, rfl, kind, rfl⟩

theorem ShowsChoice.congr {other : Session} {multiple : Bool} {options : List ChoiceOption}
    (shown : session.ShowsChoice scope fieldId multiple options) (sameSchema : other.schema = session.schema)
    (alike : shownOptions multiple (options.map ChoiceOption.value) (session.field? scope fieldId) =
      shownOptions multiple (options.map ChoiceOption.value) (other.field? scope fieldId)) :
    other.ShowsChoice scope fieldId multiple options := by
  obtain ⟨position, index, field, texts, placed, id, kind, rfl⟩ := showsChoice_iff.mp shown
  rw [map_value_shownOptions] at alike
  rw [← sameSchema] at placed
  exact showsChoice_iff.mpr ⟨position, index, field, texts, placed, id, kind, alike.symm⟩

theorem isEditing_setField (s f : String) (value : Json) :
    (session.setField s f value).isEditing = session.isEditing :=
  session.isEditing_applyEdit (.field s f value)

theorem field?_setField_self (editing : session.isEditing) (value : Json) :
    (session.setField scope fieldId value).field? scope fieldId = some value := by
  rw [field?_setField editing, if_pos ⟨rfl, rfl⟩]

theorem showsChoice_writeBack_iff (editing : session.isEditing) {items : List Json}
    (answer : session.field? scope fieldId = some (.array items)) {options others : List ChoiceOption}
    (shown : session.ShowsChoice scope fieldId true options) (multiple : Bool)
    (same : others.map ChoiceOption.value = options.map ChoiceOption.value) :
    (session.setField scope fieldId (.ofStrings (selectedTexts options))).ShowsChoice scope fieldId multiple others ↔
      session.ShowsChoice scope fieldId multiple others := by
  have sameSchema : (session.setField scope fieldId (.ofStrings (selectedTexts options))).schema = session.schema :=
    schema_setField scope fieldId _
  have alike : shownOptions multiple (others.map ChoiceOption.value)
        ((session.setField scope fieldId (.ofStrings (selectedTexts options))).field? scope fieldId) =
      shownOptions multiple (others.map ChoiceOption.value) (session.field? scope fieldId) := by
    have optionsEq := shown.options_eq
    rw [answer] at optionsEq
    rw [field?_setField_self editing, answer, same, optionsEq, map_value_shownOptions, shownOptions_writeBack]
  exact ⟨fun again => again.congr sameSchema.symm alike, fun before => before.congr sameSchema alike.symm⟩

/-- A list that is written where several options may be chosen is shown by all such controls of its scope and field
id: those options are selected that it holds, in whatever order and among whatever else. A control for one option
shows none of them. Writing back what is selected changes no selection of these options. Where one of distinct options
may be chosen at most one is ever selected, the one whose text has been written, and none for any other value. -/
theorem choices_shown {position index : Nat} {field : Field}
    (placed : session.schema.fieldAt? position index = some (scope, field)) :
    (∀ texts items, field.kind = .checkboxGroup texts → session.isEditing →
      let written := session.setField scope field.id (.array items)
      (∃ options, written.ShowsChoice scope field.id true options ∧ options.map ChoiceOption.value = texts) ∧
      (∀ multiple options, written.ShowsChoice scope field.id multiple options →
        options.map ChoiceOption.value = texts →
        ∀ option ∈ options, option.selected ↔ multiple = true ∧ .string option.value ∈ items) ∧
      ∀ options, written.ShowsChoice scope field.id true options → options.map ChoiceOption.value = texts →
        let again := written.setField scope field.id (.ofStrings (selectedTexts options))
        ∀ multiple others, others.map ChoiceOption.value = texts →
          (again.ShowsChoice scope field.id multiple others ↔ written.ShowsChoice scope field.id multiple others)) ∧
    ∀ texts, field.kind = .radio texts → texts.Nodup →
      (∃ options, session.ShowsChoice scope field.id false options ∧ options.map ChoiceOption.value = texts) ∧
      (∀ options, session.ShowsChoice scope field.id false options → options.map ChoiceOption.value = texts →
        (selectedTexts options).length ≤ 1) ∧
      (session.isEditing → ∀ value options,
        (session.setField scope field.id value).ShowsChoice scope field.id false options →
        options.map ChoiceOption.value = texts →
        (∀ text ∈ texts, value = .string text → selectedTexts options = [text]) ∧
        ((∀ text ∈ texts, value ≠ .string text) → selectedTexts options = [])) := by
  constructor
  · intro texts items kind editing written
    have answer : written.field? scope field.id = some (.array items) := field?_setField_self editing (.array items)
    have placedWritten : written.schema.fieldAt? position index = some (scope, field) := by
      rw [schema_setField]
      exact placed
    refine ⟨⟨_, showsChoice_of_placed true placedWritten kind, map_value_shownOptions _ _ _⟩, ?_, ?_⟩
    · intro multiple options shown values option member
      rw [shown.options_eq, answer] at member
      obtain ⟨text, _, rfl⟩ := List.mem_map.mp member
      exact isSelected_array_iff
    · intro options shown values again multiple others same
      exact showsChoice_writeBack_iff ((isEditing_setField scope field.id _).trans editing) answer shown multiple
        (same.trans values.symm)
  · intro texts kind distinct
    refine ⟨⟨_, showsChoice_of_placed false placed kind, map_value_shownOptions _ _ _⟩, ?_, ?_⟩
    · intro options shown values
      rw [shown.options_eq, values]
      exact length_selectedTexts_le distinct _
    · intro editing value options shown values
      rw [shown.options_eq, values, field?_setField_self editing]
      have single := selectedTexts_single distinct (some value)
      exact ⟨fun text member same => single.1 text member (congrArg some same),
        fun other => single.2 fun text member same => other text member (Option.some.inj same)⟩

end Session

/-- A role and a section whose fields for several choices are kept at one place, and a field for one choice. An option
comes twice. -/
def sharedChoices : Schema :=
  let flags : Field := ⟨"flags", "", false, .checkboxGroup ["x", "y", "x"]⟩
  ⟨none, none, [⟨"sign", "", .signatureGroup [⟨"qc", "", [flags, ⟨"shift", "", false, .radio ["A", "B"]⟩]⟩]⟩,
    ⟨"sign_qc", "", .fieldset [flags]⟩]⟩

theorem Session.choices_shown_sharedChoices :
    let session := Session.new sharedChoices
    let items : List Json := [.string "y", .null, .string "z", .array [.string "x"], .string "y"]
    let written := session.setField "sign_qc" "flags" (.array items)
    session.isEditing ∧
    (∃ options, written.ShowsChoice "sign_qc" "flags" true options ∧
      options.map ChoiceOption.value = ["x", "y", "x"] ∧
      ∀ option ∈ options, option.selected ↔ .string option.value ∈ items) ∧
    ∃ options, (session.setField "sign_qc" "shift" (.string "B")).ShowsChoice "sign_qc" "shift" false options ∧
      selectedTexts options = ["B"] := by
  intro session items written
  have flags : session.schema.fieldAt? 0 0 =
      some ("sign_qc", ⟨"flags", "", false, .checkboxGroup ["x", "y", "x"]⟩) := rfl
  have shift : session.schema.fieldAt? 0 1 = some ("sign_qc", ⟨"shift", "", false, .radio ["A", "B"]⟩) := rfl
  obtain ⟨⟨options, shown, values⟩, selected, -⟩ := (choices_shown flags).1 _ items rfl rfl
  obtain ⟨-, -, chosen⟩ := (choices_shown shift).2 _ rfl (by decide)
  have shownShift : (session.setField "sign_qc" "shift" (.string "B")).ShowsChoice "sign_qc" "shift" false
      [⟨"A", false⟩, ⟨"B", true⟩] := ⟨0, 1, _, _, rfl, rfl, rfl, rfl⟩
  refine ⟨rfl, ⟨options, shown, values, fun option member => ?_⟩,
    _, shownShift, (chosen rfl _ _ shownShift rfl).1 "B" (by decide) rfl⟩
  exact (selected true options shown values option member).trans (and_iff_right rfl)

/-- Two fields with one id and one option, of which the second can take one choice only. -/
def mixedTwins : Schema :=
  ⟨none, none, [⟨"S", "", .fieldset [⟨"f", "", false, .checkboxGroup ["x"]⟩, ⟨"f", "", false, .radio ["x"]⟩]⟩]⟩

/-- A list with the option is written to the first field, and the second does not show the option as selected. -/
theorem Session.choices_shown_mixedTwins :
    (Session.new mixedTwins).isEditing ∧
    mixedTwins.fieldAt? 0 0 = some ("S", ⟨"f", "", false, .checkboxGroup ["x"]⟩) ∧
    ((Session.new mixedTwins).setField "S" "f" (.array [.string "x"])).ShowsChoice "S" "f" true [⟨"x", true⟩] ∧
    ((Session.new mixedTwins).setField "S" "f" (.array [.string "x"])).ShowsChoice "S" "f" false [⟨"x", false⟩] :=
  ⟨rfl, rfl, ⟨0, 0, _, _, rfl, rfl, rfl, rfl⟩, ⟨0, 1, _, _, rfl, rfl, rfl, rfl⟩⟩

end InspectionForms
