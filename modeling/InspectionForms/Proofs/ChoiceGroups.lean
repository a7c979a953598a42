import InspectionForms.Proofs.ChoiceControls

namespace InspectionForms

theorem toList_choiceGroup (scope fieldId : String) :
    (choiceGroup scope fieldId).toList = scope.toList ++ '-' :: fieldId.toList := by
  simp [choiceGroup]

/-- No two fields that are shown together have one id, and no two roles. -/
def SectionBody.DistinctInputs : SectionBody → Prop
  | fileUploadGroup _ => True
  | body => body.DistinctFields

instance (body : SectionBody) : Decidable body.DistinctInputs :=
  match body with
  | .fileUploadGroup _ => inferInstanceAs (Decidable True)
  | .fieldset fields => inferInstanceAs (Decidable (SectionBody.fieldset fields).DistinctFields)
  | .signatureGroup roles => inferInstanceAs (Decidable (SectionBody.signatureGroup roles).DistinctFields)
  | .tableGroup _ | .infoList _ | .unsupported _ => inferInstanceAs (Decidable True)

structure Schema.DistinctInputs (schema : Schema) : Prop where
  sections : (schema.sections.map Section.id).Nodup
  bodies : ∀ s ∈ schema.sections, s.body.DistinctInputs

instance (schema : Schema) : Decidable schema.DistinctInputs :=
  decidable_of_iff ((schema.sections.map Section.id).Nodup ∧ ∀ s ∈ schema.sections, s.body.DistinctInputs)
    ⟨fun ⟨sections, bodies⟩ => ⟨sections, bodies⟩, fun ⟨sections, bodies⟩ => ⟨sections, bodies⟩⟩

namespace Section

variable {s : Section} {index : Nat} {scope : String} {field : Field}

/-- A field is kept under its scope and its id. -/
theorem fieldKeys_of_scopedFields (placed : s.scopedFields[index]? = some (scope, field)) :
    s.fieldKeys[index]? = some (scope, field.id) := by
  have key : (s.scopedFields.map fun entry => (entry.1, entry.2.id))[index]? = some (scope, field.id) := by
    rw [List.getElem?_map, placed]
    rfl
  obtain ⟨id, title, body⟩ := s
  cases body with
  | fieldset fields =>
    rw [scopedFields, List.map_map] at key
    exact key
  | signatureGroup roles =>
    simp only [scopedFields, List.map_flatMap, List.map_map] at key
    exact key
  | _ => cases placed

theorem nodup_fieldKeys_of_scopedFields (distinct : s.body.DistinctInputs)
    (placed : s.scopedFields[index]? = some (scope, field)) : s.fieldKeys.Nodup := by
  obtain ⟨id, title, body⟩ := s
  cases body with
  | fieldset fields => exact nodup_fieldKeys (s := ⟨id, title, .fieldset fields⟩) distinct
  | signatureGroup roles => exact nodup_fieldKeys (s := ⟨id, title, .signatureGroup roles⟩) distinct
  | _ => cases placed

end Section

namespace Session

variable {session : Session}

theorem fieldView?_eq_some_iff {position index : Nat} {view : FieldView} :
    session.fieldView? position index = some view ↔ ∃ s scope field, session.schema.sections[position]? = some s ∧
      s.scopedFields[index]? = some (scope, field) ∧ field.view session.answers scope = view := by
  rw [fieldView?_eq, Schema.fieldAt?, Option.map_eq_some_iff]
  constructor
  · rintro ⟨⟨scope, field⟩, placed, shown⟩
    obtain ⟨s, atSection, atField⟩ := Option.bind_eq_some_iff.mp placed
    exact ⟨s, scope, field, atSection, atField, shown⟩
  · rintro ⟨s, scope, field, atSection, atField, shown⟩
    exact ⟨(scope, field), Option.bind_eq_some_iff.mpr ⟨s, atSection, atField⟩, shown⟩

theorem group_eq_of_fieldView? {position index : Nat} {view : FieldView} {multiple : Bool} {group : String}
    {options : List ChoiceOption} (shown : session.fieldView? position index = some view)
    (choice : view.control = .choice multiple group options) : group = choiceGroup view.scope view.fieldId := by
  obtain ⟨_, scope, field, _, _, rfl⟩ := fieldView?_eq_some_iff.mp shown
  exact (fieldControl_eq_choice_iff.mp choice).1.symm

/-- The choices of two fields have one name only where their scopes and ids read alike when put together. Either a
scope goes on where the other ends, with the beginning of the other field's id, or both are kept at one place. In a
form whose ids tell sections, roles and fields apart that takes two sections, one of which has roles, and the id of the
other reads as the scope of one of its roles. -/
theorem choiceGroups_eq_iff (distinct : session.schema.DistinctInputs)
    {position index otherPosition otherIndex : Nat} {here other : FieldView} {multiple otherMultiple : Bool}
    {group otherGroup : String} {options otherOptions : List ChoiceOption}
    (shownHere : session.fieldView? position index = some here)
    (shownOther : session.fieldView? otherPosition otherIndex = some other)
    (differ : (position, index) ≠ (otherPosition, otherIndex))
    (choiceHere : here.control = .choice multiple group options)
    (choiceOther : other.control = .choice otherMultiple otherGroup otherOptions) :
    (group = otherGroup ↔ here.scope = other.scope ∧ here.fieldId = other.fieldId ∨
      (∃ text, other.scope = here.scope ++ "-" ++ text ∧ here.fieldId = text ++ "-" ++ other.fieldId) ∨
      ∃ text, here.scope = other.scope ++ "-" ++ text ∧ other.fieldId = text ++ "-" ++ here.fieldId) ∧
    (here.scope = other.scope → here.fieldId = other.fieldId →
      ∃ a b, session.schema.sections[position]? = some a ∧ session.schema.sections[otherPosition]? = some b ∧
        (a.ResembledBy b ∨ b.ResembledBy a)) := by
  constructor
  · rw [group_eq_of_fieldView? shownHere choiceHere, group_eq_of_fieldView? shownOther choiceOther]
    exact join_eq_join_iff toList_choiceGroup
  · intro sameScope sameId
    obtain ⟨a, scope, field, atA, placedA, rfl⟩ := fieldView?_eq_some_iff.mp shownHere
    obtain ⟨b, otherScope, otherField, atB, placedB, rfl⟩ := fieldView?_eq_some_iff.mp shownOther
    have keyA : a.fieldKeys[index]? = some (scope, field.id) := Section.fieldKeys_of_scopedFields placedA
    have keyB : b.fieldKeys[otherIndex]? = some (scope, field.id) := by
      have same : (otherScope, otherField.id) = (scope, field.id) := Prod.ext sameScope.symm sameId.symm
      rw [Section.fieldKeys_of_scopedFields placedB, same]
    have keys : a.fieldKeys.Nodup :=
      Section.nodup_fieldKeys_of_scopedFields (distinct.bodies a (List.mem_of_getElem? atA)) placedA
    exact ⟨a, b, atA, atB, Schema.resembledBy_of_key distinct.sections atA atB keyA keyB keys differ⟩

/-- A role and two sections whose fields come together under one name, and two places for files with one id. -/
def meetingChoices : Schema :=
  ⟨none, none, [⟨"A", "", .signatureGroup [⟨"B", "", [⟨"c-d", "", false, .radio ["x"]⟩]⟩]⟩,
    ⟨"A_B-c", "", .fieldset [⟨"d", "", false, .checkboxGroup ["y"]⟩]⟩,
    ⟨"A_B", "", .fieldset [⟨"c-d", "", false, .radio ["z"]⟩]⟩,
    ⟨"U", "", .fileUploadGroup [⟨"f", "", false⟩, ⟨"f", "", false⟩]⟩]⟩

theorem choiceGroups_eq_iff_meetingChoices :
    let session := Session.new meetingChoices
    meetingChoices.DistinctInputs ∧
    (session.fieldView? 0 0).map FieldView.control = some (.choice false "A_B-c-d" [⟨"x", false⟩]) ∧
    (session.fieldView? 1 0).map FieldView.control = some (.choice true "A_B-c-d" [⟨"y", false⟩]) ∧
    (∃ text, "A_B-c" = "A_B" ++ "-" ++ text ∧ "c-d" = text ++ "-" ++ "d") ∧
    ∃ a b, meetingChoices.sections[0]? = some a ∧ meetingChoices.sections[2]? = some b ∧
      (a.ResembledBy b ∨ b.ResembledBy a) := by
  intro session
  have distinct : meetingChoices.DistinctInputs := by decide
  have signer : session.fieldView? 0 0 =
      some ⟨"A_B", "c-d", "", false, none, .choice false "A_B-c-d" [⟨"x", false⟩]⟩ := rfl
  have longScope : session.fieldView? 1 0 =
      some ⟨"A_B-c", "d", "", false, none, .choice true "A_B-c-d" [⟨"y", false⟩]⟩ := rfl
  have sameScope : session.fieldView? 2 0 =
      some ⟨"A_B", "c-d", "", false, none, .choice false "A_B-c-d" [⟨"z", false⟩]⟩ := rfl
  have meeting := (choiceGroups_eq_iff distinct signer longScope (by decide) rfl rfl).1.mp rfl
  refine ⟨distinct, rfl, rfl, ?_, (choiceGroups_eq_iff distinct signer sameScope (by decide) rfl rfl).2 rfl rfl⟩
  rcases meeting with ⟨same, _⟩ | goesOn | ⟨text, longer, _⟩
  · exact absurd same (by decide)
  · exact goesOn
  · have length : 3 = 5 + 1 + text.length := by
      have lengths := congrArg String.length longer
      rwa [String.length_append, String.length_append] at lengths
    omega

/-- Two sections with a field each, told apart by a hyphen that stands once in the id of a section and once in that of
a field. -/
def hyphenatedChoices : Schema :=
  ⟨none, none, [⟨"A-B", "", .fieldset [⟨"C", "", false, .radio ["x"]⟩]⟩,
    ⟨"A", "", .fieldset [⟨"B-C", "", false, .radio ["y"]⟩]⟩]⟩

/-- All ids are distinct, and still the choices of both fields have one name. -/
theorem choiceGroups_hyphenatedChoices :
    hyphenatedChoices.DistinctInputs ∧
    ((Session.new hyphenatedChoices).fieldView? 0 0).map FieldView.control =
      some (.choice false "A-B-C" [⟨"x", false⟩]) ∧
    ((Session.new hyphenatedChoices).fieldView? 1 0).map FieldView.control =
      some (.choice false "A-B-C" [⟨"y", false⟩]) :=
  ⟨by decide, rfl, rfl⟩

end Session

end InspectionForms
