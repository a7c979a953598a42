import InspectionForms.Proofs.Targets
import Mathlib.Data.List.Nodup

namespace InspectionForms

/-- What a field or a place for a file shows of its answer. -/
inductive ShownAnswer
  | value (value : Option Json)
  | attached (name : Option String)

/-- A field or a place for a file, with the scope and the id under which its answer is kept. -/
structure ShownField where
  scope : String
  fieldId : String
  answer : ShownAnswer

def FieldView.shown (view : FieldView) : ShownField := ⟨view.scope, view.fieldId, .value view.value⟩

def UploadView.shown (sectionId : String) (view : UploadView) : ShownField :=
  ⟨sectionId, view.fieldId, .attached view.attached⟩

/-- The scopes and ids under which the fields of a section are kept, in the order in which they are shown. -/
def Section.fieldKeys (s : Section) : List (String × String) :=
  match s.body with
  | .fieldset fields => fields.map fun field => (s.id, field.id)
  | .signatureGroup roles =>
    roles.flatMap fun role => role.fields.map fun field => (roleScope s.id role.id, field.id)
  | .fileUploadGroup slots => slots.map fun slot => (s.id, slot.id)
  | _ => []

/-- No two fields of a section that are shown together have one id, and no two of its roles. -/
def SectionBody.DistinctFields : SectionBody → Prop
  | fieldset fields => (fields.map Field.id).Nodup
  | signatureGroup roles => (roles.map Role.id).Nodup ∧ ∀ role ∈ roles, (role.fields.map Field.id).Nodup
  | fileUploadGroup slots => (slots.map UploadSlot.id).Nodup
  | _ => True

instance (body : SectionBody) : Decidable body.DistinctFields :=
  match body with
  | .fieldset fields => inferInstanceAs (Decidable (fields.map Field.id).Nodup)
  | .signatureGroup roles => inferInstanceAs (Decidable
    ((roles.map Role.id).Nodup ∧ ∀ role ∈ roles, (role.fields.map Field.id).Nodup))
  | .fileUploadGroup slots => inferInstanceAs (Decidable (slots.map UploadSlot.id).Nodup)
  | .tableGroup _ | .infoList _ | .unsupported _ => inferInstanceAs (Decidable True)

structure Schema.DistinctFields (schema : Schema) : Prop where
  sections : (schema.sections.map Section.id).Nodup
  bodies : ∀ s ∈ schema.sections, s.body.DistinctFields

instance (schema : Schema) : Decidable schema.DistinctFields :=
  decidable_of_iff ((schema.sections.map Section.id).Nodup ∧ ∀ s ∈ schema.sections, s.body.DistinctFields)
    ⟨fun ⟨sections, bodies⟩ => ⟨sections, bodies⟩, fun ⟨sections, bodies⟩ => ⟨sections, bodies⟩⟩

theorem toList_roleScope (sectionId roleId : String) :
    (roleScope sectionId roleId).toList = sectionId.toList ++ '_' :: roleId.toList := by
  simp [roleScope]

theorem roleScope_injective {sectionId roleId other : String}
    (same : roleScope sectionId roleId = roleScope sectionId other) : roleId = other :=
  (String.append_right_inj (sectionId ++ "_")).mp same

section Join

variable {separator : Char} {join : String → String → String}
  (spelled : ∀ front behind, (join front behind).toList = front.toList ++ separator :: behind.toList)
include spelled

theorem eq_or_exists_join {a b f g : String} {more : List Char} (continued : b.toList = a.toList ++ more)
    (rest : separator :: f.toList = more ++ separator :: g.toList) :
    a = b ∧ f = g ∨ ∃ text, b = join a text ∧ f = join text g := by
  cases more with
  | nil =>
    rw [List.append_nil] at continued
    exact .inl ⟨String.toList_inj.mp continued.symm, String.toList_inj.mp (List.cons.inj rest).2⟩
  | cons first text =>
    obtain ⟨rfl, behind⟩ := List.cons.inj rest
    refine .inr ⟨String.ofList text, String.toList_inj.mp ?_, String.toList_inj.mp ?_⟩
    · rw [continued, spelled, String.toList_ofList]
    · rw [spelled, String.toList_ofList]
      exact behind

/-- Where texts are put together with a separator between them, two pairs give one text only if a longer first text
begins with the shorter one and a separator. What is left of it then stands in front of the other second text. -/
theorem join_eq_join_iff {a b f g : String} : join a f = join b g ↔
    a = b ∧ f = g ∨ (∃ text, b = join a text ∧ f = join text g) ∨ ∃ text, a = join b text ∧ g = join text f := by
  rw [← String.toList_inj, spelled, spelled, List.append_eq_append_iff]
  constructor
  · rintro (⟨more, continued, rest⟩ | ⟨more, continued, rest⟩)
    · exact (eq_or_exists_join spelled continued rest).imp_right .inl
    · exact (eq_or_exists_join spelled continued rest).imp
        (fun ⟨front, behind⟩ => ⟨front.symm, behind.symm⟩) .inr
  · rintro (⟨rfl, rfl⟩ | ⟨text, rfl, rfl⟩ | ⟨text, rfl, rfl⟩)
    · exact .inl ⟨[], (List.append_nil _).symm, rfl⟩
    · exact .inl ⟨separator :: text.toList, spelled a text, congrArg (List.cons separator) (spelled text g)⟩
    · exact .inr ⟨separator :: text.toList, spelled b text, congrArg (List.cons separator) (spelled text f)⟩

end Join

/-- Roles of two sections have one scope only if the id of one section itself reads as a scope in the other. -/
theorem exists_of_roleScope_eq {a b roleA roleB : String} (same : roleScope a roleA = roleScope b roleB)
    (differ : a ≠ b) : (∃ roleId, b = roleScope a roleId) ∨ ∃ roleId, a = roleScope b roleId := by
  rcases (join_eq_join_iff toList_roleScope).mp same with ⟨sameId, _⟩ | ⟨text, reads, _⟩ | ⟨text, reads, _⟩
  · exact absurd sameId differ
  · exact .inl ⟨text, reads⟩
  · exact .inr ⟨text, reads⟩

namespace Section

/-- A section has roles, and the id of another section reads as the scope of a role in it. -/
def ResembledBy (s other : Section) : Prop :=
  (∃ roles, s.body = .signatureGroup roles) ∧ ∃ roleId, other.id = roleScope s.id roleId

theorem scope_of_mem_fieldKeys {s : Section} {key : String × String} (member : key ∈ s.fieldKeys) :
    key.1 = s.id ∨ (∃ roles, s.body = .signatureGroup roles) ∧ ∃ roleId, key.1 = roleScope s.id roleId := by
  unfold fieldKeys at member
  split at member
  · obtain ⟨field, _, rfl⟩ := List.mem_map.mp member
    exact .inl rfl
  · next roles body =>
    obtain ⟨role, _, inRole⟩ := List.mem_flatMap.mp member
    obtain ⟨field, _, rfl⟩ := List.mem_map.mp inRole
    exact .inr ⟨⟨roles, body⟩, role.id, rfl⟩
  · obtain ⟨slot, _, rfl⟩ := List.mem_map.mp member
    exact .inl rfl
  · cases member

/-- Two sections keep a field under one key only if the id of one of them reads as a scope in the other. -/
theorem resembledBy_of_mem_fieldKeys {a b : Section} {key : String × String} (inA : key ∈ a.fieldKeys)
    (inB : key ∈ b.fieldKeys) (differ : a.id ≠ b.id) : a.ResembledBy b ∨ b.ResembledBy a := by
  rcases scope_of_mem_fieldKeys inA with plainA | ⟨rolesA, roleA, scopeA⟩ <;>
    rcases scope_of_mem_fieldKeys inB with plainB | ⟨rolesB, roleB, scopeB⟩
  · exact absurd (plainA.symm.trans plainB) differ
  · exact .inr ⟨rolesB, roleB, plainA.symm.trans scopeB⟩
  · exact .inl ⟨rolesA, roleA, plainB.symm.trans scopeA⟩
  · rcases exists_of_roleScope_eq (scopeA.symm.trans scopeB) differ with reads | reads
    · exact .inl ⟨rolesA, reads⟩
    · exact .inr ⟨rolesB, reads⟩

theorem nodup_fieldKeys {s : Section} (distinct : s.body.DistinctFields) : s.fieldKeys.Nodup := by
  obtain ⟨id, title, body⟩ := s
  have keyed {α : Type} (fieldId : α → String) (scope : String) {xs : List α} (ids : (xs.map fieldId).Nodup) :
      (xs.map fun x => (scope, fieldId x)).Nodup := by
    have pairs : (xs.map fun x => (scope, fieldId x)) = (xs.map fieldId).map (Prod.mk scope) := by
      rw [List.map_map]
      rfl
    rw [pairs]
    exact ids.map fun a b same => (Prod.mk.inj same).2
  cases body with
  | fieldset fields => exact keyed Field.id id distinct
  | fileUploadGroup slots => exact keyed UploadSlot.id id distinct
  | signatureGroup roles =>
    obtain ⟨roleIds, fieldIds⟩ := distinct
    refine List.nodup_flatMap.mpr ⟨fun role member => keyed Field.id _ (fieldIds role member), ?_⟩
    refine (List.pairwise_map.mp roleIds).imp fun {a b} differ key inA inB => ?_
    obtain ⟨_, _, rfl⟩ := List.mem_map.mp inA
    obtain ⟨_, _, same⟩ := List.mem_map.mp inB
    exact differ (roleScope_injective (Prod.mk.inj same).1).symm
  | tableGroup subs => exact List.nodup_nil
  | infoList items => exact List.nodup_nil
  | unsupported name => exact List.nodup_nil

end Section

/-- Two places keep their answers under one key only in two sections of which one has an id that reads as a scope in
the other, if the sections and the fields of a section are told apart by their ids. -/
theorem Schema.resembledBy_of_key {schema : Schema} (distinct : (schema.sections.map Section.id).Nodup)
    {position index otherPosition otherIndex : Nat} {a b : Section} {key : String × String}
    (atA : schema.sections[position]? = some a) (atB : schema.sections[otherPosition]? = some b)
    (keyA : a.fieldKeys[index]? = some key) (keyB : b.fieldKeys[otherIndex]? = some key) (keys : a.fieldKeys.Nodup)
    (differ : (position, index) ≠ (otherPosition, otherIndex)) : a.ResembledBy b ∨ b.ResembledBy a := by
  refine Section.resembledBy_of_mem_fieldKeys (List.mem_of_getElem? keyA) (List.mem_of_getElem? keyB) fun same => ?_
  have idA : (schema.sections.map Section.id)[position]? = some a.id := by rw [List.getElem?_map, atA]; rfl
  have idB : (schema.sections.map Section.id)[otherPosition]? = some b.id := by rw [List.getElem?_map, atB]; rfl
  have samePosition : position = otherPosition :=
    (List.getElem?_inj (List.getElem?_eq_some_iff.mp idA).1 distinct).mp (by rw [idA, idB, same])
  subst samePosition
  obtain rfl : a = b := Option.some.inj (atA.symm.trans atB)
  have sameIndex : index = otherIndex :=
    (List.getElem?_inj (List.getElem?_eq_some_iff.mp keyA).1 keys).mp (keyA.trans keyB.symm)
  exact differ (congrArg _ sameIndex)

namespace Session

variable {session : Session}

theorem field?_setField (editing : session.isEditing) (scope fieldId : String) (value : Json) (s f : String) :
    (session.setField scope fieldId value).field? s f =
      if s = scope ∧ f = fieldId then some value else session.field? s f := by
  rw [setField, if_pos editing]
  exact Answers.field?_writeField session.answers scope fieldId s f value

theorem schema_setField (scope fieldId : String) (value : Json) :
    (session.setField scope fieldId value).schema = session.schema :=
  session.schema_applyEdit (.field scope fieldId value)

end Session

end InspectionForms
