import InspectionForms.Proofs.ScriptElements
import Mathlib.Data.List.Nodup

namespace InspectionForms

theorem MemberType.fault?_eq_none_iff {type : MemberType} {value : Json} :
    type.fault? value = none ↔ type.Holds value := by
  cases type with
  | anything => exact ⟨fun _ => .anything value, fun _ => rfl⟩
  | text =>
    constructor
    · intro right
      cases value <;> first | exact .text _ | cases right
    · rintro ⟨text⟩
      rfl
  | row =>
    constructor
    · intro right
      match value, right with
      | .number (.integer n inRange), right =>
        have whole : Number.toNat? (.integer n inRange) = some n.toNat := by
          have nonneg : 0 ≤ n := by
            by_contra negative
            simp [fault?, negative] at right
          exact if_pos nonneg
        exact holds_row_of_toNat? whole
    · rintro (_ | inRange | _)
      rw [Json.ofNat_eq_number inRange]
      simp [fault?]

namespace Edit

theorem kindOf_eq_ok_iff {json : Json} {kind : EditKind} : kindOf json = .ok kind ↔ json = .string kind.name := by
  constructor
  · intro found
    unfold kindOf at found
    split at found
    · next name =>
      split at found
      · next other named =>
        obtain rfl := Except.ok.inj found
        rw [EditKind.ofName?_eq_some_iff.mp named]
      · cases found
    · cases found
  · rintro rfl
    simp only [kindOf, EditKind.ofName?_name]

theorem ne_name_of_kindOf_eq_error {json : Json} {fault : ScriptFault} (wrong : kindOf json = .error fault)
    (kind : EditKind) : json ≠ .string kind.name := by
  intro same
  rw [kindOf_eq_ok_iff.mpr same] at wrong
  cases wrong

theorem partsFault?_eq_none_iff {kind : EditKind} {count : Nat} {members : List (String × MemberType)}
    {parts : List Json} :
    partsFault? kind count members parts = none ↔ List.Forall₂ (fun m part => m.2.Holds part) members parts := by
  induction members generalizing count parts with
  | nil => cases parts <;> simp [partsFault?]
  | cons m members ih =>
    cases parts with
    | nil => simp [partsFault?]
    | cons part parts =>
      rw [partsFault?, Option.or_eq_none_iff, MemberType.fault?_eq_none_iff, ih, List.forall₂_cons]

theorem uniqueMember?_cons_self {members : List (String × Json)} {name : String} {first value : Json} :
    uniqueMember? ((name, first) :: members) name = some value ↔ name ∉ members.map Prod.fst ∧ first = value := by
  have absent : (members.filter fun m => m.1 == name) = [] ↔ name ∉ members.map Prod.fst := by
    simp only [List.filter_eq_nil_iff, List.mem_map, beq_iff_eq, not_exists, not_and]
  rw [uniqueMember?_eq_some_iff, List.filter_cons_of_pos (by simp), List.cons.injEq, Prod.mk.injEq,
    absent, and_comm, and_iff_right rfl]

theorem uniqueMember?_cons_of_ne {members : List (String × Json)} {name other : String} (different : other ≠ name)
    (first : Json) : uniqueMember? ((other, first) :: members) name = uniqueMember? members name := by
  rw [uniqueMember?, uniqueMember?, List.filter_cons_of_neg (by simpa using different)]

/-- The members of an edit are in order if each that it needs comes once and is right. Those that have been seen must
not come again. -/
theorem membersFault?_eq_none_iff {kind : EditKind} {seen : List String} {members : List (String × Json)} :
    membersFault? kind seen members = none ↔ ∀ m ∈ kind.members,
      if m.1 ∈ seen then m.1 ∉ members.map Prod.fst
      else ∃ value, uniqueMember? members m.1 = some value ∧ m.2.Holds value := by
  induction members generalizing seen with
  | nil => simp [membersFault?, uniqueMember?]
  | cons member members ih =>
    obtain ⟨name, value⟩ := member
    rw [membersFault?]
    cases known : kind.members.find? fun m => m.1 == name with
    | none =>
      dsimp only
      rw [ih]
      refine forall₂_congr fun (m : String × MemberType) isMember => ?_
      have different : name ≠ m.1 := by
        rintro rfl
        exact List.find?_eq_none.mp known m isMember (by simp)
      rw [uniqueMember?_cons_of_ne different, List.map_cons, List.mem_cons, or_iff_right different.symm]
    | some found =>
      obtain ⟨key, type⟩ := found
      have isMember : (key, type) ∈ kind.members := List.mem_of_find?_eq_some known
      obtain rfl : key = name := beq_iff_eq.mp (List.find?_some (p := fun m : String × MemberType => m.1 == name) known)
      dsimp only
      by_cases again : key ∈ seen
      · rw [if_pos (by simpa using again)]
        simp only [reduceCtorEq, false_iff, not_forall]
        exact ⟨_, isMember, by simp [again]⟩
      rw [if_neg (by simpa using again), Option.or_eq_none_iff, MemberType.fault?_eq_none_iff, ih]
      -- names of members are distinct, so that the type which has been looked up is the only one for the name
      have distinct : (kind.members.map Prod.fst).Nodup :=
        kind.map_fst_members ▸ (List.nodup_cons.mp kind.nodup_names).2
      have only {m : String × MemberType} (isIn : m ∈ kind.members) (same : m.1 = key) : m.2 = type :=
        congrArg Prod.snd (List.inj_on_of_nodup_map distinct isIn isMember same)
      constructor
      · rintro ⟨right, others⟩ m isIn
        by_cases same : m.1 = key
        · have unique := others m isIn
          rw [same, if_pos List.mem_cons_self] at unique
          rw [same, if_neg again]
          exact ⟨value, uniqueMember?_cons_self.mpr ⟨unique, rfl⟩, only isIn same ▸ right⟩
        · have held := others m isIn
          simpa [same, Ne.symm same, uniqueMember?_cons_of_ne (Ne.symm same)] using held
      · intro held
        constructor
        · have here := held _ isMember
          rw [if_neg again] at here
          obtain ⟨other, unique, right⟩ := here
          exact (uniqueMember?_cons_self.mp unique).2 ▸ right
        · intro m isIn
          have here := held m isIn
          by_cases same : m.1 = key
          · rw [same, if_neg again] at here
            obtain ⟨other, unique, -⟩ := here
            rw [same, if_pos List.mem_cons_self]
            exact (uniqueMember?_cons_self.mp unique).1
          · simpa [same, Ne.symm same, uniqueMember?_cons_of_ne (Ne.symm same)] using here

/-- A value has a fault exactly if it is no edit. -/
theorem fault?_eq_none_iff {json : Json} : fault? json = none ↔ ∃ edit, ofJson? json = some edit := by
  cases json with
  | object members =>
    rw [ofJson?_object_eq_some_iff, fault?]
    simp only [@uniqueMember?_eq_some_iff members "op"]
    cases tags : members.filter fun m => m.1 == "op" with
    | nil => simp
    | cons tag others =>
      obtain ⟨key, value⟩ := tag
      dsimp only
      cases found : kindOf value with
      | error fault =>
        simp only [reduceCtorEq, false_iff, not_exists, not_and]
        intro kind same
        obtain ⟨⟨-, named⟩, -⟩ : (key = "op" ∧ value = .string kind.name) ∧ others = [] := by simpa using same
        exact absurd named (ne_name_of_kindOf_eq_error found kind)
      | ok kind =>
        obtain rfl := kindOf_eq_ok_iff.mp found
        obtain rfl : key = "op" := by
          have isTag : (key, Json.string kind.name) ∈ members.filter fun m => m.1 == "op" := by simp [tags]
          exact beq_iff_eq.mp (List.mem_filter.mp isTag).2
        cases others with
        | nil =>
          simp only [List.isEmpty_nil, ↓reduceIte, membersFault?_eq_none_iff, List.not_mem_nil]
          constructor
          · exact fun held => ⟨kind, rfl, held⟩
          · rintro ⟨other, same, held⟩
            rw [List.cons.injEq, Prod.mk.injEq] at same
            exact EditKind.name_injective same.1.2 ▸ held
        | cons other others => simp
  | array items =>
    rw [ofJson?_array_eq_some_iff]
    cases items with
    | nil => simp [fault?]
    | cons tag parts =>
      rw [fault?]
      cases found : kindOf tag with
      | error fault =>
        simp only [reduceCtorEq, false_iff, not_exists, not_and]
        exact fun kind _ same => absurd (List.cons.inj same).1 (ne_name_of_kindOf_eq_error found kind)
      | ok kind =>
        obtain rfl := kindOf_eq_ok_iff.mp found
        simp only [partsFault?_eq_none_iff]
        constructor
        · exact fun holds => ⟨kind, parts, rfl, holds⟩
        · rintro ⟨other, _, same, holds⟩
          obtain ⟨named, rfl⟩ := List.cons.inj same
          exact EditKind.name_injective named ▸ holds
  | _ => simp [fault?, ofJson?]

example : (fault? (.object [("op", .string "move")])).map ScriptFault.message =
    some "unknown variant \x60move\x60, expected one of \x60field\x60, \x60cell\x60, \x60attach\x60" := rfl

/-- A list of values is no script exactly if one of them has a fault. -/
theorem readScript?_eq_none_iff {text : String} {items : List Json} (filled : isBlankText text = false)
    (list : Json.ofText? Json.nestingLimit text = some (.array items)) :
    readScript? text = none ↔ ∃ item ∈ items, (fault? item).isSome := by
  simp only [readScript?, filled, list, Bool.false_eq_true, ↓reduceIte, mapM_eq_none_iff]
  refine exists_congr fun item => and_congr_right fun _ => ?_
  rw [Option.isSome_iff_ne_none, ne_eq, fault?_eq_none_iff, ← Option.isSome_iff_exists, Option.not_isSome_iff_eq_none]

end Edit

end InspectionForms
