import InspectionForms.Proofs.JsonDepth
import InspectionForms.Proofs.JsonText
import InspectionForms.Proofs.Targets
import Mathlib.Data.List.Forall2

namespace InspectionForms

/-- A list that is turned into another one entry by entry matches it entry by entry. -/
theorem mapM_eq_some_iff_forall₂ {α β : Type} {f : α → Option β} {xs : List α} {ys : List β} :
    xs.mapM f = some ys ↔ List.Forall₂ (fun x y => f x = some y) xs ys := by
  induction xs generalizing ys with
  | nil => simp [eq_comm]
  | cons x xs ih =>
    rw [List.mapM_cons, List.forall₂_cons_left_iff]
    constructor
    · intro h
      obtain ⟨y, first, h⟩ := Option.bind_eq_some_iff.mp h
      obtain ⟨rest, others, h⟩ := Option.bind_eq_some_iff.mp h
      exact ⟨y, rest, first, ih.mp others, (Option.some.inj h).symm⟩
    · rintro ⟨y, rest, first, others, rfl⟩
      simp [first, ih.mpr others]

theorem mem_of_mapM_eq_some {α β : Type} {f : α → Option β} {xs : List α} {ys : List β} (h : xs.mapM f = some ys)
    {y : β} (member : y ∈ ys) : ∃ x ∈ xs, f x = some y := by
  have matched := mapM_eq_some_iff_forall₂.mp h
  clear h
  induction matched with
  | nil => cases member
  | @cons x z xs ys first _ ih =>
    rcases List.mem_cons.mp member with rfl | later
    · exact ⟨x, List.mem_cons_self .., first⟩
    · obtain ⟨x, inside, found⟩ := ih later
      exact ⟨x, List.mem_cons_of_mem _ inside, found⟩

/-- A member of a list stands between others with other keys, if no key comes twice. -/
theorem exists_append_of_nodup_map {α κ : Type} {key : α → κ} {xs : List α} {x : α}
    (distinct : (xs.map key).Nodup) (member : x ∈ xs) :
    ∃ front behind, xs = front ++ x :: behind ∧ (∀ y ∈ front, key y ≠ key x) ∧ ∀ y ∈ behind, key y ≠ key x := by
  obtain ⟨front, behind, rfl⟩ := List.append_of_mem member
  rw [List.map_append, List.map_cons, List.nodup_append, List.nodup_cons] at distinct
  obtain ⟨-, ⟨notBehind, -⟩, apart⟩ := distinct
  refine ⟨front, behind, rfl, fun y inFront => ?_, fun y inBehind same => ?_⟩
  · exact apart (key y) (List.mem_map_of_mem inFront) (key x) List.mem_cons_self
  · exact notBehind (same ▸ List.mem_map_of_mem inBehind)

/-- A value in normal form that is nested at most this deep. -/
structure Json.Within (limit : Nat) (json : Json) : Prop where
  isNormal : json.IsNormal
  depth_le : json.depth ≤ limit

theorem mem_of_uniqueMember? {members : List (String × Json)} {name : String} {value : Json}
    (h : uniqueMember? members name = some value) : ∃ m ∈ members, m.2 = value := by
  unfold uniqueMember? at h
  split at h
  · next only =>
    have member : _ ∈ members.filter fun member => member.1 == name := only ▸ List.mem_cons_self ..
    exact ⟨_, (List.mem_filter.mp member).1, Option.some.inj h⟩
  · cases h

theorem isBlankText_compact_array (items : List Json) : isBlankText (Json.array items).compact = false := by
  rw [isBlankText, Json.toList_compact]
  cases items <;> rfl

namespace Edit

variable {limit : Nat}

theorem within_ofParts? {kind : EditKind} {parts : List Json} {edit : Edit}
    (shallow : ∀ part ∈ parts, part.depth ≤ limit) (h : ofParts? kind parts = some edit) :
    edit.value.Within limit := by
  have within {value : Json} (member : value ∈ parts) : value.normal.Within limit :=
    ⟨value.isNormal_normal, Nat.le_trans value.depth_normal_le (shallow value member)⟩
  unfold ofParts? at h
  split at h
  · obtain rfl := Option.some.inj h
    exact within (by simp)
  · obtain ⟨row, _, rfl⟩ := Option.map_eq_some_iff.mp h
    exact within (by simp)
  · obtain rfl := Option.some.inj h
    exact ⟨rfl, Nat.zero_le limit⟩
  · cases h

/-- An edit stands in one container, which is an object or a list. -/
theorem within_ofJson? {json : Json} {edit : Edit} (shallow : json.depth ≤ limit + 1)
    (h : ofJson? json = some edit) : edit.value.Within limit := by
  unfold ofJson? at h
  split at h
  · next members =>
    have inside := Json.depth_object_le_iff.mp shallow
    obtain ⟨name, _, h⟩ := Option.bind_eq_some_iff.mp h
    split at h
    · obtain ⟨kind, _, h⟩ := Option.bind_eq_some_iff.mp h
      obtain ⟨parts, found, h⟩ := Option.bind_eq_some_iff.mp h
      refine within_ofParts? (fun part member => ?_) h
      obtain ⟨_, _, unique⟩ := mem_of_mapM_eq_some found member
      obtain ⟨m, inMembers, rfl⟩ := mem_of_uniqueMember? unique
      exact inside m inMembers
    · cases h
  · next parts =>
    have inside := Json.depth_array_le_iff.mp shallow
    obtain ⟨kind, _, h⟩ := Option.bind_eq_some_iff.mp h
    exact within_ofParts? (fun part member => inside part (List.mem_cons_of_mem _ member)) h
  · cases h

/-- An edit of a script stands in two containers, so that two levels less are left for what it writes. -/
theorem within_of_readScript? {text : String} {edits : List Edit} (h : readScript? text = some edits)
    {edit : Edit} (member : edit ∈ edits) : edit.value.Within 125 := by
  unfold readScript? at h
  split at h
  · obtain rfl := Option.some.inj h
    cases member
  split at h
  · next items read =>
    have inside := Json.depth_array_le_iff.mp (Json.depth_le_of_ofText? read)
    obtain ⟨item, inItems, found⟩ := mem_of_mapM_eq_some h member
    exact within_ofJson? (inside item inItems) found
  · cases h

/-- A script that is the text of a list of values. -/
theorem readScript?_compact (items : List Json) :
    readScript? (Json.array items).compact =
      if (Json.array items).depth ≤ Json.nestingLimit then (Json.rereadItems? items).bind (List.mapM ofJson?)
      else none := by
  rw [readScript?, isBlankText_compact_array, if_neg Bool.false_ne_true, Json.ofText?_compact]
  by_cases shallow : (Json.array items).depth ≤ Json.nestingLimit
  · rw [if_pos shallow, if_pos shallow, Json.reread?]
    cases Json.rereadItems? items <;> rfl
  · rw [if_neg shallow, if_neg shallow]

end Edit

end InspectionForms
