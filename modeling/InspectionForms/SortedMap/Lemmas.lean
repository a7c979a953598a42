import InspectionForms.SortedMap

namespace InspectionForms

universe u v w
variable {κ : Type u} {ν : Type v} {μ : Type w} [Ord κ] [Std.LawfulEqOrd κ] [DecidableEq κ]

theorem lookupEntry_cons (key k : κ) (value : ν) (rest : List (κ × ν)) :
    lookupEntry key ((k, value) :: rest) = if key = k then some value else lookupEntry key rest := by
  simp only [lookupEntry, Std.LawfulEqOrd.compare_eq_iff_eq]

theorem mem_of_lookupEntry {key : κ} {value : ν} {entries : List (κ × ν)}
    (h : lookupEntry key entries = some value) : (key, value) ∈ entries := by
  induction entries with
  | nil => simp [lookupEntry] at h
  | cons head rest ih =>
    obtain ⟨k, v⟩ := head
    rw [lookupEntry_cons] at h
    split at h
    · next same => simp_all
    · exact List.mem_cons_of_mem _ (ih h)

theorem lookupEntry_map (f : ν → μ) (key : κ) (entries : List (κ × ν)) :
    lookupEntry key (entries.map fun e => (e.1, f e.2)) = (lookupEntry key entries).map f := by
  induction entries with
  | nil => rfl
  | cons head rest ih =>
    obtain ⟨k, v⟩ := head
    by_cases same : key = k <;> simp [lookupEntry_cons, same, ih]

theorem lookupEntry_insertEntry (key k : κ) (value : ν) (entries : List (κ × ν)) :
    lookupEntry key (insertEntry k value entries) = if key = k then some value else lookupEntry key entries := by
  induction entries with
  | nil => simp [insertEntry, lookupEntry_cons, lookupEntry]
  | cons head rest ih =>
    obtain ⟨other, v⟩ := head
    rw [insertEntry]
    split
    · rw [lookupEntry_cons]
    · next same =>
      obtain rfl := Std.LawfulEqOrd.eq_of_compare same
      by_cases h : key = k <;> simp [lookupEntry_cons, h]
    · next after =>
      have differ : k ≠ other := by
        rintro rfl
        simp [Std.ReflCmp.compare_self] at after
      by_cases h : key = k
      · subst h
        simp [lookupEntry_cons, ih, differ]
      · simp [lookupEntry_cons, ih, h]

theorem SortedEntries.lookupEntry_eq_some_iff {key : κ} {value : ν} {entries : List (κ × ν)}
    (h : SortedEntries entries) : lookupEntry key entries = some value ↔ (key, value) ∈ entries := by
  refine ⟨mem_of_lookupEntry, fun member => ?_⟩
  induction entries with
  | nil => cases member
  | cons head rest ih =>
    obtain ⟨k, v⟩ := head
    obtain ⟨above, tail⟩ := List.pairwise_cons.mp h
    rw [lookupEntry_cons]
    rcases List.mem_cons.mp member with same | later
    · obtain ⟨rfl, rfl⟩ := Prod.mk.inj same
      exact if_pos rfl
    · have differ : key ≠ k := by
        rintro rfl
        have := above _ later
        simp [Std.ReflCmp.compare_self] at this
      rw [if_neg differ]
      exact ih tail later

/-- Sorted entries are determined by their look-ups. -/
theorem SortedEntries.ext [Std.TransOrd κ] {a b : List (κ × ν)} (ha : SortedEntries a) (hb : SortedEntries b)
    (h : ∀ key, lookupEntry key a = lookupEntry key b) : a = b := by
  have members : ∀ e, e ∈ a ↔ e ∈ b := fun e => by
    rw [← ha.lookupEntry_eq_some_iff, ← hb.lookupEntry_eq_some_iff, h]
  induction a generalizing b with
  | nil =>
    cases b with
    | nil => rfl
    | cons e rest => exact absurd ((members e).mpr (List.mem_cons_self ..)) (by simp)
  | cons x xs ih =>
    cases b with
    | nil => exact absurd ((members x).mp (List.mem_cons_self ..)) (by simp)
    | cons y ys =>
      obtain ⟨aboveX, tailX⟩ := List.pairwise_cons.mp ha
      obtain ⟨aboveY, tailY⟩ := List.pairwise_cons.mp hb
      have sortedX : SortedEntries xs := tailX
      have sortedY : SortedEntries ys := tailY
      have same : x = y := by
        rcases List.mem_cons.mp ((members x).mp (List.mem_cons_self ..)) with same | inY
        · exact same
        rcases List.mem_cons.mp ((members y).mpr (List.mem_cons_self ..)) with same | inX
        · exact same.symm
        have := Std.TransCmp.lt_trans (aboveX y inX) (aboveY x inY)
        simp [Std.ReflCmp.compare_self] at this
      subst same
      congr 1
      have rest : ∀ e, e ∈ xs ↔ e ∈ ys := fun e => by
        have notHead : ∀ {zs : List (κ × ν)}, (∀ z ∈ zs, compare x.1 z.1 = .lt) → e ∈ zs → e ≠ x := by
          rintro zs above inZs rfl
          have := above _ inZs
          simp [Std.ReflCmp.compare_self] at this
        have := members e
        simp only [List.mem_cons] at this
        exact ⟨fun inXs => (this.mp (.inr inXs)).resolve_left (notHead aboveX inXs),
          fun inYs => (this.mpr (.inr inYs)).resolve_left (notHead aboveY inYs)⟩
      refine ih sortedX sortedY (fun key => Option.ext fun value => ?_) rest
      rw [sortedX.lookupEntry_eq_some_iff, sortedY.lookupEntry_eq_some_iff]
      exact rest _

namespace SortedMap

theorem get?_empty {α : Type u} {β : Type v} [Ord α] (key : α) : (∅ : SortedMap α β).get? key = none := rfl

theorem get?_insert [Std.TransOrd κ] (m : SortedMap κ ν) (k key : κ) (value : ν) :
    (m.insert k value).get? key = if key = k then some value else m.get? key :=
  lookupEntry_insertEntry key k value m.entries

theorem get?_alter [Std.TransOrd κ] (m : SortedMap κ ν) (k key : κ) (f : Option ν → ν) :
    (m.alter k f).get? key = if key = k then some (f (m.get? k)) else m.get? key :=
  get?_insert m k key _

theorem get?_map (f : ν → μ) (m : SortedMap κ ν) (key : κ) : (m.map f).get? key = (m.get? key).map f :=
  lookupEntry_map f key m.entries

theorem get?_eq_some_iff (m : SortedMap κ ν) {key : κ} {value : ν} :
    m.get? key = some value ↔ (key, value) ∈ m.entries :=
  m.sorted.lookupEntry_eq_some_iff

/-- Maps with the same look-ups are the same map. -/
theorem ext_get? [Std.TransOrd κ] {a b : SortedMap κ ν} (h : ∀ key, a.get? key = b.get? key) : a = b := by
  obtain ⟨entriesA, sortedA⟩ := a
  obtain ⟨entriesB, sortedB⟩ := b
  obtain rfl : entriesA = entriesB := sortedA.ext sortedB h
  rfl

section Insert
variable [Std.TransOrd κ] (m : SortedMap κ ν)

/-- Two changes of values commute unless they meet under one key and do not commute there. -/
theorem alter_comm {k l : κ} {f g : Option ν → ν}
    (commute : k = l → ∀ old, g (some (f old)) = f (some (g old))) :
    (m.alter k f).alter l g = (m.alter l g).alter k f := by
  refine ext_get? fun key => ?_
  simp only [get?_alter]
  by_cases same : k = l
  · subst same
    by_cases atKey : key = k
    · simp only [atKey, if_true, commute rfl]
    · simp only [atKey, if_false]
  · have other : l ≠ k := Ne.symm same
    by_cases atFirst : key = k
    · subst atFirst
      simp only [same, other, if_true, if_false]
    · simp only [atFirst, same, other, if_false]

/-- A change that does not look at what an earlier one has made hides it. -/
theorem alter_alter {k : κ} {f g : Option ν → ν} (hides : ∀ old, g (some (f old)) = g old) :
    (m.alter k f).alter k g = m.alter k g := by
  refine ext_get? fun key => ?_
  simp only [get?_alter]
  by_cases atKey : key = k
  · simp only [atKey, if_true, hides]
  · simp only [atKey, if_false]

theorem insert_comm {k l : κ} (differ : k ≠ l) (value other : ν) :
    (m.insert k value).insert l other = (m.insert l other).insert k value :=
  m.alter_comm (f := fun _ => value) (g := fun _ => other) fun same => absurd same differ

theorem insert_insert (k : κ) (value other : ν) : (m.insert k value).insert k other = m.insert k other :=
  m.alter_alter (f := fun _ => value) (g := fun _ => other) fun _ => rfl

end Insert

end SortedMap

end InspectionForms
