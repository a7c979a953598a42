import InspectionForms.SortedMap.Lemmas

namespace InspectionForms

universe u v w
variable {κ : Type u} {ν : Type v} {μ : Type w} [Ord κ] [Std.LawfulEqOrd κ] [DecidableEq κ]

theorem lookupEntry_eq_none_iff {key : κ} {entries : List (κ × ν)} :
    lookupEntry key entries = none ↔ key ∉ entries.map Prod.fst := by
  induction entries with
  | nil => simp [lookupEntry]
  | cons head rest ih =>
    obtain ⟨k, v⟩ := head
    by_cases same : key = k <;> simp [lookupEntry_cons, same, ih]

/-- Names given to keys one to one can be looked up in place of the keys. -/
theorem lookupEntry_mapKeys {κ' : Type w} [Ord κ'] [Std.LawfulEqOrd κ'] [DecidableEq κ'] {name : κ → κ'}
    (injective : ∀ a b, name a = name b → a = b) (key : κ) (entries : List (κ × ν)) :
    lookupEntry (name key) (entries.map fun e => (name e.1, e.2)) = lookupEntry key entries := by
  induction entries with
  | nil => rfl
  | cons head rest ih =>
    obtain ⟨k, v⟩ := head
    by_cases same : key = k
    · simp [lookupEntry_cons, same]
    · have differ : name key ≠ name k := fun h => same (injective _ _ h)
      simp [lookupEntry_cons, same, differ, ih]

theorem lookupEntry_append (key : κ) (front behind : List (κ × ν)) :
    lookupEntry key (front ++ behind) = (lookupEntry key front).or (lookupEntry key behind) := by
  induction front with
  | nil => rfl
  | cons head front ih =>
    obtain ⟨k, v⟩ := head
    by_cases same : key = k <;> simp [lookupEntry_cons, same, ih]

theorem lookupEntry_filter {p : κ → Bool} {key : κ} (keeps : p key) (entries : List (κ × ν)) :
    lookupEntry key (entries.filter fun e => p e.1) = lookupEntry key entries := by
  induction entries with
  | nil => rfl
  | cons head rest ih =>
    obtain ⟨k, v⟩ := head
    by_cases same : key = k
    · subst same
      simp [keeps, lookupEntry_cons]
    · rw [List.filter_cons, lookupEntry_cons, if_neg same, ← ih]
      split
      · rw [lookupEntry_cons, if_neg same]
      · rfl

/-- A key is looked up in entries of which each depends on its key. -/
theorem lookupEntry_map_withKey (f : κ → ν → μ) (key : κ) (entries : List (κ × ν)) :
    lookupEntry key (entries.map fun e => (e.1, f e.1 e.2)) = (lookupEntry key entries).map (f key) := by
  induction entries with
  | nil => rfl
  | cons head rest ih =>
    obtain ⟨k, v⟩ := head
    by_cases same : key = k
    · subst same
      simp [lookupEntry_cons]
    · simp [lookupEntry_cons, same, ih]

omit [Std.LawfulEqOrd κ] [DecidableEq κ] in
theorem sortedEntries_iff_keys {entries : List (κ × ν)} :
    SortedEntries entries ↔ (entries.map Prod.fst).Pairwise fun a b => compare a b = .lt := by
  rw [SortedEntries, List.pairwise_map]

omit [DecidableEq κ] in
theorem SortedEntries.nodup_keys {entries : List (κ × ν)} (h : SortedEntries entries) :
    (entries.map Prod.fst).Nodup := by
  rw [List.Nodup, List.pairwise_map]
  refine List.Pairwise.imp (fun {a b} before same => ?_) h
  rw [same] at before
  simp [Std.ReflCmp.compare_self] at before

namespace SortedMap

omit [DecidableEq κ] in
theorem nodup_keys (m : SortedMap κ ν) : (m.entries.map Prod.fst).Nodup := m.sorted.nodup_keys

section Insert
variable [Std.TransOrd κ]

omit [Std.LawfulEqOrd κ] [DecidableEq κ] in
theorem mem_insertMany {m : SortedMap κ ν} {entries : List (κ × ν)} {e : κ × ν}
    (h : e ∈ (m.insertMany entries).entries) : e ∈ entries ∨ e ∈ m.entries := by
  induction entries generalizing m with
  | nil => exact .inr h
  | cons head rest ih =>
    rcases ih h with inRest | inFirst
    · exact .inl (List.mem_cons_of_mem _ inRest)
    · rcases mem_insertEntry inFirst with rfl | old
      · exact .inl (List.mem_cons_self ..)
      · exact .inr old

/-- Of entries with different keys each one stands, and hides what has been there. -/
theorem get?_insertMany {entries : List (κ × ν)} (distinct : (entries.map Prod.fst).Nodup) (m : SortedMap κ ν)
    (key : κ) : (m.insertMany entries).get? key = (lookupEntry key entries).or (m.get? key) := by
  induction entries generalizing m with
  | nil => rfl
  | cons head rest ih =>
    obtain ⟨k, v⟩ := head
    obtain ⟨fresh, distinct⟩ := List.nodup_cons.mp distinct
    have later : (m.insertMany ((k, v) :: rest)).get? key =
        (lookupEntry key rest).or ((m.insert k v).get? key) := ih distinct (m.insert k v)
    rw [later, get?_insert, lookupEntry_cons]
    by_cases same : key = k
    · subst same
      simp [lookupEntry_eq_none_iff.mpr fresh]
    · simp [same]

theorem get?_ofList {entries : List (κ × ν)} (distinct : (entries.map Prod.fst).Nodup) (key : κ) :
    (ofList entries).get? key = lookupEntry key entries := by
  rw [ofList, get?_insertMany distinct]
  exact Option.or_none

theorem ofList_entries (m : SortedMap κ ν) : ofList m.entries = m :=
  ext_get? fun key => get?_ofList m.nodup_keys key

end Insert

end SortedMap

end InspectionForms
