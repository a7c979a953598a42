import InspectionForms.Json.Basic
import InspectionForms.Proofs.SortedMapEntries

namespace InspectionForms.Json

/-- What holds of a container whenever it holds of all that stands in it holds of every value. -/
@[elab_as_elim]
theorem containerInduction {P : Json → Prop} (null : P .null) (bool : ∀ value, P (.bool value))
    (number : ∀ value, P (.number value)) (string : ∀ value, P (.string value))
    (array : ∀ items : List Json, (∀ item ∈ items, P item) → P (.array items))
    (object : ∀ members : List (String × Json), (∀ m ∈ members, P m.2) → P (.object members)) (json : Json) :
    P json :=
  match json with
  | .null => null
  | .bool value => bool value
  | .number value => number value
  | .string value => string value
  | .array items => array items fun item _ => containerInduction null bool number string array object item
  | .object members => object members fun m _ => containerInduction null bool number string array object m.2
termination_by sizeOf json
decreasing_by
  · next member =>
    have := List.sizeOf_lt_of_mem member
    simp only [Json.array.sizeOf_spec]
    omega
  · next member =>
    have := List.sizeOf_lt_of_mem member
    have : sizeOf m.2 < sizeOf m := by
      obtain ⟨name, value⟩ := m
      simp only [Prod.mk.sizeOf_spec]
      omega
    simp only [Json.object.sizeOf_spec]
    omega

theorem depthOfItems_le_iff {items : List Json} {n : Nat} :
    depthOfItems items ≤ n ↔ ∀ item ∈ items, item.depth ≤ n := by
  induction items with
  | nil => simp [depthOfItems]
  | cons item rest ih => rw [depthOfItems, Nat.max_le, ih, List.forall_mem_cons]

theorem depthOfMembers_le_iff {members : List (String × Json)} {n : Nat} :
    depthOfMembers members ≤ n ↔ ∀ m ∈ members, m.2.depth ≤ n := by
  induction members with
  | nil => simp [depthOfMembers]
  | cons m rest ih =>
    obtain ⟨name, value⟩ := m
    rw [depthOfMembers, Nat.max_le, ih, List.forall_mem_cons]

theorem depthOfItems_reverse (items : List Json) : depthOfItems items.reverse = depthOfItems items := by
  refine Nat.le_antisymm (depthOfItems_le_iff.mpr fun item member => ?_)
    (depthOfItems_le_iff.mpr fun item member => ?_)
  · exact depthOfItems_le_iff.mp (Nat.le_refl _) item (List.mem_reverse.mp member)
  · exact depthOfItems_le_iff.mp (Nat.le_refl _) item (List.mem_reverse.mpr member)

theorem depthOfMembers_reverse (members : List (String × Json)) :
    depthOfMembers members.reverse = depthOfMembers members := by
  refine Nat.le_antisymm (depthOfMembers_le_iff.mpr fun m member => ?_)
    (depthOfMembers_le_iff.mpr fun m member => ?_)
  · exact depthOfMembers_le_iff.mp (Nat.le_refl _) m (List.mem_reverse.mp member)
  · exact depthOfMembers_le_iff.mp (Nat.le_refl _) m (List.mem_reverse.mpr member)

theorem depth_array_le_iff {items : List Json} {n : Nat} :
    (Json.array items).depth ≤ n + 1 ↔ ∀ item ∈ items, item.depth ≤ n := by
  rw [depth, Nat.add_le_add_iff_right, depthOfItems_le_iff]

theorem depth_object_le_iff {members : List (String × Json)} {n : Nat} :
    (Json.object members).depth ≤ n + 1 ↔ ∀ m ∈ members, m.2.depth ≤ n := by
  rw [depth, Nat.add_le_add_iff_right, depthOfMembers_le_iff]

theorem depth_ofMap_le_iff {m : SortedMap String Json} {n : Nat} :
    (ofMap m).depth ≤ n + 1 ↔ ∀ name value, m.get? name = some value → value.depth ≤ n := by
  rw [ofMap, depth_object_le_iff]
  simp only [SortedMap.get?_eq_some_iff, Prod.forall]

/-- Whether the names of every object increase. -/
def IsNormal (json : Json) : Prop := json.normal = json

theorem normalItems_eq_map (items : List Json) : normalItems items = items.map normal := by
  induction items with
  | nil => rfl
  | cons item rest ih => simp [normalItems, ih]

theorem normalMembers_eq_map (members : List (String × Json)) :
    normalMembers members = members.map fun m => (m.1, m.2.normal) := by
  induction members with
  | nil => rfl
  | cons m rest ih => simp [normalMembers, ih]

theorem normal_array (items : List Json) : (Json.array items).normal = .array (items.map normal) := by
  rw [normal, normalItems_eq_map]

theorem normal_object (members : List (String × Json)) :
    (Json.object members).normal = ofMembers (members.map fun m => (m.1, m.2.normal)) := by
  rw [normal, normalMembers_eq_map]

/-- Members of an object in normal form come from the object. -/
theorem mem_entries_normal {members : List (String × Json)} {m : String × Json}
    (h : m ∈ (SortedMap.ofList (members.map fun m => (m.1, m.2.normal))).entries) :
    ∃ old ∈ members, (old.1, old.2.normal) = m := by
  rcases SortedMap.mem_insertMany h with listed | old
  · exact List.mem_map.mp listed
  · cases old

theorem normal_ofMap (m : SortedMap String Json) : (ofMap m).normal = ofMap (m.map normal) := by
  rw [ofMap, normal_object, ofMembers]
  exact congrArg ofMap (SortedMap.ofList_entries (m.map normal))

theorem isNormal_array_iff {items : List Json} :
    (Json.array items).IsNormal ↔ ∀ item ∈ items, item.IsNormal := by
  rw [IsNormal, normal_array, Json.array.injEq]
  simpa [IsNormal] using List.map_inj_left (f := normal) (g := id) (l := items)

theorem isNormal_ofMap {m : SortedMap String Json} (h : ∀ name value, m.get? name = some value → value.IsNormal) :
    (ofMap m).IsNormal := by
  rw [IsNormal, normal_ofMap]
  refine congrArg ofMap (SortedMap.ext_get? fun name => ?_)
  rw [SortedMap.get?_map]
  cases found : m.get? name with
  | none => rfl
  | some value => exact congrArg some (h name value found)

theorem isNormal_normal (json : Json) : json.normal.IsNormal := by
  induction json using containerInduction with
  | array items ih =>
    rw [normal_array]
    refine isNormal_array_iff.mpr fun item member => ?_
    obtain ⟨old, inItems, rfl⟩ := List.mem_map.mp member
    exact ih old inItems
  | object members ih =>
    rw [normal_object]
    refine isNormal_ofMap fun name value found => ?_
    obtain ⟨old, inMembers, same⟩ := mem_entries_normal ((SortedMap.get?_eq_some_iff _).mp found)
    obtain ⟨rfl, rfl⟩ := Prod.mk.inj same
    exact ih old inMembers
  | _ => rfl

theorem isNormal_object_iff {members : List (String × Json)} :
    (Json.object members).IsNormal ↔ SortedEntries members ∧ ∀ m ∈ members, m.2.IsNormal := by
  constructor
  · intro h
    rw [IsNormal, normal_object, ofMembers, ofMap, Json.object.injEq] at h
    refine ⟨h ▸ SortedMap.sorted _, fun m member => ?_⟩
    rw [← h] at member
    obtain ⟨old, _, rfl⟩ := mem_entries_normal member
    exact isNormal_normal old.2
  · rintro ⟨sorted, values⟩
    refine isNormal_ofMap (m := ⟨members, sorted⟩) fun name value found => ?_
    exact values _ ((SortedMap.get?_eq_some_iff _).mp found)

/-- A value in normal form is nested no deeper. -/
theorem depth_normal_le (json : Json) : json.normal.depth ≤ json.depth := by
  induction json using containerInduction with
  | array items ih =>
    rw [normal_array, show (Json.array items).depth = depthOfItems items + 1 from rfl, depth_array_le_iff]
    intro item member
    obtain ⟨old, inItems, rfl⟩ := List.mem_map.mp member
    exact Nat.le_trans (ih old inItems) (depthOfItems_le_iff.mp (Nat.le_refl _) old inItems)
  | object members ih =>
    rw [normal_object, show (Json.object members).depth = depthOfMembers members + 1 from rfl, ofMembers,
      depth_ofMap_le_iff]
    intro name value found
    obtain ⟨old, inMembers, same⟩ := mem_entries_normal ((SortedMap.get?_eq_some_iff _).mp found)
    obtain ⟨rfl, rfl⟩ := Prod.mk.inj same
    exact Nat.le_trans (ih old inMembers) (depthOfMembers_le_iff.mp (Nat.le_refl _) old inMembers)
  | _ => exact Nat.le_refl _

end InspectionForms.Json
