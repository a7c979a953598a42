import InspectionForms.Proofs.JsonTree

namespace InspectionForms.Json

mutual

/-- What is read where a value has been written: each number as it reads back, if it does. -/
def reread? : Json → Option Json
  | .number value => (Number.ofChars? value.text).map .number
  | .array items => (rereadItems? items).map .array
  | .object members => (rereadMembers? members).map .object
  | scalar => some scalar

def rereadItems? : List Json → Option (List Json)
  | [] => some []
  | item :: rest => do return (← item.reread?) :: (← rereadItems? rest)

def rereadMembers? : List (String × Json) → Option (List (String × Json))
  | [] => some []
  | (name, value) :: rest => do return (name, ← value.reread?) :: (← rereadMembers? rest)

end

mutual

/-- The numbers in a value. -/
def numbers : Json → List Number
  | .number value => [value]
  | .array items => numbersOfItems items
  | .object members => numbersOfMembers members
  | _ => []

def numbersOfItems : List Json → List Number
  | [] => []
  | item :: rest => item.numbers ++ numbersOfItems rest

def numbersOfMembers : List (String × Json) → List Number
  | [] => []
  | (_, value) :: rest => value.numbers ++ numbersOfMembers rest

end

mutual

theorem reread?_eq_self_iff {json : Json} :
    json.reread? = some json ↔ ∀ n ∈ json.numbers, Number.ofChars? n.text = some n := by
  match json with
  | .null | .bool _ | .string _ => simp [reread?, numbers]
  | .number value => simp [reread?, numbers]
  | .array items => simp [reread?, numbers, rereadItems?_eq_self_iff]
  | .object members => simp [reread?, numbers, rereadMembers?_eq_self_iff]

theorem rereadItems?_eq_self_iff {items : List Json} :
    rereadItems? items = some items ↔ ∀ n ∈ numbersOfItems items, Number.ofChars? n.text = some n := by
  match items with
  | [] => simp [rereadItems?, numbersOfItems]
  | item :: items =>
    rw [numbersOfItems, List.forall_mem_append, ← reread?_eq_self_iff, ← rereadItems?_eq_self_iff]
    cases h : item.reread? <;> cases hs : rereadItems? items <;> simp [rereadItems?, h, hs]

theorem rereadMembers?_eq_self_iff {members : List (String × Json)} :
    rereadMembers? members = some members ↔
      ∀ n ∈ numbersOfMembers members, Number.ofChars? n.text = some n := by
  match members with
  | [] => simp [rereadMembers?, numbersOfMembers]
  | (name, value) :: members =>
    rw [numbersOfMembers, List.forall_mem_append, ← reread?_eq_self_iff, ← rereadMembers?_eq_self_iff]
    cases h : value.reread? <;> cases hs : rereadMembers? members <;> simp [rereadMembers?, h, hs]

end

mutual

theorem isSome_reread?_iff {json : Json} :
    json.reread?.isSome ↔ ∀ n ∈ json.numbers, (Number.ofChars? n.text).isSome := by
  match json with
  | .null | .bool _ | .string _ => simp [reread?, numbers]
  | .number value => simp [reread?, numbers]
  | .array items => simp [reread?, numbers, isSome_rereadItems?_iff]
  | .object members => simp [reread?, numbers, isSome_rereadMembers?_iff]

theorem isSome_rereadItems?_iff {items : List Json} :
    (rereadItems? items).isSome ↔ ∀ n ∈ numbersOfItems items, (Number.ofChars? n.text).isSome := by
  match items with
  | [] => simp [rereadItems?, numbersOfItems]
  | item :: items =>
    rw [numbersOfItems, List.forall_mem_append, ← isSome_reread?_iff, ← isSome_rereadItems?_iff]
    cases h : item.reread? <;> cases hs : rereadItems? items <;> simp [rereadItems?, h, hs]

theorem isSome_rereadMembers?_iff {members : List (String × Json)} :
    (rereadMembers? members).isSome ↔ ∀ n ∈ numbersOfMembers members, (Number.ofChars? n.text).isSome := by
  match members with
  | [] => simp [rereadMembers?, numbersOfMembers]
  | (name, value) :: members =>
    rw [numbersOfMembers, List.forall_mem_append, ← isSome_reread?_iff, ← isSome_rereadMembers?_iff]
    cases h : value.reread? <;> cases hs : rereadMembers? members <;> simp [rereadMembers?, h, hs]

end

mutual

theorem depth_reread {json again : Json} (h : json.reread? = some again) : again.depth = json.depth := by
  match json with
  | .null | .bool _ | .string _ =>
    cases h
    rfl
  | .number value =>
    obtain ⟨number, _, rfl⟩ := Option.map_eq_some_iff.mp h
    rfl
  | .array items =>
    obtain ⟨items, read, rfl⟩ := Option.map_eq_some_iff.mp h
    exact congrArg (· + 1) (depthOfItems_reread read)
  | .object members =>
    obtain ⟨members, read, rfl⟩ := Option.map_eq_some_iff.mp h
    exact congrArg (· + 1) (depthOfMembers_reread read)

theorem depthOfItems_reread {items again : List Json} (h : rereadItems? items = some again) :
    depthOfItems again = depthOfItems items := by
  match items with
  | [] =>
    cases h
    rfl
  | item :: items =>
    obtain ⟨first, readFirst, h⟩ := Option.bind_eq_some_iff.mp h
    obtain ⟨rest, readRest, h⟩ := Option.bind_eq_some_iff.mp h
    cases h
    simp only [depthOfItems, depth_reread readFirst, depthOfItems_reread readRest]

theorem depthOfMembers_reread {members again : List (String × Json)} (h : rereadMembers? members = some again) :
    depthOfMembers again = depthOfMembers members := by
  match members with
  | [] =>
    cases h
    rfl
  | (name, value) :: members =>
    obtain ⟨first, readFirst, h⟩ := Option.bind_eq_some_iff.mp h
    obtain ⟨rest, readRest, h⟩ := Option.bind_eq_some_iff.mp h
    cases h
    simp only [depthOfMembers, depth_reread readFirst, depthOfMembers_reread readRest]

end

mutual

theorem isNormal_reread {json again : Json} (isNormal : json.IsNormal) (h : json.reread? = some again) :
    again.IsNormal := by
  match json with
  | .null | .bool _ | .string _ =>
    cases h
    rfl
  | .number value =>
    obtain ⟨number, _, rfl⟩ := Option.map_eq_some_iff.mp h
    rfl
  | .array items =>
    obtain ⟨items, read, rfl⟩ := Option.map_eq_some_iff.mp h
    exact isNormal_array_iff.mpr (isNormal_rereadItems (isNormal_array_iff.mp isNormal) read)
  | .object members =>
    obtain ⟨members, read, rfl⟩ := Option.map_eq_some_iff.mp h
    obtain ⟨sorted, values⟩ := isNormal_object_iff.mp isNormal
    obtain ⟨names, normal⟩ := isNormal_rereadMembers values read
    refine isNormal_object_iff.mpr ⟨?_, normal⟩
    rw [sortedEntries_iff_keys, names]
    exact sortedEntries_iff_keys.mp sorted

theorem isNormal_rereadItems {items again : List Json} (isNormal : ∀ item ∈ items, item.IsNormal)
    (h : rereadItems? items = some again) : ∀ item ∈ again, item.IsNormal := by
  match items with
  | [] =>
    cases h
    exact isNormal
  | item :: items =>
    obtain ⟨first, readFirst, h⟩ := Option.bind_eq_some_iff.mp h
    obtain ⟨rest, readRest, h⟩ := Option.bind_eq_some_iff.mp h
    cases h
    obtain ⟨ofFirst, ofRest⟩ := List.forall_mem_cons.mp isNormal
    exact List.forall_mem_cons.mpr ⟨isNormal_reread ofFirst readFirst, isNormal_rereadItems ofRest readRest⟩

/-- Rereading keeps the names of members, and values stay in normal form. -/
theorem isNormal_rereadMembers {members again : List (String × Json)} (isNormal : ∀ m ∈ members, m.2.IsNormal)
    (h : rereadMembers? members = some again) :
    again.map Prod.fst = members.map Prod.fst ∧ ∀ m ∈ again, m.2.IsNormal := by
  match members with
  | [] =>
    cases h
    exact ⟨rfl, isNormal⟩
  | (name, value) :: members =>
    obtain ⟨first, readFirst, h⟩ := Option.bind_eq_some_iff.mp h
    obtain ⟨rest, readRest, h⟩ := Option.bind_eq_some_iff.mp h
    cases h
    obtain ⟨ofFirst, ofRest⟩ := List.forall_mem_cons.mp isNormal
    obtain ⟨names, values⟩ := isNormal_rereadMembers ofRest readRest
    exact ⟨congrArg (name :: ·) names, List.forall_mem_cons.mpr ⟨isNormal_reread ofFirst readFirst, values⟩⟩

end

end InspectionForms.Json
