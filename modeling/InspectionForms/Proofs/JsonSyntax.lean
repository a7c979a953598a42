import InspectionForms.Proofs.JsonDepth
import InspectionForms.Proofs.LayoutReading

namespace InspectionForms

/-- The tokens of items, each with a comma behind. -/
def listedItems (items : List Json) : List Token := items.flatMap fun item => item.tokens ++ [.comma]

/-- The tokens of members, each with a comma behind. -/
def listedMembers (members : List (String × Json)) : List Token :=
  members.flatMap fun m => .string m.1 :: .colon :: (m.2.tokens ++ [.comma])

namespace Json

theorem tokensOfItems_concat (first : Json) (items : List Json) (last : Json) :
    first.tokens ++ tokensOfItems (items ++ [last]) = listedItems (first :: items) ++ last.tokens := by
  induction items generalizing first with
  | nil => simp [tokensOfItems, listedItems]
  | cons item items ih =>
    rw [List.cons_append, tokensOfItems, ih]
    simp [listedItems]

theorem tokens_array_concat (items : List Json) (last : Json) :
    (Json.array (items ++ [last])).tokens = .openArray :: (listedItems items ++ last.tokens ++ [.closeArray]) := by
  cases items with
  | nil => simp [tokens, tokensOfItems, listedItems]
  | cons first items => rw [List.cons_append, tokens, tokensOfItems_concat]

theorem tokensOfMembers_concat (name : String) (value : Json) (members : List (String × Json))
    (last : String × Json) :
    .string name :: .colon :: (value.tokens ++ tokensOfMembers (members ++ [last])) =
      listedMembers ((name, value) :: members) ++ .string last.1 :: .colon :: last.2.tokens := by
  induction members generalizing name value with
  | nil => simp [tokensOfMembers, listedMembers]
  | cons member members ih =>
    have shifted := ih member.1 member.2
    rw [List.cons_append, tokensOfMembers, shifted]
    simp [listedMembers]

theorem tokens_object_concat (members : List (String × Json)) (last : String × Json) :
    (Json.object (members ++ [last])).tokens =
      .openObject :: (listedMembers members ++ .string last.1 :: .colon :: (last.2.tokens ++ [.closeObject])) := by
  cases members with
  | nil => simp [tokens, tokensOfMembers, listedMembers]
  | cons first members =>
    have shifted := tokensOfMembers_concat first.1 first.2 members last
    rw [List.cons_append, tokens]
    simpa using congrArg (· ++ [Token.closeObject]) shifted

end Json

/-- The tokens that have opened a container and filled it so far. -/
def OpenContainer.spelled : OpenContainer → List Token
  | array items => .openArray :: listedItems items.reverse
  | object members name => .openObject :: (listedMembers members.reverse ++ [.string name, .colon])

/-- The tokens of what stands in no container yet. -/
def Awaited.spelled : Awaited → List Token
  | .value => []
  | .valueOrClose => []
  | .name members _ => .openObject :: listedMembers members.reverse
  | .colon members key => .openObject :: (listedMembers members.reverse ++ [.string key])
  | .rest json => json.tokens

/-- An object that may close where a name may stand holds nothing. -/
def Awaited.ClosesEmpty : Awaited → Prop
  | .name members true => members = []
  | _ => True

namespace JsonBuilder

/-- The builder has come about from these tokens. -/
structure Spells (builder : JsonBuilder) (tokens : List Token) : Prop where
  spelled : builder.around.reverse.flatMap OpenContainer.spelled ++ builder.awaited.spelled = tokens
  closes : builder.awaited.ClosesEmpty

variable {limit : Nat} {builder next : JsonBuilder} {around : List OpenContainer} {token : Token} {read : List Token}

theorem spells_openValue (spelled : around.reverse.flatMap OpenContainer.spelled = read)
    (h : openValue limit around token = some next) : next.Spells (read ++ [token]) := by
  have scalar {value : Json} (written : value.tokens = [token]) (same : some ⟨around, .rest value⟩ = some next) :
      next.Spells (read ++ [token]) := by
    obtain rfl := Option.some.inj same
    exact ⟨by rw [spelled, Awaited.spelled, written], trivial⟩
  cases token with
  | null => exact scalar rfl h
  | bool value => exact scalar rfl h
  | number value => exact scalar rfl h
  | string value => exact scalar rfl h
  | openArray =>
    obtain ⟨_, same⟩ := Option.ite_none_right_eq_some.mp h
    obtain rfl := Option.some.inj same
    refine ⟨?_, trivial⟩
    simp [spelled, OpenContainer.spelled, Awaited.spelled, listedItems]
  | openObject =>
    obtain ⟨_, same⟩ := Option.ite_none_right_eq_some.mp h
    obtain rfl := Option.some.inj same
    refine ⟨?_, rfl⟩
    simp [spelled, Awaited.spelled, listedMembers]
  | _ => cases h

/-- Each token that is taken stands behind those taken before. -/
theorem Spells.step (h : builder.Spells read) (stepped : step limit builder token = some next) :
    next.Spells (read ++ [token]) := by
  obtain ⟨spelled, closes⟩ := h
  unfold JsonBuilder.step at stepped
  split at stepped
  -- A list closes that holds nothing.
  case h_1 around =>
    obtain rfl := Option.some.inj stepped
    refine ⟨?_, trivial⟩
    simp [← spelled, OpenContainer.spelled, Awaited.spelled, listedItems, Json.tokens]
  -- A value begins.
  case h_2 | h_3 =>
    refine spells_openValue ?_ stepped
    simpa [Awaited.spelled] using spelled
  -- A name is read.
  case h_4 =>
    obtain rfl := Option.some.inj stepped
    refine ⟨?_, trivial⟩
    simp [← spelled, Awaited.spelled]
  -- An object closes that holds nothing.
  case h_5 around members =>
    obtain rfl := Option.some.inj stepped
    obtain rfl : members = [] := closes
    refine ⟨?_, trivial⟩
    simp [← spelled, Awaited.spelled, listedMembers, Json.tokens]
  -- The object is put around the value that begins.
  case h_6 =>
    obtain rfl := Option.some.inj stepped
    refine ⟨?_, trivial⟩
    simp [← spelled, OpenContainer.spelled, Awaited.spelled]
  -- A value goes into its list, which stays open.
  case h_7 =>
    obtain rfl := Option.some.inj stepped
    refine ⟨?_, trivial⟩
    simp [← spelled, OpenContainer.spelled, Awaited.spelled, listedItems]
  -- The list closes with its last value.
  case h_8 =>
    obtain rfl := Option.some.inj stepped
    refine ⟨?_, trivial⟩
    simp [← spelled, OpenContainer.spelled, Awaited.spelled, Json.tokens_array_concat]
  -- A value goes into its object, which waits for a name.
  case h_9 =>
    obtain rfl := Option.some.inj stepped
    refine ⟨?_, trivial⟩
    simp [← spelled, OpenContainer.spelled, Awaited.spelled, listedMembers]
  -- The object closes with its last value.
  case h_10 =>
    obtain rfl := Option.some.inj stepped
    refine ⟨?_, trivial⟩
    simp [← spelled, OpenContainer.spelled, Awaited.spelled, Json.tokens_object_concat]
  case h_11 => cases stepped

theorem Spells.run {last : JsonBuilder} {tokens : List Token} (h : builder.Spells read)
    (ran : tokens.foldlM (JsonBuilder.step limit) builder = some last) : last.Spells (read ++ tokens) := by
  induction tokens generalizing builder read with
  | nil =>
    obtain rfl := Option.some.inj ran
    rwa [List.append_nil]
  | cons token tokens ih =>
    rw [List.foldlM_cons] at ran
    obtain ⟨next, stepped, ran⟩ := Option.bind_eq_some_iff.mp ran
    simpa using ih (h.step stepped) ran

end JsonBuilder

namespace Json

variable {limit : Nat} {json : Json}

theorem tokens_of_ofTokens? {tokens : List Token} (h : ofTokens? limit tokens = some json) :
    tokens = json.tokens := by
  obtain ⟨last, ran, finished⟩ := Option.bind_eq_some_iff.mp h
  have nothing : JsonBuilder.start.Spells [] := ⟨rfl, trivial⟩
  have spelled := (nothing.run ran).spelled
  unfold JsonBuilder.finish at finished
  split at finished
  · obtain rfl := Option.some.inj finished
    exact spelled.symm
  · cases finished

/-- A text is read as a value exactly if it lays out the value's tokens and the value is not nested too deep. -/
theorem ofText?_eq_some_iff {text : String} :
    ofText? limit text = some json ↔ Token.Layout json.tokens text.toList ∧ json.depth ≤ limit := by
  constructor
  · intro read
    obtain ⟨tokens, scanned, built⟩ := Option.bind_eq_some_iff.mp read
    obtain rfl := tokens_of_ofTokens? built
    exact ⟨Token.layout_of_scanTokens scanned, depth_le_of_ofText? read⟩
  · rintro ⟨layout, shallow⟩
    rw [ofText?_of_layout layout, if_pos shallow]

end Json

end InspectionForms
