import InspectionForms.Json.Reader
import InspectionForms.Proofs.JsonTree

namespace InspectionForms

/-- How deep what a container holds so far is nested. -/
def OpenContainer.heldDepth : OpenContainer → Nat
  | array items => Json.depthOfItems items
  | object members _ => Json.depthOfMembers members

/-- Each container leaves room for those around it. -/
def FitAround (limit : Nat) : List OpenContainer → Prop
  | [] => True
  | container :: around => container.heldDepth + (around.length + 1) ≤ limit ∧ FitAround limit around

/-- What has been read and stands in no container yet leaves room for those around it. -/
def Awaited.Fits (limit height : Nat) : Awaited → Prop
  | .value => True
  | .valueOrClose => True
  | .name members _ => Json.depthOfMembers members + (height + 1) ≤ limit
  | .colon members _ => Json.depthOfMembers members + (height + 1) ≤ limit
  | .rest json => json.depth + height ≤ limit

/-- All that has been read so far is nested within the limit. -/
structure JsonBuilder.Fits (limit : Nat) (builder : JsonBuilder) : Prop where
  around : FitAround limit builder.around
  awaited : builder.awaited.Fits limit builder.around.length

theorem FitAround.length_le {limit : Nat} {around : List OpenContainer} (h : FitAround limit around) :
    around.length ≤ limit := by
  cases around with
  | nil => exact Nat.zero_le _
  | cons container around =>
    have room := h.1
    rw [List.length_cons]
    omega

namespace JsonBuilder

theorem Fits.start (limit : Nat) : Fits limit JsonBuilder.start := ⟨trivial, trivial⟩

theorem fits_openValue {limit : Nat} {around : List OpenContainer} (fits : FitAround limit around)
    {token : Token} {next : JsonBuilder} (h : openValue limit around token = some next) : next.Fits limit := by
  have height := fits.length_le
  have scalar {value : Json} (flat : value.depth = 0) (same : some ⟨around, .rest value⟩ = some next) :
      next.Fits limit := by
    obtain rfl := Option.some.inj same
    refine ⟨fits, ?_⟩
    simp only [Awaited.Fits]
    omega
  cases token with
  | null => exact scalar rfl h
  | bool value => exact scalar rfl h
  | number value => exact scalar rfl h
  | string value => exact scalar rfl h
  | openArray =>
    obtain ⟨room, h⟩ := Option.ite_none_right_eq_some.mp h
    obtain rfl := Option.some.inj h
    refine ⟨⟨?_, fits⟩, trivial⟩
    simp only [OpenContainer.heldDepth, Json.depthOfItems]
    omega
  | openObject =>
    obtain ⟨room, h⟩ := Option.ite_none_right_eq_some.mp h
    obtain rfl := Option.some.inj h
    refine ⟨fits, ?_⟩
    simp only [Awaited.Fits, Json.depthOfMembers]
    omega
  | _ => cases h

/-- Reading one more token keeps the limit: only an opened container adds to the depth, and it is checked. -/
theorem Fits.step {limit : Nat} {builder next : JsonBuilder} {token : Token} (fits : builder.Fits limit)
    (h : step limit builder token = some next) : next.Fits limit := by
  obtain ⟨outside, inside⟩ := fits
  unfold JsonBuilder.step at h
  split at h
  -- A list closes that holds nothing.
  case h_1 around =>
    obtain rfl := Option.some.inj h
    have height := outside.2.length_le
    have room := outside.1
    refine ⟨outside.2, ?_⟩
    simp only [Awaited.Fits, Json.depth, OpenContainer.heldDepth] at room ⊢
    omega
  -- A value begins, which is where the limit is checked.
  case h_2 | h_3 => exact fits_openValue outside h
  -- A name is read; what the object holds already stays.
  case h_4 =>
    obtain rfl := Option.some.inj h
    exact ⟨outside, inside⟩
  -- An object closes that holds nothing.
  case h_5 =>
    obtain rfl := Option.some.inj h
    refine ⟨outside, ?_⟩
    simp only [Awaited.Fits, Json.depth, Json.depthOfMembers] at inside ⊢
    omega
  -- The object is put around the value that begins.
  case h_6 =>
    obtain rfl := Option.some.inj h
    exact ⟨⟨inside, outside⟩, trivial⟩
  -- A value goes into its list, which stays open.
  case h_7 =>
    obtain rfl := Option.some.inj h
    have room := outside.1
    refine ⟨⟨?_, outside.2⟩, trivial⟩
    simp only [Awaited.Fits, OpenContainer.heldDepth, Json.depthOfItems, List.length_cons] at inside room ⊢
    omega
  -- The list closes with its last value, and its own depth takes the place that it had among the containers.
  case h_8 =>
    obtain rfl := Option.some.inj h
    have room := outside.1
    refine ⟨outside.2, ?_⟩
    simp only [Awaited.Fits, OpenContainer.heldDepth, Json.depth, Json.depthOfItems_reverse, Json.depthOfItems,
      List.length_cons] at inside room ⊢
    omega
  -- A value goes into its object, which waits for a name.
  case h_9 =>
    obtain rfl := Option.some.inj h
    have room := outside.1
    refine ⟨outside.2, ?_⟩
    simp only [Awaited.Fits, OpenContainer.heldDepth, Json.depthOfMembers, List.length_cons] at inside room ⊢
    omega
  -- The object closes with its last value.
  case h_10 =>
    obtain rfl := Option.some.inj h
    have room := outside.1
    refine ⟨outside.2, ?_⟩
    simp only [Awaited.Fits, OpenContainer.heldDepth, Json.depth, Json.depthOfMembers_reverse, Json.depthOfMembers,
      List.length_cons] at inside room ⊢
    omega
  case h_11 => cases h

theorem Fits.run {limit : Nat} {builder last : JsonBuilder} {tokens : List Token} (fits : builder.Fits limit)
    (h : tokens.foldlM (JsonBuilder.step limit) builder = some last) : last.Fits limit := by
  induction tokens generalizing builder with
  | nil =>
    obtain rfl := Option.some.inj h
    exact fits
  | cons token rest ih =>
    rw [List.foldlM_cons] at h
    obtain ⟨next, first, h⟩ := Option.bind_eq_some_iff.mp h
    exact ih (fits.step first) h

end JsonBuilder

namespace Json

/-- What has been read from a text is nested within the limit. -/
theorem depth_le_of_ofText? {limit : Nat} {text : String} {json : Json} (h : ofText? limit text = some json) :
    json.depth ≤ limit := by
  obtain ⟨tokens, _, h⟩ := Option.bind_eq_some_iff.mp h
  obtain ⟨last, run, finished⟩ := Option.bind_eq_some_iff.mp h
  have fits := (JsonBuilder.Fits.start limit).run run
  unfold JsonBuilder.finish at finished
  split at finished
  · obtain rfl := Option.some.inj finished
    exact fits.awaited
  · cases finished

end Json

end InspectionForms
