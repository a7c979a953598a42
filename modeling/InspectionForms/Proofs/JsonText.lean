import InspectionForms.Proofs.JsonTokens

namespace InspectionForms.Json

/-- A list of tokens that a value has been turned into gives the value, exactly if that is not nested too deep. -/
theorem ofTokens?_tokens (limit : Nat) (json : Json) :
    ofTokens? limit json.tokens = if json.depth ≤ limit then some json else none := by
  have run := JsonBuilder.readOn_tokens json [] [] (Nat.zero_le limit)
  rw [List.append_nil, List.length_nil, Nat.add_zero] at run
  have read : json.tokens.foldlM (JsonBuilder.step limit) JsonBuilder.start =
      if json.depth ≤ limit then some ⟨[], .rest json⟩ else none := run
  rw [ofTokens?, read]
  split <;> rfl

theorem toList_compact (json : Json) : json.compact.toList = json.tokens.flatMap Token.spelling :=
  String.toList_ofList

/-- A written value is read as itself, but for numbers that read as other ones. Only depth can stop it. -/
theorem ofText?_compact (limit : Nat) (json : Json) :
    ofText? limit json.compact = if json.depth ≤ limit then json.reread? else none := by
  have separated := separated_tokens json Follows.nil
  rw [List.append_nil] at separated
  rw [ofText?, toList_compact, separated.scanTokens, mapM_reread_tokens]
  cases h : json.reread? with
  | none => simp
  | some again => simp [ofTokens?_tokens, depth_reread h]

theorem parse?_compact {json : Json} (isNormal : json.IsNormal) :
    parse? json.compact = if json.depth ≤ nestingLimit then json.reread? else none := by
  rw [parse?, ofText?_compact]
  split
  · cases h : json.reread? with
    | none => rfl
    | some again => exact congrArg some (isNormal_reread isNormal h)
  · rfl

end InspectionForms.Json
