import InspectionForms.Proofs.JsonSyntax

namespace InspectionForms

namespace Token

variable {tokens : List Token} {token : Token} {c : Char} {gap cs rest : List Char}

theorem spelling_of_mark (isMark : ofPunctuation? c = some token) : token.spelling = [c] := by
  unfold ofPunctuation? at isMark
  split at isMark <;> cases isMark <;> rfl

/-- A mark is written in one way. -/
theorem WrittenAs.eq_of_mark (h : token.WrittenAs cs) (isMark : ofPunctuation? c = some token) : cs = [c] := by
  cases h with
  | mark same => rw [← spelling_of_mark isMark, spelling_of_mark same]
  | _ =>
    unfold ofPunctuation? at isMark
    split at isMark <;> cases isMark

theorem Layout.mark (isMark : ofPunctuation? c = some token) (h : Layout tokens rest) :
    Layout (token :: tokens) (c :: rest) := by
  have noGap : ∀ d ∈ ([] : List Char), Scanner.isSpace d := by simp
  exact .next noGap (.mark isMark) h

theorem Layout.of_mark (isMark : ofPunctuation? c = some token) (h : Layout (token :: tokens) cs) :
    ∃ gap rest, cs = gap ++ c :: rest ∧ (∀ d ∈ gap, Scanner.isSpace d) ∧ Layout tokens rest := by
  cases h with
  | @next _ _ gap _ rest isGap written others =>
    obtain rfl := written.eq_of_mark isMark
    exact ⟨gap, rest, by simp, isGap, others⟩

theorem Layout.gap_behind (h : Layout tokens cs) (isGap : ∀ d ∈ gap, Scanner.isSpace d) :
    Layout tokens (cs ++ gap) := by
  simpa using h.append (.done isGap)

/-- Two runs of tokens are written one behind the other. -/
theorem Layout.split {front behind : List Token} (h : Layout (front ++ behind) cs) :
    ∃ xs ys, cs = xs ++ ys ∧ Layout front xs ∧ Layout behind ys := by
  induction front generalizing cs with
  | nil => exact ⟨[], cs, rfl, .done (by simp), h⟩
  | cons token front ih =>
    cases h with
    | @next _ _ gap written rest isGap isWritten others =>
      obtain ⟨xs, ys, rfl, first, second⟩ := ih others
      exact ⟨gap ++ (written ++ xs), ys, by simp, .next isGap isWritten first, second⟩

end Token

namespace Json

/-- A text that writes a value nested at most this deep, with any spaces and any spelling of its tokens. A number
too large for a double and half a pair of surrogates write nothing. -/
structure WrittenIn (limit : Nat) (json : Json) (text : String) : Prop where
  layout : Token.Layout json.tokens text.toList
  depth_le : json.depth ≤ limit

theorem writtenIn_iff {limit : Nat} {json : Json} {text : String} :
    json.WrittenIn limit text ↔ ofText? limit text = some json :=
  ⟨fun h => ofText?_eq_some_iff.mpr ⟨h.layout, h.depth_le⟩, fun h =>
    ⟨(ofText?_eq_some_iff.mp h).1, (ofText?_eq_some_iff.mp h).2⟩⟩

/-- Items and the commas between them are laid out as the texts of the items with commas between them. -/
theorem layout_items_iff {first : Json} {items : List Json} {cs : List Char} :
    Token.Layout (first.tokens ++ tokensOfItems items) cs ↔
      ∃ texts, List.Forall₂ (fun item text => Token.Layout item.tokens text) (first :: items) texts ∧
        cs = [','].intercalate texts := by
  induction items generalizing first cs with
  | nil =>
    rw [tokensOfItems, List.append_nil]
    constructor
    · exact fun layout => ⟨[cs], .cons layout .nil, by simp⟩
    · rintro ⟨_, written, rfl⟩
      obtain _ | ⟨layout, _ | _⟩ := written
      simpa using layout
  | cons item items ih =>
    rw [tokensOfItems]
    constructor
    · intro layout
      obtain ⟨xs, ys, rfl, front, behind⟩ := layout.split
      obtain ⟨gap, rest, rfl, isGap, others⟩ := behind.of_mark (c := ',') rfl
      obtain ⟨texts, written, rfl⟩ := ih.mp others
      refine ⟨(xs ++ gap) :: texts, .cons (front.gap_behind isGap) written, ?_⟩
      cases written
      simp
    · rintro ⟨_, written, rfl⟩
      obtain _ | ⟨layout, written⟩ := written
      have others := ih.mpr ⟨_, written, rfl⟩
      cases written
      simpa using layout.append (others.mark (c := ',') rfl)

end Json

/-- A list that is written with these texts: in brackets, with commas between them and spaces around. -/
def ListsTexts (texts : List String) (text : String) : Prop :=
  ∃ before inside behind, text.toList =
      before ++ '[' :: (inside ++ ([','].intercalate (texts.map String.toList) ++ ']' :: behind)) ∧
    ∀ c ∈ before ++ inside ++ behind, Scanner.isSpace c

theorem listsTexts_singleton (text : String) : ListsTexts [text] ("[" ++ text ++ "]") :=
  ⟨[], [], [], by simp, by simp⟩

namespace Json

variable {items : List Json} {texts : List String} {text : String}

/-- Texts of values that are written as a list are a text of the list of the values. -/
theorem layout_array_of_listsTexts
    (written : List.Forall₂ (fun item t => Token.Layout item.tokens t.toList) items texts)
    (h : ListsTexts texts text) : Token.Layout (Json.array items).tokens text.toList := by
  obtain ⟨before, inside, behind, spelled, isSpace⟩ := h
  simp only [List.mem_append] at isSpace
  have close : Token.Layout [.closeArray] (']' :: behind) :=
    (Token.Layout.done fun c member => isSpace c (.inr member)).mark rfl
  have opened {tokens : List Token} {cs : List Char} (layout : Token.Layout tokens cs) :
      Token.Layout (.openArray :: tokens) (before ++ '[' :: (inside ++ cs)) :=
    ((layout.gap fun c member => isSpace c (.inl (.inr member))).mark rfl).gap
      fun c member => isSpace c (.inl (.inl member))
  rw [spelled]
  cases written with
  | nil => exact opened close
  | @cons first t items texts layout others =>
    have listed : List.Forall₂ (fun item cs => Token.Layout item.tokens cs) (first :: items)
        ((t :: texts).map String.toList) :=
      List.forall₂_map_right_iff.mpr (.cons layout others)
    exact opened ((layout_items_iff.mpr ⟨_, listed, rfl⟩).append close)

/-- Every text of a list of values lists texts of the values. -/
theorem exists_listsTexts (h : Token.Layout (Json.array items).tokens text.toList) :
    ∃ texts, List.Forall₂ (fun item t => Token.Layout item.tokens t.toList) items texts ∧ ListsTexts texts text := by
  obtain ⟨tokens, spelled, shape⟩ : ∃ tokens, (Json.array items).tokens = .openArray :: (tokens ++ [.closeArray]) ∧
      (items = [] ∧ tokens = [] ∨
        ∃ first rest, items = first :: rest ∧ tokens = first.tokens ++ tokensOfItems rest) := by
    cases items with
    | nil => exact ⟨[], rfl, .inl ⟨rfl, rfl⟩⟩
    | cons first rest => exact ⟨_, rfl, .inr ⟨first, rest, rfl, rfl⟩⟩
  rw [spelled] at h
  obtain ⟨before, rest, begins, isBefore, layout⟩ := h.of_mark (c := '[') rfl
  obtain ⟨cs, ends, rfl, inner, closing⟩ := layout.split
  obtain ⟨gap, behind, rfl, isGap, ended⟩ := closing.of_mark (c := ']') rfl
  have isBehind : ∀ c ∈ behind, Scanner.isSpace c := by
    cases ended with
    | done isBehind => exact isBehind
  rcases shape with ⟨rfl, rfl⟩ | ⟨first, rest, rfl, rfl⟩
  · cases inner with
    | done isInside =>
      refine ⟨[], .nil, before, cs ++ gap, behind, by simpa using begins, ?_⟩
      simp only [List.mem_append]
      rintro c ((member | member | member) | member)
      · exact isBefore c member
      · exact isInside c member
      · exact isGap c member
      · exact isBehind c member
  · have padded : Token.Layout (first.tokens ++ tokensOfItems rest) (cs ++ gap) := inner.gap_behind isGap
    obtain ⟨texts, written, same⟩ := layout_items_iff.mp padded
    refine ⟨texts.map String.ofList, ?_, before, [], behind, ?_, ?_⟩
    · exact List.forall₂_map_right_iff.mpr (by simpa using written)
    · rw [begins, ← List.append_assoc cs, same]
      simp [Function.comp_def]
    · simp only [List.append_nil, List.mem_append]
      rintro c (member | member)
      · exact isBefore c member
      · exact isBehind c member

end Json

end InspectionForms
