import InspectionForms.Proofs.JsonText

namespace InspectionForms

theorem NumberLiteral.Written.isWordChar {l : NumberLiteral} {cs : List Char} (h : l.Written cs) {c : Char}
    (member : c ∈ cs) : Scanner.isWordChar c := by
  have digit {digits : List Char} (isDigits : IsDigits digits) (member : c ∈ digits) : Scanner.isWordChar c :=
    Token.isWordChar_of_isNumeralChar (isNumeralChar_of_isDigit (isDigits.digits c member))
  have mark (isMark : c ∈ ['-', '+', '.', 'e', 'E']) : Scanner.isWordChar c := by
    have all : ['-', '+', '.', 'e', 'E'].all Scanner.isWordChar := by decide
    exact List.all_eq_true.mp all c isMark
  cases h with
  | @intro whole f e fraction exponent negative isDigits noZero hf he =>
    simp only [List.mem_append] at member
    rcases member with member | member | member | member
    · exact mark (by cases negative <;> simp_all)
    · exact digit isDigits member
    · cases hf with
      | absent => cases member
      | digits isDigits => exact (List.mem_cons.mp member).elim (fun h => mark (by simp [h])) (digit isDigits)
    · cases he with
      | absent => cases member
      | unsigned isMark isDigits =>
        exact (List.mem_cons.mp member).elim (fun h => mark (by grind)) (digit isDigits)
      | plus isMark isDigits | minus isMark isDigits =>
        simp only [List.mem_cons] at member
        rcases member with same | same | member
        · exact mark (by grind)
        · exact mark (by simp [same])
        · exact digit isDigits member

namespace Scanner

theorem isWordChar_of_isSpace {c : Char} (h : isSpace c) : isWordChar c = false := by simp [isWordChar, h]

theorem scanFrom_spaces {gap : List Char} (isGap : ∀ c ∈ gap, isSpace c) (tokens : List Token) (cs : List Char) :
    scanFrom tokens (gap ++ cs) = scanFrom tokens cs := by
  induction gap with
  | nil => rfl
  | cons c gap ih =>
    have passed : step ⟨tokens, .between⟩ c = some ⟨tokens, .between⟩ := by
      simp [step, stepBetween, isGap c (List.mem_cons_self ..)]
    rw [← ih fun d member => isGap d (List.mem_cons_of_mem _ member)]
    simp [scanFrom, passed]

end Scanner

namespace Token

/-- How a token may be written. A number may be any literal that stands for it. -/
inductive WrittenAs : Token → List Char → Prop
  | mark {token : Token} {c : Char} (isMark : ofPunctuation? c = some token) : WrittenAs token [c]
  | wordNull : WrittenAs null "null".toList
  | wordTrue : WrittenAs (bool true) "true".toList
  | wordFalse : WrittenAs (bool false) "false".toList
  | number {value : Number} {l : NumberLiteral} {cs : List Char} (written : l.Written cs)
    (stands : Number.ofLiteral? l = some value) : WrittenAs (number value) cs
  | string {value : String} {pieces : List (List Char)} (written : List.Forall₂ CharWritten value.toList pieces) :
    WrittenAs (string value) ('"' :: (pieces.flatten ++ ['"']))

theorem ofWord?_of_ofChars? {cs : List Char} {value : Number} (h : Number.ofChars? cs = some value) :
    ofWord? cs = some (number value) := by
  have keyword (word : List Char) (noNumber : Number.ofChars? word = none) : cs ≠ word := by
    rintro rfl
    rw [noNumber] at h
    cases h
  rw [ofWord?, if_neg (keyword _ (by decide)), if_neg (keyword _ (by decide)), if_neg (keyword _ (by decide)), h]
  rfl

/-- Where a token has been written it is read, if it does not run into the text behind. -/
theorem WrittenAs.scanFrom {token : Token} {cs rest : List Char} (h : token.WrittenAs cs)
    (ends : token.isWord → Scanner.EndsWord rest) (tokens : List Token) :
    Scanner.scanFrom tokens (cs ++ rest) = Scanner.scanFrom (token :: tokens) rest := by
  have keyword {token : Token} {word : List Char} (nonempty : word ≠ []) (isWord : word.all Scanner.isWordChar)
      (reads : ofWord? word = some token) (ends : Scanner.EndsWord rest) :
      Scanner.scanFrom tokens (word ++ rest) = Scanner.scanFrom (token :: tokens) rest := by
    rw [Scanner.scanFrom_word tokens nonempty (List.all_eq_true.mp isWord) ends, reads, Option.bind_some]
  cases h with
  | mark isMark => exact Scanner.scanFrom_punctuation isMark tokens rest
  | wordNull | wordTrue | wordFalse => exact keyword (by decide) (by decide) (by decide) (ends rfl)
  | @number value l cs written stands =>
    have reads : Number.ofChars? cs = some value := by rw [Number.ofChars?, written.ofChars?, Option.bind_some, stands]
    refine keyword ?_ (List.all_eq_true.mpr fun c member => written.isWordChar member) (ofWord?_of_ofChars? reads)
      (ends rfl)
    rintro rfl
    cases written.ofChars?
  | @string value pieces written =>
    simpa using Scanner.scanFrom_quoted written tokens rest

theorem WrittenAs.endsWord {token : Token} {cs : List Char} (h : token.WrittenAs cs) (noWord : token.isWord = false)
    (rest : List Char) : Scanner.EndsWord (cs ++ rest) := by
  intro c first
  cases h with
  | wordNull | wordTrue | wordFalse | number => cases noWord
  | mark isMark =>
    obtain rfl := Option.some.inj first
    simp [Scanner.isWordChar, isMark]
  | string =>
    obtain rfl := Option.some.inj first
    decide

/-- A text that writes tokens in order, with any spaces before, between and behind them. -/
inductive Layout : List Token → List Char → Prop
  | done {gap : List Char} (isGap : ∀ c ∈ gap, Scanner.isSpace c) : Layout [] gap
  | next {token : Token} {tokens : List Token} {gap cs rest : List Char} (isGap : ∀ c ∈ gap, Scanner.isSpace c)
    (written : token.WrittenAs cs) (others : Layout tokens rest) : Layout (token :: tokens) (gap ++ (cs ++ rest))

theorem endsWord_gap {gap cs : List Char} (isGap : ∀ c ∈ gap, Scanner.isSpace c) (ends : Scanner.EndsWord cs) :
    Scanner.EndsWord (gap ++ cs) := by
  cases gap with
  | nil => exact ends
  | cons c gap =>
    intro d first
    obtain rfl := Option.some.inj first
    exact Scanner.isWordChar_of_isSpace (isGap c (List.mem_cons_self ..))

theorem Layout.endsWord {tokens : List Token} {cs : List Char} (h : Layout tokens cs)
    (noWord : ∀ token ∈ tokens.head?, token.isWord = false) : Scanner.EndsWord cs := by
  cases h with
  | done isGap => simpa using endsWord_gap isGap (show Scanner.EndsWord [] by simp [Scanner.EndsWord])
  | next isGap written _ => exact endsWord_gap isGap (written.endsWord (noWord _ rfl) _)

theorem Layout.scanFrom {tokens : List Token} {cs : List Char} (h : Layout tokens cs) (separated : Separated tokens)
    (before : List Token) : Scanner.scanFrom before cs = some (before.reverse ++ tokens) := by
  induction h generalizing before with
  | @done gap isGap =>
    have scanned := Scanner.scanFrom_spaces isGap before []
    rw [List.append_nil] at scanned
    rw [scanned]
    simp [Scanner.scanFrom, Scanner.finish]
  | @next token tokens gap cs rest isGap written others ih =>
    -- A word ends at the gap behind it, and without one at the next token, which is no word.
    have ends (isWord : token.isWord) : Scanner.EndsWord rest :=
      others.endsWord fun next first => separated.rel_head? first isWord
    rw [Scanner.scanFrom_spaces isGap, written.scanFrom ends, ih separated.of_cons]
    simp

theorem Layout.scanTokens {tokens : List Token} {cs : List Char} (h : Layout tokens cs)
    (separated : Separated tokens) : scanTokens cs = some tokens := by
  have scanned := h.scanFrom separated []
  simpa [InspectionForms.scanTokens, Scanner.scanFrom, Scanner.start] using scanned

theorem Layout.gap {tokens : List Token} {gap cs : List Char} (isGap : ∀ c ∈ gap, Scanner.isSpace c)
    (h : Layout tokens cs) : Layout tokens (gap ++ cs) := by
  have longer {inner : List Char} (isInner : ∀ c ∈ inner, Scanner.isSpace c) :
      ∀ c ∈ gap ++ inner, Scanner.isSpace c :=
    fun c member => (List.mem_append.mp member).elim (isGap c) (isInner c)
  cases h with
  | done isInner => exact .done (longer isInner)
  | next isInner written others =>
    rw [← List.append_assoc]
    exact .next (longer isInner) written others

theorem Layout.append {front behind : List Token} {cs ds : List Char} (h : Layout front cs)
    (others : Layout behind ds) : Layout (front ++ behind) (cs ++ ds) := by
  induction h with
  | done isGap => exact others.gap isGap
  | next isGap written _ ih =>
    simp only [List.cons_append, List.append_assoc]
    exact .next isGap written ih

/-- Whether a token is a number that is not an integer, whose digits may stand for another number. -/
def isDouble : Token → Bool
  | number (.double _) => true
  | _ => false

theorem writtenAs_spelling {token : Token} (h : token.isDouble = false) : token.WrittenAs token.spelling := by
  cases token with
  | null => exact .wordNull
  | bool value => cases value with
    | true => exact .wordTrue
    | false => exact .wordFalse
  | number value => cases value with
    | integer value inRange =>
      have stands := Number.ofChars?_text_integer value inRange
      rw [Number.ofChars?, Number.text, NumberLiteral.ofChars?_intDigits, Option.bind_some] at stands
      exact .number (NumberLiteral.written_intDigits value) stands
    | double value => cases h
  | string value =>
    rw [spelling, List.flatMap_def]
    exact .string (charsWritten_quotedChars value.toList)
  | _ => exact .mark rfl

theorem layout_spellings {tokens : List Token} (h : ∀ token ∈ tokens, token.isDouble = false) :
    Layout tokens (tokens.flatMap spelling) := by
  induction tokens with
  | nil => exact .done (by simp)
  | cons token rest ih =>
    have noGap : ∀ c ∈ ([] : List Char), Scanner.isSpace c := by simp
    have others := ih fun next member => h next (List.mem_cons_of_mem _ member)
    exact .next noGap (writtenAs_spelling (h token (List.mem_cons_self ..))) others

end Token

namespace Json

/-- Every layout of a value is read as the value. Only depth can stop it. -/
theorem ofText?_of_layout {json : Json} {text : String} (h : Token.Layout json.tokens text.toList) (limit : Nat) :
    ofText? limit text = if json.depth ≤ limit then some json else none := by
  have separated := separated_tokens json Follows.nil
  rw [List.append_nil] at separated
  rw [ofText?, h.scanTokens separated, Option.bind_some, ofTokens?_tokens]

end Json

end InspectionForms
