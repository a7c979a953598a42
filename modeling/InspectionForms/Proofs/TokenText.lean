import InspectionForms.Proofs.NumberText
import Mathlib.Data.List.Chain
import Mathlib.Data.List.Forall2

namespace InspectionForms

/-- The characters that stand for another one behind a backslash. -/
def shortEscapes : List (Char × Char) :=
  [('"', '"'), ('\\', '\\'), ('/', '/'), ('b', '\x08'), ('f', '\x0c'), ('n', '\n'), ('r', '\r'), ('t', '\t')]

/-- A UTF-16 unit as four hexadecimal digits, in either case. -/
inductive UnitWritten : Nat → List Char → Prop
  | intro {a b c d : Char} {u v w x : Nat} (first : hexValue? a = some u) (second : hexValue? b = some v)
    (third : hexValue? c = some w) (fourth : hexValue? d = some x) :
    UnitWritten (((u * 16 + v) * 16 + w) * 16 + x) [a, b, c, d]

/-- How a character of a quoted text may be written. Those beyond the first plane take a pair of units. -/
inductive CharWritten : Char → List Char → Prop
  | plain {c : Char} (noQuote : c ≠ '"') (noBackslash : c ≠ '\\') (noControl : 0x20 ≤ c.toNat) : CharWritten c [c]
  | escape {mark c : Char} (listed : (mark, c) ∈ shortEscapes) : CharWritten c ['\\', mark]
  | unit {c : Char} {digits : List Char} (written : UnitWritten c.toNat digits) :
    CharWritten c ('\\' :: 'u' :: digits)
  | pair {c : Char} {high low : Nat} {highDigits lowDigits : List Char} (highWritten : UnitWritten high highDigits)
    (lowWritten : UnitWritten low lowDigits) (isHigh : 0xD800 ≤ high ∧ high < 0xDC00)
    (isLow : 0xDC00 ≤ low ∧ low < 0xE000)
    (code : c.toNat = 0x10000 + (high - 0xD800) * 0x400 + (low - 0xDC00)) :
    CharWritten c ('\\' :: 'u' :: (highDigits ++ '\\' :: 'u' :: lowDigits))

theorem hexValue?_digitChar {n : Nat} (h : n < 16) : hexValue? (Nat.digitChar n) = some n := by
  have all : ∀ m < 16, hexValue? (Nat.digitChar m) = some m := by decide
  exact all n h

theorem charWritten_quotedChar (c : Char) : CharWritten c (Token.quotedChar c) := by
  unfold Token.quotedChar
  iterate 7
    split
    · next same => subst same; exact .escape (by decide)
  split
  · next control =>
    have zero : hexValue? '0' = some 0 := by decide
    have written := UnitWritten.intro zero zero (hexValue?_digitChar (n := c.toNat / 16) (by omega))
      (hexValue?_digitChar (n := c.toNat % 16) (by omega))
    have value : ((0 * 16 + 0) * 16 + c.toNat / 16) * 16 + c.toNat % 16 = c.toNat := by omega
    rw [value] at written
    exact .unit written
  · next noQuote noBackslash _ _ _ _ _ noControl => exact .plain noQuote noBackslash (Nat.not_lt.mp noControl)

theorem charsWritten_quotedChars (cs : List Char) : List.Forall₂ CharWritten cs (cs.map Token.quotedChar) := by
  rw [List.forall₂_map_right_iff]
  exact List.forall₂_same.mpr fun c _ => charWritten_quotedChar c

namespace Token

/-- Whether a token is written without a mark of its own at its end. -/
def isWord : Token → Bool
  | null => true
  | bool _ => true
  | number _ => true
  | _ => false

/-- What is read where a token has been written. A number may read as another one. -/
def reread? : Token → Option Token
  | number value => (Number.ofChars? value.text).map number
  | token => some token

end Token

namespace Scanner

/-- What a text gives from a place between tokens on, those read so far standing latest first. -/
def scanFrom (tokens : List Token) (cs : List Char) : Option (List Token) :=
  (cs.foldlM step ⟨tokens, .between⟩).bind finish

/-- No word goes on into the text. -/
def EndsWord (cs : List Char) : Prop := ∀ c ∈ cs.head?, isWordChar c = false

theorem scanFrom_punctuation {c : Char} {token : Token} (h : Token.ofPunctuation? c = some token)
    (tokens : List Token) (cs : List Char) : scanFrom tokens (c :: cs) = scanFrom (token :: tokens) cs := by
  have noSpace : isSpace c = false ∧ c ≠ '"' := by
    unfold Token.ofPunctuation? at h
    split at h <;> first | decide | simp at h
  simp [scanFrom, step, stepBetween, noSpace, h]

theorem foldlM_word (tokens : List Token) (letters : List Char) {word : List Char}
    (isWord : ∀ c ∈ word, isWordChar c) :
    word.foldlM step ⟨tokens, .word letters⟩ = some ⟨tokens, .word (word.reverse ++ letters)⟩ := by
  induction word generalizing letters with
  | nil => rfl
  | cons c rest ih =>
    have first : step ⟨tokens, .word letters⟩ c = some ⟨tokens, .word (c :: letters)⟩ := by
      simp [step, isWord c (List.mem_cons_self ..)]
    rw [List.foldlM_cons, first, Option.bind_eq_bind, Option.bind_some,
      ih _ fun d member => isWord d (List.mem_cons_of_mem _ member)]
    simp

/-- A run of word characters is read as one word, if the text behind it cannot make it longer. -/
theorem scanFrom_word {word rest : List Char} (tokens : List Token) (nonempty : word ≠ [])
    (isWord : ∀ c ∈ word, isWordChar c) (ends : EndsWord rest) :
    scanFrom tokens (word ++ rest) = (Token.ofWord? word).bind fun token => scanFrom (token :: tokens) rest := by
  obtain ⟨c, cs, rfl⟩ := List.exists_cons_of_ne_nil nonempty
  have begins : step ⟨tokens, .between⟩ c = some ⟨tokens, .word [c]⟩ := by
    have := isWord c (List.mem_cons_self ..)
    simp only [isWordChar, Bool.and_eq_true, Bool.not_eq_true', bne_iff_ne, Option.isNone_iff_eq_none] at this
    simp [step, stepBetween, this]
  have goesOn := foldlM_word tokens [c] fun d member => isWord d (List.mem_cons_of_mem _ member)
  have letters : (cs.reverse ++ [c]).reverse = c :: cs := by simp
  simp only [scanFrom, List.cons_append, List.foldlM_cons, List.foldlM_append, begins, goesOn,
    Option.bind_eq_bind, Option.bind_some]
  cases rest with
  | nil => cases h : Token.ofWord? (c :: cs) <;> simp [finish, letters, h]
  | cons d rest =>
    have mark : isWordChar d = false := ends d rfl
    cases h : Token.ofWord? (c :: cs) <;> simp [step, mark, letters, h]

theorem foldlM_unit {value : Nat} {digits : List Char} (h : UnitWritten value digits) (tokens : List Token)
    (letters : List Char) (high : Option Nat) :
    digits.foldlM step ⟨tokens, .unit letters high []⟩ = takeUnit tokens letters high value := by
  cases h with
  | intro first second third fourth => simp [step, first, second, third, fourth]

/-- A character of a quoted text is read from each of its written forms. -/
theorem foldlM_charWritten {c : Char} {cs : List Char} (h : CharWritten c cs) (tokens : List Token)
    (letters : List Char) : cs.foldlM step ⟨tokens, .quoted letters⟩ = some ⟨tokens, .quoted (c :: letters)⟩ := by
  have escapes (letters : List Char) : step ⟨tokens, .quoted letters⟩ '\\' = some ⟨tokens, .escape letters⟩ := rfl
  have opens : step ⟨tokens, .escape letters⟩ 'u' = some ⟨tokens, .unit letters none []⟩ := rfl
  cases h with
  | plain noQuote noBackslash noControl =>
    have noControl : ¬c.toNat < 0x20 := Nat.not_lt.mpr noControl
    simp [step, noQuote, noBackslash, noControl]
  | @escape mark _ listed =>
    have all : ∀ pair ∈ shortEscapes, pair.1 ≠ 'u' ∧ escaped? pair.1 = some pair.2 := by decide
    obtain ⟨noUnit, found⟩ := all _ listed
    have taken : step ⟨tokens, .escape letters⟩ mark = some ⟨tokens, .quoted (c :: letters)⟩ := by
      simp [step, noUnit, found]
    simp [escapes, taken]
  | unit written =>
    have noSurrogate : ¬(0xD800 ≤ c.toNat ∧ c.toNat < 0xDC00) ∧ ¬(0xDC00 ≤ c.toNat ∧ c.toNat < 0xE000) := by
      have valid : c.toNat < 0xD800 ∨ 0xDFFF < c.toNat ∧ c.toNat < 0x110000 := c.valid
      omega
    simp [escapes, opens, foldlM_unit written, takeUnit, noSurrogate]
  | @pair _ high low highDigits lowDigits highWritten lowWritten isHigh isLow code =>
    have between : step ⟨tokens, .pairEscape letters high⟩ '\\' = some ⟨tokens, .pairMark letters high⟩ := rfl
    have reopens : step ⟨tokens, .pairMark letters high⟩ 'u' = some ⟨tokens, .unit letters (some high) []⟩ := rfl
    have character : Char.ofNat (0x10000 + (high - 0xD800) * 0x400 + (low - 0xDC00)) = c := by
      rw [← code, Char.ofNat_toNat]
    simp [escapes, opens, between, reopens, foldlM_unit highWritten, foldlM_unit lowWritten, takeUnit, isHigh, isLow,
      character]

theorem foldlM_charsWritten {cs : List Char} {pieces : List (List Char)} (h : List.Forall₂ CharWritten cs pieces)
    (tokens : List Token) (letters : List Char) :
    pieces.flatten.foldlM step ⟨tokens, .quoted letters⟩ = some ⟨tokens, .quoted (cs.reverse ++ letters)⟩ := by
  induction h generalizing letters with
  | nil => rfl
  | @cons c piece cs pieces first _ ih =>
    rw [List.flatten_cons, List.foldlM_append, foldlM_charWritten first, Option.bind_eq_bind, Option.bind_some, ih]
    simp

theorem scanFrom_quoted {value : String} {pieces : List (List Char)}
    (written : List.Forall₂ CharWritten value.toList pieces) (tokens : List Token) (cs : List Char) :
    scanFrom tokens ('"' :: (pieces.flatten ++ '"' :: cs)) = scanFrom (.string value :: tokens) cs := by
  have opens : step ⟨tokens, .between⟩ '"' = some ⟨tokens, .quoted []⟩ := rfl
  have closes (letters : List Char) :
      step ⟨tokens, .quoted letters⟩ '"' = some ⟨.string (String.ofList letters.reverse) :: tokens, .between⟩ := rfl
  simp [scanFrom, opens, closes, foldlM_charsWritten written]

end Scanner

namespace Token

theorem isWordChar_of_isNumeralChar {c : Char} (h : isNumeralChar c) : Scanner.isWordChar c := by
  have digit : c.isDigit → Scanner.isWordChar c := fun h => by
    simp only [Char.isDigit, Bool.and_eq_true, decide_eq_true_eq] at h
    have range : 48 ≤ c.toNat ∧ c.toNat ≤ 57 := h
    have differ (d : Char) (outside : d.toNat < 48 ∨ 57 < d.toNat) : c ≠ d := by
      rintro rfl
      omega
    have noPunctuation : ofPunctuation? c = none := by
      unfold ofPunctuation?
      split <;> first | rfl | exact absurd rfl (differ _ (by decide))
    simp [Scanner.isWordChar, Scanner.isSpace, noPunctuation, differ ' ' (by decide), differ '\t' (by decide),
      differ '\n' (by decide), differ '\r' (by decide), differ '"' (by decide)]
  simp only [isNumeralChar, Bool.or_eq_true, beq_iff_eq] at h
  rcases h with (((h | rfl) | rfl) | rfl) | rfl
  · exact digit h
  all_goals decide

/-- Numbers are no keywords. -/
theorem ofWord?_text (value : Number) : ofWord? value.text = (Number.ofChars? value.text).map number := by
  have differ (word : List Char) (c : Char) (member : c ∈ word) (other : isNumeralChar c = false) :
      value.text ≠ word := by
    rintro rfl
    simp [Number.isNumeralChar_of_mem_text member] at other
  unfold ofWord?
  rw [if_neg (differ _ 'n' (by decide) (by decide)), if_neg (differ _ 't' (by decide) (by decide)),
    if_neg (differ _ 'f' (by decide) (by decide))]

theorem isWordChar_of_mem_spelling {token : Token} (isWord : token.isWord) {c : Char}
    (member : c ∈ token.spelling) : Scanner.isWordChar c := by
  have keyword (word : List Char) (all : word.all Scanner.isWordChar) (member : c ∈ word) :
      Scanner.isWordChar c := List.all_eq_true.mp all c member
  cases token with
  | null => exact keyword "null".toList (by decide) member
  | bool value =>
    cases value with
    | true => exact keyword "true".toList (by decide) member
    | false => exact keyword "false".toList (by decide) member
  | number value => exact isWordChar_of_isNumeralChar (Number.isNumeralChar_of_mem_text member)
  | _ => cases isWord

theorem ofWord?_spelling {token : Token} (isWord : token.isWord) : ofWord? token.spelling = token.reread? := by
  cases token with
  | null => decide
  | bool value => cases value <;> decide
  | number value => exact ofWord?_text value
  | _ => cases isWord

theorem spelling_ne_nil {token : Token} : token.spelling ≠ [] := by
  cases token with
  | number value => exact Number.text_ne_nil value
  | bool value => cases value <;> decide
  | null => decide
  | _ => simp [spelling]

/-- What is written for a token that is no word ends a word before it. -/
theorem endsWord_spelling {token : Token} (h : token.isWord = false) (cs : List Char) :
    Scanner.EndsWord (token.spelling ++ cs) := by
  intro c first
  cases token with
  | null => cases h
  | bool value => cases h
  | number value => cases h
  | string value =>
    obtain rfl : '"' = c := by simpa [spelling] using first
    decide
  | _ =>
    obtain rfl := Option.some.inj first
    decide

/-- Where a token has been written the token as it reads back is read, if it does not run into the text behind. -/
theorem scanFrom_spelling (tokens : List Token) (token : Token) {cs : List Char}
    (ends : token.isWord → Scanner.EndsWord cs) :
    Scanner.scanFrom tokens (token.spelling ++ cs) =
      token.reread?.bind fun token => Scanner.scanFrom (token :: tokens) cs := by
  cases isWord : token.isWord with
  | true =>
    rw [Scanner.scanFrom_word tokens spelling_ne_nil (fun _ => isWordChar_of_mem_spelling isWord) (ends isWord),
      ofWord?_spelling isWord]
  | false =>
    cases token with
    | null => cases isWord
    | bool value => cases isWord
    | number value => cases isWord
    | string value =>
      simpa [spelling, reread?, List.flatMap_def] using
        Scanner.scanFrom_quoted (charsWritten_quotedChars value.toList) tokens cs
    | _ => exact Scanner.scanFrom_punctuation rfl tokens cs

/-- No two words stand next to each other. -/
def Separated (tokens : List Token) : Prop := tokens.IsChain fun a b => a.isWord → b.isWord = false

theorem Separated.endsWord {token : Token} {rest : List Token} (h : Separated (token :: rest))
    (isWord : token.isWord) : Scanner.EndsWord (rest.flatMap spelling) := by
  cases rest with
  | nil => simp [Scanner.EndsWord]
  | cons next rest => exact endsWord_spelling (h.rel isWord) _

theorem Separated.scanFrom {tokens : List Token} (h : Separated tokens) (before : List Token) :
    Scanner.scanFrom before (tokens.flatMap spelling) = (tokens.mapM reread?).map (before.reverse ++ ·) := by
  induction tokens generalizing before with
  | nil => simp [Scanner.scanFrom, Scanner.finish]
  | cons token rest ih =>
    rw [List.flatMap_cons, scanFrom_spelling before token fun isWord => h.endsWord isWord]
    cases again : token.reread? with
    | none => simp [again]
    | some token =>
      rw [Option.bind_some, ih h.of_cons]
      cases others : rest.mapM reread? <;> simp [again, others]

/-- A text that has been written token by token is read token by token. -/
theorem Separated.scanTokens {tokens : List Token} (h : Separated tokens) :
    scanTokens (tokens.flatMap spelling) = tokens.mapM reread? := by
  have scanned := h.scanFrom []
  simpa [InspectionForms.scanTokens, Scanner.scanFrom, Scanner.start] using scanned

end Token

end InspectionForms
