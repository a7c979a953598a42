import InspectionForms.Proofs.TokenLayout

namespace InspectionForms

namespace NumberLiteral

theorem takeDigits?_eq_some {cs digits rest : List Char} (h : takeDigits? cs = some (digits, rest)) :
    IsDigits digits ∧ cs = digits ++ rest := by
  simp only [takeDigits?] at h
  split at h
  · cases h
  · next nonempty =>
    obtain ⟨rfl, rfl⟩ := Prod.mk.inj (Option.some.inj h)
    refine ⟨⟨by simpa using nonempty, fun c member => List.mem_takeWhile_imp member⟩, ?_⟩
    exact List.takeWhile_append_dropWhile.symm

theorem takeWhole?_eq_some {cs whole rest : List Char} (h : takeWhole? cs = some (whole, rest)) :
    IsDigits whole ∧ (whole.head? = some '0' → whole = ['0']) ∧ cs = whole ++ rest := by
  obtain ⟨⟨digits, behind⟩, taken, h⟩ := Option.bind_eq_some_iff.mp h
  obtain ⟨isDigits, same⟩ := takeDigits?_eq_some taken
  dsimp only at h
  split at h
  · cases h
  · next noZero =>
    obtain ⟨rfl, rfl⟩ := Prod.mk.inj (Option.some.inj h)
    exact ⟨isDigits, fun zero => by_contra fun other => noZero ⟨zero, other⟩, same⟩

theorem takeFraction?_eq_some {cs rest : List Char} {fraction : Option (List Char)}
    (h : takeFraction? cs = some (fraction, rest)) : ∃ f, FractionWritten fraction f ∧ cs = f ++ rest := by
  unfold takeFraction? at h
  split at h
  · obtain ⟨⟨digits, behind⟩, taken, same⟩ := Option.map_eq_some_iff.mp h
    obtain ⟨rfl, rfl⟩ := Prod.mk.inj same
    obtain ⟨isDigits, rfl⟩ := takeDigits?_eq_some taken
    exact ⟨_, .digits isDigits, rfl⟩
  · obtain ⟨rfl, rfl⟩ := Prod.mk.inj (Option.some.inj h)
    exact ⟨_, .absent, rfl⟩

theorem takeSigned?_written {mark : Char} (isMark : mark = 'e' ∨ mark = 'E') {cs rest : List Char} {value : Int}
    (h : takeSigned? cs = some (value, rest)) :
    ∃ e, ExponentWritten (some value) (mark :: e) ∧ cs = e ++ rest := by
  have digits {front : List Char} {f : Nat → Int}
      (h : ((takeDigits? front).map fun taken => (f (Nat.ofDigitChars 10 taken.1 0), taken.2)) = some (value, rest)) :
      ∃ ds, IsDigits ds ∧ value = f (Nat.ofDigitChars 10 ds 0) ∧ front = ds ++ rest := by
    obtain ⟨⟨ds, behind⟩, taken, same⟩ := Option.map_eq_some_iff.mp h
    obtain ⟨rfl, rfl⟩ := Prod.mk.inj same
    obtain ⟨isDigits, split⟩ := takeDigits?_eq_some taken
    exact ⟨ds, isDigits, rfl, split⟩
  unfold takeSigned? at h
  split at h
  · obtain ⟨ds, isDigits, rfl, rfl⟩ := digits (f := fun n => -n) h
    exact ⟨_, .minus isMark isDigits, rfl⟩
  · obtain ⟨ds, isDigits, rfl, rfl⟩ := digits (f := fun n => n) h
    exact ⟨_, .plus isMark isDigits, rfl⟩
  · obtain ⟨ds, isDigits, rfl, rfl⟩ := digits (f := fun n => n) h
    exact ⟨_, .unsigned isMark isDigits, rfl⟩

theorem takeExponent?_eq_some {cs rest : List Char} {exponent : Option Int}
    (h : takeExponent? cs = some (exponent, rest)) : ∃ e, ExponentWritten exponent e ∧ cs = e ++ rest := by
  have marked {mark : Char} (isMark : mark = 'e' ∨ mark = 'E') {cs : List Char}
      (h : ((takeSigned? cs).map fun taken => (some taken.1, taken.2)) = some (exponent, rest)) :
      ∃ e, ExponentWritten exponent e ∧ mark :: cs = e ++ rest := by
    obtain ⟨⟨value, behind⟩, taken, same⟩ := Option.map_eq_some_iff.mp h
    obtain ⟨rfl, rfl⟩ := Prod.mk.inj same
    obtain ⟨e, written, rfl⟩ := takeSigned?_written isMark taken
    exact ⟨mark :: e, written, rfl⟩
  unfold takeExponent? at h
  split at h
  · exact marked (.inl rfl) h
  · exact marked (.inr rfl) h
  · obtain ⟨rfl, rfl⟩ := Prod.mk.inj (Option.some.inj h)
    exact ⟨_, .absent, rfl⟩

theorem written_of_ofChars? {cs : List Char} {l : NumberLiteral} (h : ofChars? cs = some l) : l.Written cs := by
  unfold ofChars? at h
  split at h
  next negative unsigned sign =>
  obtain ⟨⟨whole, afterWhole⟩, wholeTaken, behindWhole⟩ := Option.bind_eq_some_iff.mp h
  obtain ⟨⟨fraction, afterFraction⟩, fractionTaken, behindFraction⟩ := Option.bind_eq_some_iff.mp behindWhole
  obtain ⟨⟨exponent, afterExponent⟩, exponentTaken, ended⟩ := Option.bind_eq_some_iff.mp behindFraction
  dsimp only at ended
  obtain ⟨empty, same⟩ := Option.ite_none_right_eq_some.mp ended
  obtain rfl := List.isEmpty_iff.mp empty
  obtain rfl := Option.some.inj same
  obtain ⟨isDigits, noZero, rfl⟩ := takeWhole?_eq_some wholeTaken
  obtain ⟨f, fractionWritten, rfl⟩ := takeFraction?_eq_some fractionTaken
  obtain ⟨e, exponentWritten, rfl⟩ := takeExponent?_eq_some exponentTaken
  rw [List.append_nil] at sign
  have signed : cs = (if negative then ['-'] else []) ++ (whole ++ (f ++ e)) := by
    split at sign
    · obtain ⟨rfl, rfl⟩ := Prod.mk.inj sign
      rfl
    · obtain ⟨rfl, rfl⟩ := Prod.mk.inj sign
      rfl
  rw [signed]
  exact .intro negative isDigits noZero fractionWritten exponentWritten

end NumberLiteral

theorem hexValue?_lt {c : Char} {n : Nat} (h : hexValue? c = some n) : n < 16 := by
  unfold hexValue? at h
  split at h
  · next digit =>
    simp only [Char.isDigit, Bool.and_eq_true, decide_eq_true_eq] at digit
    have range : 48 ≤ c.toNat ∧ c.toNat ≤ 57 := digit
    obtain rfl := Option.some.inj h
    change c.toNat - 48 < 16
    omega
  split at h
  · next letter =>
    have range : 97 ≤ c.toNat ∧ c.toNat ≤ 102 := letter
    obtain rfl := Option.some.inj h
    change c.toNat - 97 + 10 < 16
    omega
  split at h
  · next letter =>
    have range : 65 ≤ c.toNat ∧ c.toNat ≤ 70 := letter
    obtain rfl := Option.some.inj h
    change c.toNat - 65 + 10 < 16
    omega
  · cases h

theorem UnitWritten.lt {value : Nat} {digits : List Char} (h : UnitWritten value digits) : value < 0x10000 := by
  cases h with
  | intro first second third fourth =>
    have := hexValue?_lt first
    have := hexValue?_lt second
    have := hexValue?_lt third
    have := hexValue?_lt fourth
    omega

theorem unitWritten_of_digits {chars : List Char} {c : Char} {u v w x : Nat}
    (h : List.Forall₂ (fun c d => hexValue? c = some d) chars [u, v, w]) (last : hexValue? c = some x) :
    UnitWritten (((u * 16 + v) * 16 + w) * 16 + x) (chars ++ [c]) :=
  match h with
  | .cons first (.cons second (.cons third .nil)) => .intro first second third last

theorem Char.toNat_ofNat_of_isValid {n : Nat} (h : n.isValidChar) : (Char.ofNat n).toNat = n := by
  rw [Char.ofNat, dif_pos h]
  rfl

namespace Token

theorem Layout.token {tokens : List Token} {token : Token} {front cs : List Char} (h : Layout tokens front)
    (written : token.WrittenAs cs) : Layout (tokens ++ [token]) (front ++ cs) := by
  have single : Layout [token] ([] ++ (cs ++ [])) := .next (by simp) written (.done (by simp))
  rw [List.append_nil, List.nil_append] at single
  exact h.append single

theorem Layout.space {tokens : List Token} {front : List Char} (h : Layout tokens front) {c : Char}
    (isSpace : Scanner.isSpace c) : Layout tokens (front ++ [c]) := by
  have behind : Layout [] [c] := .done (by simpa using isSpace)
  simpa using h.append behind

theorem writtenAs_of_ofWord? {word : List Char} {token : Token} (h : ofWord? word = some token) :
    token.WrittenAs word := by
  unfold ofWord? at h
  split at h
  · next same =>
    subst same
    obtain rfl := Option.some.inj h
    exact .wordNull
  split at h
  · next same =>
    subst same
    obtain rfl := Option.some.inj h
    exact .wordTrue
  split at h
  · next same =>
    subst same
    obtain rfl := Option.some.inj h
    exact .wordFalse
  · obtain ⟨value, read, rfl⟩ := Option.map_eq_some_iff.mp h
    obtain ⟨l, literal, stands⟩ := Option.bind_eq_some_iff.mp read
    exact .number (NumberLiteral.written_of_ofChars? literal) stands

end Token

namespace Scanner

/-- A text up to a place between quotation marks, the letters before it standing latest first. -/
def ReadsQuoted (tokens : List Token) (letters cs : List Char) : Prop :=
  ∃ front pieces, Token.Layout tokens.reverse front ∧ List.Forall₂ CharWritten letters.reverse pieces ∧
    cs = front ++ '"' :: pieces.flatten

/-- What stands before the digits of a unit, which is the second one of a pair behind a high one. -/
inductive UnitBegun : Option Nat → List Char → Prop
  | single : UnitBegun none ['\\', 'u']
  | behind {high : Nat} {digits : List Char} (written : UnitWritten high digits)
    (isHigh : 0xD800 ≤ high ∧ high < 0xDC00) : UnitBegun (some high) ('\\' :: 'u' :: (digits ++ ['\\', 'u']))

/-- What can have been read up to where the scanner stands. -/
inductive HasRead : Scanner → List Char → Prop
  | between {tokens : List Token} {cs : List Char} (layout : Token.Layout tokens.reverse cs) :
    HasRead ⟨tokens, .between⟩ cs
  | word {tokens : List Token} {letters front : List Char} (layout : Token.Layout tokens.reverse front) :
    HasRead ⟨tokens, .word letters⟩ (front ++ letters.reverse)
  | quoted {tokens : List Token} {letters cs : List Char} (inside : ReadsQuoted tokens letters cs) :
    HasRead ⟨tokens, .quoted letters⟩ cs
  | escape {tokens : List Token} {letters cs : List Char} (inside : ReadsQuoted tokens letters cs) :
    HasRead ⟨tokens, .escape letters⟩ (cs ++ ['\\'])
  | unit {tokens : List Token} {letters cs front chars : List Char} {high : Option Nat} {digits : List Nat}
    (inside : ReadsQuoted tokens letters cs) (begun : UnitBegun high front)
    (written : List.Forall₂ (fun c d => hexValue? c = some d) chars digits.reverse) (few : digits.length < 4) :
    HasRead ⟨tokens, .unit letters high digits⟩ (cs ++ (front ++ chars))
  | pairEscape {tokens : List Token} {letters cs digits : List Char} {high : Nat}
    (inside : ReadsQuoted tokens letters cs) (written : UnitWritten high digits)
    (isHigh : 0xD800 ≤ high ∧ high < 0xDC00) :
    HasRead ⟨tokens, .pairEscape letters high⟩ (cs ++ '\\' :: 'u' :: digits)
  | pairMark {tokens : List Token} {letters cs digits : List Char} {high : Nat}
    (inside : ReadsQuoted tokens letters cs) (written : UnitWritten high digits)
    (isHigh : 0xD800 ≤ high ∧ high < 0xDC00) :
    HasRead ⟨tokens, .pairMark letters high⟩ (cs ++ '\\' :: 'u' :: (digits ++ ['\\']))

variable {tokens : List Token} {letters cs : List Char}

theorem ReadsQuoted.letter (inside : ReadsQuoted tokens letters cs) {c : Char} {piece : List Char}
    (written : CharWritten c piece) : ReadsQuoted tokens (c :: letters) (cs ++ piece) := by
  obtain ⟨front, pieces, layout, others, rfl⟩ := inside
  refine ⟨front, pieces ++ [piece], layout, ?_, by simp⟩
  rw [List.reverse_cons]
  exact List.rel_append others (.cons written .nil)

theorem ReadsQuoted.close (inside : ReadsQuoted tokens letters cs) :
    Token.Layout (Token.string (String.ofList letters.reverse) :: tokens).reverse (cs ++ ['"']) := by
  obtain ⟨front, pieces, layout, written, rfl⟩ := inside
  rw [List.reverse_cons, List.append_assoc, List.cons_append]
  refine layout.token (.string ?_)
  rwa [String.toList_ofList]

theorem mem_shortEscapes {mark c : Char} (h : escaped? mark = some c) : (mark, c) ∈ shortEscapes := by
  unfold escaped? at h
  split at h
  case h_9 => cases h
  all_goals
    obtain rfl := Option.some.inj h
    decide

theorem HasRead.takeUnit {high : Option Nat} {value : Nat} {front digits : List Char} {next : Scanner}
    (inside : ReadsQuoted tokens letters cs) (begun : UnitBegun high front) (written : UnitWritten value digits)
    (taken : takeUnit tokens letters high value = some next) : next.HasRead (cs ++ (front ++ digits)) := by
  have small := written.lt
  unfold Scanner.takeUnit at taken
  cases begun with
  | single =>
    dsimp only at taken
    split at taken
    · next isHigh =>
      obtain rfl := Option.some.inj taken
      exact .pairEscape inside written isHigh
    split at taken
    · cases taken
    · next noHigh noLow =>
      obtain rfl := Option.some.inj taken
      have code : (Char.ofNat value).toNat = value := Char.toNat_ofNat_of_isValid (by
        simp only [Nat.isValidChar]
        omega)
      rw [← code] at written
      exact .quoted (inside.letter (.unit written))
  | @behind high highDigits highWritten isHigh =>
    dsimp only at taken
    split at taken
    · next isLow =>
      obtain rfl := Option.some.inj taken
      have code : (Char.ofNat (0x10000 + (high - 0xD800) * 0x400 + (value - 0xDC00))).toNat =
          0x10000 + (high - 0xD800) * 0x400 + (value - 0xDC00) := Char.toNat_ofNat_of_isValid (by
        simp only [Nat.isValidChar]
        omega)
      simpa using HasRead.quoted (inside.letter (.pair highWritten written isHigh isLow code))
    · cases taken

theorem HasRead.stepBetween (layout : Token.Layout tokens.reverse cs) (c : Char) :
    (stepBetween tokens c).HasRead (cs ++ [c]) := by
  unfold Scanner.stepBetween
  split
  · next isSpace => exact .between (layout.space isSpace)
  split
  · next quote =>
    subst quote
    exact .quoted ⟨cs, [], layout, .nil, rfl⟩
  split
  · next token isMark =>
    refine .between ?_
    rw [List.reverse_cons]
    exact layout.token (.mark isMark)
  · have begun : HasRead ⟨tokens, .word [c]⟩ (cs ++ [c].reverse) := .word layout
    exact begun

/-- Reading one more character goes on with what has been written so far. -/
theorem HasRead.step {s next : Scanner} (h : s.HasRead cs) {c : Char} (stepped : s.step c = some next) :
    next.HasRead (cs ++ [c]) := by
  unfold Scanner.step at stepped
  have noDigits : List.Forall₂ (fun c d => hexValue? c = some d) [] ([] : List Nat).reverse := .nil
  cases h with
  | between layout =>
    obtain rfl := Option.some.inj stepped
    exact .stepBetween layout c
  | @word tokens letters front layout =>
    dsimp only at stepped
    split at stepped
    · obtain rfl := Option.some.inj stepped
      have longer : HasRead ⟨tokens, .word (c :: letters)⟩ (front ++ (c :: letters).reverse) := .word layout
      simpa using longer
    · obtain ⟨token, read, rfl⟩ := Option.map_eq_some_iff.mp stepped
      have written := layout.token (Token.writtenAs_of_ofWord? read)
      rw [← List.reverse_cons] at written
      exact .stepBetween written c
  | quoted inside =>
    dsimp only at stepped
    split at stepped
    · next quote =>
      subst quote
      obtain rfl := Option.some.inj stepped
      exact .between inside.close
    split at stepped
    · next noQuote backslash =>
      subst backslash
      obtain rfl := Option.some.inj stepped
      exact .escape inside
    split at stepped
    · cases stepped
    · next noQuote noBackslash noControl =>
      obtain rfl := Option.some.inj stepped
      exact .quoted (inside.letter (.plain noQuote noBackslash (Nat.not_lt.mp noControl)))
  | escape inside =>
    dsimp only at stepped
    split at stepped
    · next isUnit =>
      subst isUnit
      obtain rfl := Option.some.inj stepped
      simpa using HasRead.unit inside .single noDigits (by simp)
    · obtain ⟨d, listed, rfl⟩ := Option.map_eq_some_iff.mp stepped
      simpa using HasRead.quoted (inside.letter (.escape (mem_shortEscapes listed)))
  | @unit tokens letters cs front chars high digits inside begun written few =>
    dsimp only at stepped
    split at stepped
    · next d d₃ d₂ d₁ value =>
      simpa using HasRead.takeUnit inside begun (unitWritten_of_digits written value) stepped
    · next digits _ _ d value notThree =>
      obtain rfl := Option.some.inj stepped
      have longer : List.Forall₂ (fun c d => hexValue? c = some d) (chars ++ [c]) (d :: digits).reverse := by
        rw [List.reverse_cons]
        exact List.rel_append written (.cons value .nil)
      have noThree : digits.length ≠ 3 := fun three => by
        obtain ⟨d₃, d₂, d₁, same⟩ := List.length_eq_three.mp three
        exact notThree d₃ d₂ d₁ same
      have fewer : (d :: digits).length < 4 := by
        rw [List.length_cons]
        omega
      simpa using HasRead.unit inside begun longer fewer
    · cases stepped
  | pairEscape inside written isHigh =>
    dsimp only at stepped
    split at stepped
    · next backslash =>
      subst backslash
      obtain rfl := Option.some.inj stepped
      simpa using HasRead.pairMark inside written isHigh
    · cases stepped
  | pairMark inside written isHigh =>
    dsimp only at stepped
    split at stepped
    · next isUnit =>
      subst isUnit
      obtain rfl := Option.some.inj stepped
      simpa using HasRead.unit inside (.behind written isHigh) noDigits (by simp)
    · cases stepped

theorem HasRead.run {s last : Scanner} {before : List Char} (h : s.HasRead before)
    (ran : cs.foldlM Scanner.step s = some last) : last.HasRead (before ++ cs) := by
  induction cs generalizing s before with
  | nil =>
    obtain rfl := Option.some.inj ran
    rwa [List.append_nil]
  | cons c cs ih =>
    rw [List.foldlM_cons] at ran
    obtain ⟨next, stepped, ran⟩ := Option.bind_eq_some_iff.mp ran
    simpa using ih (h.step stepped) ran

end Scanner

/-- A text lays out the tokens that are read from it. -/
theorem Token.layout_of_scanTokens {cs : List Char} {tokens : List Token} (h : scanTokens cs = some tokens) :
    Token.Layout tokens cs := by
  obtain ⟨last, ran, finished⟩ := Option.bind_eq_some_iff.mp h
  have blank : Token.Layout [].reverse [] := .done (by simp)
  have nothing : Scanner.start.HasRead [] := .between blank
  have read : last.HasRead ([] ++ cs) := nothing.run ran
  rw [List.nil_append] at read
  unfold Scanner.finish at finished
  cases read with
  | between layout =>
    obtain rfl := Option.some.inj finished
    exact layout
  | word layout =>
    obtain ⟨token, word, rfl⟩ := Option.map_eq_some_iff.mp finished
    rw [List.reverse_cons]
    exact layout.token (writtenAs_of_ofWord? word)
  | _ => cases finished

end InspectionForms
