import InspectionForms.Json.Token
import Mathlib.Data.List.TakeWhile

namespace InspectionForms

/-- The characters of which written numbers are made. -/
def isNumeralChar (c : Char) : Bool := c.isDigit || c == '.' || c == '-' || c == '+' || c == 'e'

theorem isNumeralChar_of_isDigit {c : Char} (h : c.isDigit) : isNumeralChar c := by
  simp [isNumeralChar, h]

theorem isDigit_of_mem_decimalDigits {n : Nat} {c : Char} (h : c ∈ decimalDigits n) : c.isDigit :=
  Nat.isDigit_of_mem_toDigits (by decide) (by decide) h

theorem decimalDigits_ne_nil (n : Nat) : decimalDigits n ≠ [] := Nat.toDigits_ne_nil

theorem isDigit_of_mem_paddedDigits {width n : Nat} {c : Char} (h : c ∈ paddedDigits width n) : c.isDigit := by
  rw [paddedDigits, List.leftpad, List.mem_append] at h
  rcases h with zero | digit
  · rw [(List.mem_replicate.mp zero).2]
    rfl
  · exact isDigit_of_mem_decimalDigits digit

theorem natText_injective (a b : Nat) (h : natText a = natText b) : a = b := by
  have digits : decimalDigits a = decimalDigits b := String.ofList_injective h
  have number := congrArg naturalOfDigits? digits
  rw [naturalOfDigits?_decimalDigits, naturalOfDigits?_decimalDigits] at number
  exact Option.some.inj number

/-- Only zero is written with a zero in front. -/
theorem decimalDigits_head_zero {n : Nat} (h : (decimalDigits n).head? = some '0') : n = 0 := by
  induction n using Nat.strongRecOn with
  | ind n ih =>
    rw [decimalDigits, Nat.toDigits_eq_if (by decide)] at h
    split at h
    · next small =>
      have onlyZero : ∀ m < 10, Nat.digitChar m = '0' → m = 0 := by decide
      exact onlyZero n small (by simpa using h)
    · next large =>
      obtain ⟨c, cs, digits⟩ := List.exists_cons_of_ne_nil (decimalDigits_ne_nil (n / 10))
      have front : (decimalDigits (n / 10)).head? = some '0' := by
        rw [decimalDigits] at digits
        simpa [decimalDigits, digits] using h
      have := ih (n / 10) (by omega) front
      omega

theorem isDigit_of_mem_significantDigits {n : Nat} {c : Char} (h : c ∈ significantDigits n) : c.isDigit := by
  have inDigits : c ∈ (Nat.toDigits 10 n).reverse :=
    (List.dropWhile_sublist _).mem (List.mem_reverse.mp h)
  exact isDigit_of_mem_decimalDigits (List.mem_reverse.mp inDigits)

theorem Decimal.isNumeralChar_of_mem_text {format : DecimalFormat} {d : Decimal} {c : Char}
    (h : c ∈ d.text format) : isNumeralChar c := by
  have digit {n : Nat} (member : c ∈ significantDigits n) : isNumeralChar c :=
    isNumeralChar_of_isDigit (isDigit_of_mem_significantDigits member)
  have zero (count : Nat) (member : c ∈ List.replicate count '0') : isNumeralChar c := by
    rw [(List.mem_replicate.mp member).2]
    decide
  have mark (member : c = '.' ∨ c = '0' ∨ c = 'e' ∨ c = '-' ∨ c = '+') : isNumeralChar c := by
    rcases member with rfl | rfl | rfl | rfl | rfl <;> decide
  simp only [text] at h
  split at h
  · exact mark (by grind)
  split at h
  · simp only [List.mem_cons, List.mem_append] at h
    rcases h with rfl | rfl | member | member
    · decide
    · decide
    · exact zero _ member
    · exact digit member
  split at h
  · simp only [List.mem_append, List.mem_cons] at h
    rcases h with (member | member) | rfl | member
    · exact digit (List.mem_of_mem_take member)
    · exact zero _ member
    · decide
    · split at member
      · exact mark (by grind)
      · exact digit (List.mem_of_mem_drop member)
  · simp only [List.mem_append, List.mem_cons] at h
    rcases h with (member | member) | rfl | rfl | member
    · exact digit (List.mem_of_mem_take member)
    · have fraction : c ∈ ['0'] ∨ c ∈ (significantDigits d.coefficient).tail ∨ c = '.' := by grind
      rcases fraction with member | member | rfl
      · exact mark (by grind)
      · exact digit (List.mem_of_mem_tail member)
      · decide
    · decide
    · split <;> decide
    · rw [List.leftpad, List.mem_append] at member
      rcases member with member | member
      · exact zero _ member
      · exact isNumeralChar_of_isDigit (isDigit_of_mem_decimalDigits member)

theorem Decimal.text_ne_nil (format : DecimalFormat) (d : Decimal) : d.text format ≠ [] := by
  simp only [text]
  split
  · simp
  split
  · simp
  split <;> simp

theorem isNumeralChar_of_mem_intDigits {i : Int} {c : Char} (h : c ∈ intDigits i) : isNumeralChar c := by
  unfold intDigits at h
  split at h
  · rcases List.mem_cons.mp h with rfl | member
    · decide
    · exact isNumeralChar_of_isDigit (isDigit_of_mem_decimalDigits member)
  · exact isNumeralChar_of_isDigit (isDigit_of_mem_decimalDigits h)

namespace Number

theorem isNumeralChar_of_mem_text {n : Number} {c : Char} (h : c ∈ n.text) : isNumeralChar c := by
  cases n with
  | integer value inRange => exact isNumeralChar_of_mem_intDigits h
  | double value =>
    simp only [text, Double.text] at h
    split at h
    · rcases List.mem_cons.mp h with rfl | member
      · decide
      · exact Decimal.isNumeralChar_of_mem_text member
    · exact Decimal.isNumeralChar_of_mem_text h

theorem text_ne_nil (n : Number) : n.text ≠ [] := by
  cases n with
  | integer value inRange =>
    simp only [text, intDigits]
    split
    · simp
    · exact decimalDigits_ne_nil _
  | double value =>
    simp only [text, Double.text]
    split
    · simp
    · exact Decimal.text_ne_nil _ _

end Number

/-- One or more decimal digits. -/
structure IsDigits (cs : List Char) : Prop where
  nonempty : cs ≠ []
  digits : ∀ c ∈ cs, c.isDigit

/-- The text does not go on with a digit. -/
def EndsDigits (cs : List Char) : Prop := ∀ c ∈ cs.head?, c.isDigit = false

namespace NumberLiteral

inductive FractionWritten : Option (List Char) → List Char → Prop
  | absent : FractionWritten none []
  | digits {cs : List Char} (isDigits : IsDigits cs) : FractionWritten (some cs) ('.' :: cs)

inductive ExponentWritten : Option Int → List Char → Prop
  | absent : ExponentWritten none []
  | unsigned {mark : Char} {cs : List Char} (isMark : mark = 'e' ∨ mark = 'E') (isDigits : IsDigits cs) :
    ExponentWritten (some (Nat.ofDigitChars 10 cs 0)) (mark :: cs)
  | plus {mark : Char} {cs : List Char} (isMark : mark = 'e' ∨ mark = 'E') (isDigits : IsDigits cs) :
    ExponentWritten (some (Nat.ofDigitChars 10 cs 0)) (mark :: '+' :: cs)
  | minus {mark : Char} {cs : List Char} (isMark : mark = 'e' ∨ mark = 'E') (isDigits : IsDigits cs) :
    ExponentWritten (some (-(Nat.ofDigitChars 10 cs 0 : Int))) (mark :: '-' :: cs)

/-- How a number may be written: a minus, whole digits without a needless zero in front, a fraction, an exponent. All
but the whole digits may be absent. -/
inductive Written : NumberLiteral → List Char → Prop
  | intro {whole f e : List Char} {fraction : Option (List Char)} {exponent : Option Int} (negative : Bool)
    (isDigits : IsDigits whole) (noZero : whole.head? = some '0' → whole = ['0'])
    (fractionWritten : FractionWritten fraction f) (exponentWritten : ExponentWritten exponent e) :
    Written ⟨negative, whole, fraction, exponent⟩ ((if negative then ['-'] else []) ++ (whole ++ (f ++ e)))

theorem takeDigits?_append {digits rest : List Char} (isDigits : IsDigits digits) (ends : EndsDigits rest) :
    takeDigits? (digits ++ rest) = some (digits, rest) := by
  have noneTaken : rest.takeWhile Char.isDigit = [] := by
    cases rest with
    | nil => rfl
    | cons c cs => simp [ends c rfl]
  have noneDropped : rest.dropWhile Char.isDigit = rest := by
    cases rest with
    | nil => rfl
    | cons c cs => simp [ends c rfl]
  simp [takeDigits?, List.takeWhile_append_of_pos isDigits.digits, List.dropWhile_append_of_pos isDigits.digits,
    noneTaken, noneDropped, isDigits.nonempty]

theorem takeDigits?_self {digits : List Char} (isDigits : IsDigits digits) :
    takeDigits? digits = some (digits, []) := by
  have taken := takeDigits?_append isDigits (show EndsDigits [] by simp [EndsDigits])
  rwa [List.append_nil] at taken

theorem ExponentWritten.mark_of_head? {exponent : Option Int} {e : List Char} (h : ExponentWritten exponent e)
    {c : Char} (first : c ∈ e.head?) : c = 'e' ∨ c = 'E' := by
  cases h with
  | absent => cases first
  | unsigned isMark _ | plus isMark _ | minus isMark _ =>
    obtain rfl := Option.some.inj first
    exact isMark

theorem ExponentWritten.endsDigits {exponent : Option Int} {e : List Char} (h : ExponentWritten exponent e) :
    EndsDigits e := by
  intro c first
  rcases h.mark_of_head? first with rfl | rfl <;> decide

theorem FractionWritten.endsDigits {fraction : Option (List Char)} {exponent : Option Int} {f e : List Char}
    (hf : FractionWritten fraction f) (he : ExponentWritten exponent e) : EndsDigits (f ++ e) := by
  cases hf with
  | absent => exact he.endsDigits
  | digits _ =>
    intro c first
    obtain rfl := Option.some.inj first
    decide

theorem takeFraction?_written {fraction : Option (List Char)} {exponent : Option Int} {f e : List Char}
    (hf : FractionWritten fraction f) (he : ExponentWritten exponent e) :
    takeFraction? (f ++ e) = some (fraction, e) := by
  cases hf with
  | digits isDigits => simp [takeFraction?, takeDigits?_append isDigits he.endsDigits]
  | absent =>
    cases e with
    | nil => rfl
    | cons c cs => rcases he.mark_of_head? rfl with rfl | rfl <;> rfl

theorem takeExponent?_written {exponent : Option Int} {e : List Char} (h : ExponentWritten exponent e) :
    takeExponent? e = some (exponent, []) := by
  have afterMark {mark : Char} {cs : List Char} (isMark : mark = 'e' ∨ mark = 'E') :
      takeExponent? (mark :: cs) = (takeSigned? cs).map fun taken => (some taken.1, taken.2) := by
    rcases isMark with rfl | rfl <;> rfl
  cases h with
  | absent => rfl
  | @unsigned mark cs isMark isDigits =>
    obtain ⟨c, cs, rfl⟩ := List.exists_cons_of_ne_nil isDigits.nonempty
    have digit : c.isDigit := isDigits.digits c (List.mem_cons_self ..)
    have noSign : c ≠ '-' ∧ c ≠ '+' := by
      constructor <;> rintro rfl <;> exact absurd digit (by decide)
    simp [afterMark isMark, takeSigned?, takeDigits?_self isDigits, noSign]
  | plus isMark isDigits => simp [afterMark isMark, takeSigned?, takeDigits?_self isDigits]
  | minus isMark isDigits => simp [afterMark isMark, takeSigned?, takeDigits?_self isDigits]

/-- A written number is split into its parts. -/
theorem Written.ofChars? {l : NumberLiteral} {cs : List Char} (h : l.Written cs) : ofChars? cs = some l := by
  cases h with
  | @intro whole f e fraction exponent negative isDigits noZero hf he =>
    have taken : takeWhole? (whole ++ (f ++ e)) = some (whole, f ++ e) := by
      simp only [takeWhole?, takeDigits?_append isDigits (hf.endsDigits he), Option.bind_eq_bind, Option.bind_some]
      exact if_neg fun zero => zero.2 (noZero zero.1)
    cases negative with
    | true => simp [NumberLiteral.ofChars?, taken, takeFraction?_written hf he, takeExponent?_written he]
    | false =>
      obtain ⟨c, cs, rfl⟩ := List.exists_cons_of_ne_nil isDigits.nonempty
      have digit : c.isDigit := isDigits.digits c (List.mem_cons_self ..)
      have noSign : c ≠ '-' := by
        rintro rfl
        exact absurd digit (by decide)
      have taken : takeWhole? (c :: (cs ++ (f ++ e))) = some (c :: cs, f ++ e) := taken
      simp [NumberLiteral.ofChars?, taken, takeFraction?_written hf he, takeExponent?_written he, noSign]

/-- The digits of an integer are one way to write it. -/
theorem written_intDigits (i : Int) :
    Written ⟨decide (i < 0), decimalDigits i.natAbs, none, none⟩ (intDigits i) := by
  have isDigits : IsDigits (decimalDigits i.natAbs) :=
    ⟨decimalDigits_ne_nil _, fun _ member => isDigit_of_mem_decimalDigits member⟩
  have noZero : (decimalDigits i.natAbs).head? = some '0' → decimalDigits i.natAbs = ['0'] := fun h => by
    rw [decimalDigits_head_zero h, decimalDigits, Nat.toDigits_zero]
  have written := Written.intro (decide (i < 0)) isDigits noZero .absent .absent
  rw [intDigits]
  by_cases negative : i < 0 <;> simpa [negative] using written

theorem ofChars?_intDigits (i : Int) :
    ofChars? (intDigits i) = some ⟨decide (i < 0), decimalDigits i.natAbs, none, none⟩ :=
  (written_intDigits i).ofChars?

end NumberLiteral

/-- An integer reads back from its digits. -/
theorem Number.ofChars?_text_integer (i : Int) (inRange : -0x8000000000000000 ≤ i ∧ i < 0x10000000000000000) :
    Number.ofChars? (Number.integer i inRange).text = some (.integer i inRange) := by
  have value : Nat.ofDigitChars 10 (decimalDigits i.natAbs) 0 = i.natAbs :=
    Nat.ofDigitChars_toDigits (by decide) (by decide)
  have whole : (NumberLiteral.mk (decide (i < 0)) (decimalDigits i.natAbs) none none).integer? = some i := by
    simp only [NumberLiteral.integer?, value]
    by_cases negative : i < 0
    · have nonzero : (i.natAbs == 0) = false := beq_eq_false_iff_ne.mpr (by omega)
      have magnitude : -(i.natAbs : Int) = i := by omega
      rw [nonzero, magnitude]
      simp [negative]
    · have magnitude : (i.natAbs : Int) = i := by omega
      rw [magnitude]
      simp [negative]
  have inside : ofInt? i = some (.integer i inRange) := dif_pos inRange
  simp [ofChars?, text, NumberLiteral.ofChars?_intDigits, ofLiteral?, whole, inside]

end InspectionForms
