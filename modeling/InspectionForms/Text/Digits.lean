namespace InspectionForms

def decimalDigits (n : Nat) : List Char := Nat.toDigits 10 n

/-- The digits of a number, with zeros in front up to a width. -/
def paddedDigits (width n : Nat) : List Char := (decimalDigits n).leftpad width '0'

def naturalOfDigits? (cs : List Char) : Option Nat :=
  if cs.isEmpty || !cs.all Char.isDigit then none else some (Nat.ofDigitChars 10 cs 0)

theorem naturalOfDigits?_eq_some_iff {cs : List Char} {n : Nat} :
    naturalOfDigits? cs = some n ↔ cs ≠ [] ∧ (∀ c ∈ cs, c.isDigit) ∧ Nat.ofDigitChars 10 cs 0 = n := by
  simp only [naturalOfDigits?, Option.ite_none_left_eq_some, Option.some.injEq, Bool.or_eq_true,
    List.isEmpty_iff, Bool.not_eq_true', List.all_eq_false, not_or, not_exists, not_and, Classical.not_not,
    and_assoc, ne_eq]

/-- A sign is no digit. -/
theorem ne_cons_of_naturalOfDigits? {digits : List Char} {n : Nat} (numeral : naturalOfDigits? digits = some n)
    {c : Char} (noDigit : c.isDigit = false) (cs : List Char) : digits ≠ c :: cs := by
  rintro rfl
  have isDigit := (naturalOfDigits?_eq_some_iff.mp numeral).2.1 c List.mem_cons_self
  rw [noDigit] at isDigit
  cases isDigit

theorem naturalOfDigits?_decimalDigits (n : Nat) : naturalOfDigits? (decimalDigits n) = some n := by
  have digits : ∀ c ∈ decimalDigits n, c.isDigit :=
    fun c hc => Nat.isDigit_of_mem_toDigits (by decide) (by decide) hc
  have value : Nat.ofDigitChars 10 (decimalDigits n) 0 = n := Nat.ofDigitChars_toDigits (by decide) (by decide)
  have nonempty : decimalDigits n ≠ [] := Nat.toDigits_ne_nil
  simp [naturalOfDigits?, nonempty, value, List.all_eq_true.mpr digits]

def hexValue? (c : Char) : Option Nat :=
  if c.isDigit then some (c.toNat - '0'.toNat)
  else if 'a' ≤ c ∧ c ≤ 'f' then some (c.toNat - 'a'.toNat + 10)
  else if 'A' ≤ c ∧ c ≤ 'F' then some (c.toNat - 'A'.toNat + 10)
  else none

def leadingHexadecimal (number : Nat) : List Char → Nat
  | [] => number
  | c :: rest =>
    match hexValue? c with
    | some digit => leadingHexadecimal (16 * number + digit) rest
    | none => number

def InInt64 (i : Int) : Prop := -0x8000000000000000 ≤ i ∧ i < 0x8000000000000000

instance (i : Int) : Decidable (InInt64 i) := inferInstanceAs (Decidable (_ ∧ _))

/-- A 64-bit signed integer: decimal digits behind at most one sign. -/
def readInt64? (text : String) : Option Int := do
  let value : Int ← match text.toList with
    | '-' :: cs => (naturalOfDigits? cs).map fun n => -n
    | '+' :: cs => (naturalOfDigits? cs).map fun n => n
    | cs => (naturalOfDigits? cs).map fun n => n
  if InInt64 value then some value else none

/-- A 64-bit natural number: decimal digits, with at most a plus in front. -/
def readNat64? (text : String) : Option Nat := do
  let value ← match text.toList with
    | '+' :: cs => naturalOfDigits? cs
    | cs => naturalOfDigits? cs
  if value < 0x10000000000000000 then some value else none

theorem bind_guarded_eq_some_iff {α : Type} {holds : α → Prop} [DecidablePred holds] {found : Option α} {a : α} :
    (found.bind fun a => if holds a then some a else none) = some a ↔ found = some a ∧ holds a := by
  cases found with
  | none => simp
  | some b =>
    rw [Option.bind_some, Option.ite_none_right_eq_some, Option.some.injEq]
    exact ⟨fun ⟨h, same⟩ => ⟨same, same ▸ h⟩, fun ⟨same, h⟩ => ⟨same ▸ h, same⟩⟩

theorem readNat64?_eq_some_iff {text : String} {n : Nat} :
    readNat64? text = some n ↔ n < 0x10000000000000000 ∧ ∃ digits, naturalOfDigits? digits = some n ∧
      (text.toList = digits ∨ text.toList = '+' :: digits) := by
  constructor
  · intro read
    unfold readNat64? at read
    split at read
    · next digits signed =>
      obtain ⟨numeral, fits⟩ := bind_guarded_eq_some_iff.mp read
      exact ⟨fits, digits, numeral, .inr signed⟩
    · obtain ⟨numeral, fits⟩ := bind_guarded_eq_some_iff.mp read
      exact ⟨fits, _, numeral, .inl rfl⟩
  · rintro ⟨fits, digits, numeral, written⟩
    unfold readNat64?
    rcases written with bare | signed
    · rw [bare]
      split
      · next cs => exact absurd rfl (ne_cons_of_naturalOfDigits? numeral (by decide) cs)
      · exact bind_guarded_eq_some_iff.mpr ⟨numeral, fits⟩
    · rw [signed]
      exact bind_guarded_eq_some_iff.mpr ⟨numeral, fits⟩

theorem readInt64?_eq_some_iff {text : String} {i : Int} :
    readInt64? text = some i ↔ InInt64 i ∧ ∃ digits n, naturalOfDigits? digits = some n ∧
      (text.toList = digits ∧ i = n ∨ text.toList = '+' :: digits ∧ i = n ∨ text.toList = '-' :: digits ∧ i = -n) := by
  have value {digits : List Char} {f : Int → Int} {i : Int} :
      (Option.map f do let n ← naturalOfDigits? digits; pure ↑n) = some i ↔
        ∃ n : Nat, naturalOfDigits? digits = some n ∧ f n = i := by
    cases naturalOfDigits? digits <;> simp
  constructor
  · intro read
    unfold readInt64? at read
    split at read
    · next digits signed =>
      obtain ⟨written, fits⟩ := bind_guarded_eq_some_iff.mp read
      obtain ⟨n, numeral, same⟩ := value.mp written
      exact ⟨fits, digits, n, numeral, .inr (.inr ⟨signed, same.symm⟩)⟩
    · next digits signed =>
      obtain ⟨written, fits⟩ := bind_guarded_eq_some_iff.mp read
      obtain ⟨n, numeral, same⟩ := value.mp written
      exact ⟨fits, digits, n, numeral, .inr (.inl ⟨signed, same.symm⟩)⟩
    · obtain ⟨written, fits⟩ := bind_guarded_eq_some_iff.mp read
      obtain ⟨n, numeral, same⟩ := value.mp written
      exact ⟨fits, _, n, numeral, .inl ⟨rfl, same.symm⟩⟩
  · rintro ⟨fits, digits, n, numeral, written⟩
    unfold readInt64?
    rcases written with ⟨bare, same⟩ | ⟨signed, same⟩ | ⟨signed, same⟩
    · rw [bare]
      split
      · next cs => exact absurd rfl (ne_cons_of_naturalOfDigits? numeral (by decide) cs)
      · next cs => exact absurd rfl (ne_cons_of_naturalOfDigits? numeral (by decide) cs)
      · exact bind_guarded_eq_some_iff.mpr ⟨value.mpr ⟨n, numeral, same.symm⟩, fits⟩
    · rw [signed]
      exact bind_guarded_eq_some_iff.mpr ⟨value.mpr ⟨n, numeral, same.symm⟩, fits⟩
    · rw [signed]
      exact bind_guarded_eq_some_iff.mpr ⟨value.mpr ⟨n, numeral, same.symm⟩, fits⟩

def intDigits (i : Int) : List Char :=
  if i < 0 then '-' :: decimalDigits i.natAbs else decimalDigits i.natAbs

def intText (i : Int) : String := String.ofList (intDigits i)

def natText (n : Nat) : String := String.ofList (decimalDigits n)

end InspectionForms
