import InspectionForms.Proofs.RenderLocality
import InspectionForms.Proofs.TablePositions

namespace InspectionForms

universe u v

theorem isTruthyValue_eq_false_iff (value : Option Json) :
    isTruthyValue value = false ↔ ∀ json, value = some json → json.isTruthy = false := by
  cases value <;> simp [isTruthyValue]

theorem Schema.condition?_eq_some_iff {schema : Schema} {s t c x : String} :
    schema.condition? s t c = some x ↔ ∃ sub column, schema.subSection? s t = some sub ∧
      sub.column? c = some column ∧ column.visibleIf = some x := by
  simp only [condition?, Option.bind_eq_some_iff]
  constructor
  · rintro ⟨column, ⟨sub, atTable, atColumn⟩, condition⟩
    exact ⟨sub, column, atTable, atColumn, condition⟩
  · rintro ⟨sub, column, atTable, atColumn, condition⟩
    exact ⟨column, ⟨sub, atTable, atColumn⟩, condition⟩

section Resolution

variable (schema : Schema) (answers : Answers) (s t : String) (r : Nat) (c : String)

theorem cellValue?_eq_or : cellValue? schema answers s t r c =
    (answers.get? (.cell s t r c)).or ((schema.subSection? s t).bind fun sub => sub.default? r c) := by
  rw [cellValue?, Answers.get?]
  cases answers.cell? s t r c <;> rfl

theorem resolveCell_value : (resolveCell schema answers s t r c).value = cellValue? schema answers s t r c := by
  rw [resolveCell_eq]

/-- A cell is switched by the value of the cell that its condition names, not by whether that one is enabled. -/
theorem resolveCell_enabled_eq_false_iff : (resolveCell schema answers s t r c).enabled = false ↔
    ∃ sub column x, schema.subSection? s t = some sub ∧ sub.column? c = some column ∧ column.visibleIf = some x ∧
      ∀ value, (resolveCell schema answers s t r x).value = some value → value.isTruthy = false := by
  simp only [resolveCell_eq]
  constructor
  · intro disabled
    cases condition : schema.condition? s t c with
    | none =>
      rw [condition] at disabled
      cases disabled
    | some x =>
      rw [condition, Option.all_some, isTruthyValue_eq_false_iff] at disabled
      obtain ⟨sub, column, atTable, atColumn, gate⟩ := Schema.condition?_eq_some_iff.mp condition
      exact ⟨sub, column, x, atTable, atColumn, gate, disabled⟩
  · rintro ⟨sub, column, x, atTable, atColumn, gate, falsy⟩
    rw [Schema.condition?_eq_some_iff.mpr ⟨sub, column, atTable, atColumn, gate⟩, Option.all_some,
      isTruthyValue_eq_false_iff]
    exact falsy

theorem resolveCell_congr {schema : Schema} {a b : Answers} {s t : String} {r : Nat} {c : String}
    (own : a.get? (.cell s t r c) = b.get? (.cell s t r c))
    (gate : ∀ x, schema.condition? s t c = some x → a.get? (.cell s t r x) = b.get? (.cell s t r x)) :
    resolveCell schema a s t r c = resolveCell schema b s t r c := by
  rw [resolveCell_eq, resolveCell_eq, cellValue?_congr own]
  cases condition : schema.condition? s t c with
  | none => rfl
  | some x => rw [Option.all_some, Option.all_some, cellValue?_congr (gate x condition)]

end Resolution

namespace SessionRun

variable {σ : Type u} {ε : Type v} (add : σ → SubmissionRecord → Except ε Int × σ)

theorem cell_after_eq (schema : Schema) (store : σ) (calls : List SessionCall) (s t : String) (r : Nat) (c : String) :
    ((start schema store).after add calls).session.cell s t r c =
      resolveCell schema ((start schema store).after add calls).session.answers s t r c := by
  rw [Session.cell, schema_after]
  rfl

/-- After any calls a cell has the value that was written in it last before the session was submitted, be it null or
false, and otherwise the default of its row in the first table with its ids, declared column or not. A cell beyond the
rows of the form has none. It is disabled exactly if its column has a condition and the cell that this names shows no
value or one that counts as false, whatever the state of that cell. So runs that write alike in a cell and in the one
of its condition leave the cell alike. -/
theorem cell_after (schema : Schema) (store : σ) (calls : List SessionCall) (s t : String) (r : Nat) (c : String) :
    let run := (start schema store).after add calls
    let written := schema.lastWrite? ((start schema store).timelyEdits add calls)
    let cell := run.session.cell s t r c
    cell.value = (written (.cell s t r c)).or
      ((schema.subSection? s t).bind fun sub => sub.rows[r]?.bind fun defaults => defaults.get? c) ∧
    ((∀ sub, schema.subSection? s t = some sub → sub.rows.length ≤ r) → cell.value = none) ∧
    (cell.enabled = false ↔ ∃ sub column x, schema.subSection? s t = some sub ∧ sub.column? c = some column ∧
      column.visibleIf = some x ∧
      ∀ value, (run.session.cell s t r x).value = some value → value.isTruthy = false) ∧
    ∀ (otherAdd : σ → SubmissionRecord → Except ε Int × σ) (otherStore : σ) (otherCalls : List SessionCall),
      let otherRun := (start schema otherStore).after otherAdd otherCalls
      let otherWritten := schema.lastWrite? ((start schema otherStore).timelyEdits otherAdd otherCalls)
      otherWritten (.cell s t r c) = written (.cell s t r c) →
      (∀ sub column x, schema.subSection? s t = some sub → sub.column? c = some column → column.visibleIf = some x →
        otherWritten (.cell s t r x) = written (.cell s t r x)) →
      otherRun.session.cell s t r c = cell := by
  intro run written cell
  have same : run.session.answers.get? = written := get?_answers_start add schema store calls
  have resolved (x : String) : run.session.cell s t r x = resolveCell schema run.session.answers s t r x :=
    cell_after_eq add schema store calls s t r x
  have value : cell.value = (written (.cell s t r c)).or
      ((schema.subSection? s t).bind fun sub => sub.default? r c) := by
    rw [← same, ← cellValue?_eq_or, ← resolveCell_value, ← resolved]
  refine ⟨value, fun absent => ?_, ?_, ?_⟩
  · have noDefault : ((schema.subSection? s t).bind fun sub => sub.default? r c) = none := by
      cases found : schema.subSection? s t with
      | none => rfl
      | some sub =>
        rw [Option.bind_some, SubSection.default?, List.getElem?_eq_none (absent sub found), Option.bind_none]
    rw [value, noDefault, Option.or_none]
    exact Schema.lastWrite?_of_not_takes (Schema.not_takes_cell absent c) _
  · simp only [cell, resolved]
    exact resolveCell_enabled_eq_false_iff schema run.session.answers s t r c
  · intro otherAdd otherStore otherCalls otherRun otherWritten own gate
    have otherSame : otherRun.session.answers.get? = otherWritten :=
      get?_answers_start otherAdd schema otherStore otherCalls
    have otherResolved : otherRun.session.cell s t r c = resolveCell schema otherRun.session.answers s t r c :=
      cell_after_eq otherAdd schema otherStore otherCalls s t r c
    rw [← same, ← otherSame] at own
    refine otherResolved.trans (Eq.trans (resolveCell_congr own fun x condition => ?_) (resolved c).symm)
    obtain ⟨sub, column, atTable, atColumn, visibleIf⟩ := Schema.condition?_eq_some_iff.mp condition
    have gateWritten := gate sub column x atTable atColumn visibleIf
    rwa [← same, ← otherSame] at gateWritten

/-- Two boxes that switch each other, in the first of two tables with one id. -/
def gateCycle : Schema :=
  let boxes : List Column := [⟨"a", "A", .checkbox, true, some "b"⟩, ⟨"b", "B", .checkbox, true, some "a"⟩]
  ⟨none, none, [⟨"T", "", .tableGroup [⟨"t", "", boxes, [.ofList [("a", .bool true)], ∅]⟩,
    ⟨"t", "", boxes, [∅, ∅, .ofList [("b", .bool true)]]⟩]⟩]⟩

/-- Null over the default of one box disables the other, and writing after the submission does not bring it back. A run
that does other things around the same last write shows the same. The third row of the second table is never seen. The
default enables the other box, and so does every value written in its place but false, zero and the empty text. -/
theorem cell_after_gateCycle :
    let run := (start gateCycle ()).after (takesAll 7) [.edit (.cell "T" "t" 0 "a" .null), .submit 5,
      .edit (.cell "T" "t" 0 "a" (.bool true))]
    let otherRun := (start gateCycle ()).after (takesAll 8) [.edit (.cell "T" "t" 0 "a" (.bool true)),
      .edit (.cell "T" "t" 1 "b" (.bool true)), .edit (.field "T" "b" (.bool true)),
      .edit (.cell "T" "t" 0 "a" .null), .edit (.cell "T" "t" 2 "a" (.bool true))]
    let switched (value : Json) :=
      ((start gateCycle ()).after (takesAll 7) [.edit (.cell "T" "t" 0 "a" value)]).session.cell "T" "t" 0 "b"
    (run.session.cell "T" "t" 0 "a").value = some .null ∧ (run.session.cell "T" "t" 2 "b").value = none ∧
    (run.session.cell "T" "t" 0 "b").enabled = false ∧
    otherRun.session.cell "T" "t" 0 "b" = run.session.cell "T" "t" 0 "b" ∧
    (((start gateCycle ()).after (takesAll 7) []).session.cell "T" "t" 0 "b").enabled = true ∧
    (∀ value ∈ [.ofInt 1, .ofInt (-1), .string "0", .string " ", .bool true, .array [], .object []],
      (switched value).enabled = true) ∧
    ∀ value ∈ [.ofInt 0, .string "", .bool false], (switched value).enabled = false := by
  intro run otherRun switched
  let calls : List SessionCall :=
    [.edit (.cell "T" "t" 0 "a" .null), .submit 5, .edit (.cell "T" "t" 0 "a" (.bool true))]
  let otherCalls : List SessionCall := [.edit (.cell "T" "t" 0 "a" (.bool true)),
    .edit (.cell "T" "t" 1 "b" (.bool true)), .edit (.field "T" "b" (.bool true)),
    .edit (.cell "T" "t" 0 "a" .null), .edit (.cell "T" "t" 2 "a" (.bool true))]
  have gate : (run.session.cell "T" "t" 0 "a").value = some .null :=
    (cell_after (takesAll 7) gateCycle () calls "T" "t" 0 "a").1.trans rfl
  obtain ⟨-, beyond, -⟩ := cell_after (takesAll 7) gateCycle () calls "T" "t" 2 "b"
  obtain ⟨-, -, disabled, alike⟩ := cell_after (takesAll 7) gateCycle () calls "T" "t" 0 "b"
  have enabled (calls : List SessionCall) (value : Json) (truthy : value.isTruthy = true)
      (shown : (((start gateCycle ()).after (takesAll 7) calls).session.cell "T" "t" 0 "a").value = some value) :
      (((start gateCycle ()).after (takesAll 7) calls).session.cell "T" "t" 0 "b").enabled = true := by
    obtain ⟨-, -, disabled, -⟩ := cell_after (takesAll 7) gateCycle () calls "T" "t" 0 "b"
    refine eq_true_of_ne_false fun off => ?_
    obtain ⟨sub, column, x, found, atColumn, condition, falsy⟩ := disabled.mp off
    obtain rfl := Option.some.inj found
    obtain rfl := Option.some.inj atColumn
    obtain rfl := Option.some.inj condition
    cases truthy.symm.trans (falsy value shown)
  have written (value : Json) : (((start gateCycle ()).after (takesAll 7)
      [.edit (.cell "T" "t" 0 "a" value)]).session.cell "T" "t" 0 "a").value = some value :=
    (cell_after (takesAll 7) gateCycle () [.edit (.cell "T" "t" 0 "a" value)] "T" "t" 0 "a").1.trans rfl
  have truthy : ∀ value ∈ [.ofInt 1, .ofInt (-1), .string "0", .string " ", .bool true, .array [], .object []],
      Json.isTruthy value = true := by
    simp only [List.forall_mem_cons]
    exact ⟨rfl, rfl, rfl, rfl, rfl, rfl, rfl, List.forall_mem_nil _⟩
  have falsy : ∀ value ∈ [.ofInt 0, .string "", .bool false], Json.isTruthy value = false := by
    simp only [List.forall_mem_cons]
    exact ⟨rfl, rfl, rfl, List.forall_mem_nil _⟩
  refine ⟨gate, beyond fun sub found => ?_, disabled.mpr ⟨_, _, "a", rfl, rfl, rfl, fun value shown => ?_⟩,
    alike (takesAll 8) () otherCalls rfl fun sub column x found atColumn condition => ?_, ?_, fun value member => ?_,
    fun value member => ?_⟩
  · obtain rfl := Option.some.inj found
    exact Nat.le_refl 2
  · rw [gate] at shown
    obtain rfl := Option.some.inj shown
    rfl
  · obtain rfl := Option.some.inj found
    obtain rfl := Option.some.inj atColumn
    obtain rfl := Option.some.inj condition
    rfl
  · exact enabled [] (.bool true) rfl ((cell_after (takesAll 7) gateCycle () [] "T" "t" 0 "a").1.trans rfl)
  · exact enabled _ value (truthy value member) (written value)
  · obtain ⟨-, -, disabled, -⟩ :=
      cell_after (takesAll 7) gateCycle () [.edit (.cell "T" "t" 0 "a" value)] "T" "t" 0 "b"
    refine disabled.mpr ⟨_, _, "a", rfl, rfl, rfl, fun shown same => ?_⟩
    obtain rfl := Option.some.inj ((written value).symm.trans same)
    exact falsy value member

end SessionRun

end InspectionForms
