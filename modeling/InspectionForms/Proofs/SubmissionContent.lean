import InspectionForms.Proofs.SessionRuns

namespace InspectionForms

universe u v w
variable {σ : Type u} {τ : Type v} {ε : Type w}

/-- Two forms with one form id, in which the same rows can be written. They may show anything. -/
structure Schema.TakesAlike (a b : Schema) : Prop where
  formId : a.formId = b.formId
  rows : ∀ sectionId subSectionId, (a.subSection? sectionId subSectionId).map SubSection.rowCount =
    (b.subSection? sectionId subSectionId).map SubSection.rowCount

def SubSection.bare (sub : SubSection) : SubSection := ⟨sub.id, "", [], sub.rows.map fun _ => ∅⟩

def SectionBody.bare : SectionBody → SectionBody
  | tableGroup subs => tableGroup (subs.map SubSection.bare)
  | _ => infoList []

def Section.bare (s : Section) : Section := ⟨s.id, "", s.body.bare⟩

/-- A form without all that is only shown: no titles, no fields, and tables without columns and defaults. -/
def Schema.bare (schema : Schema) : Schema := ⟨schema.formId, none, schema.sections.map Section.bare⟩

theorem Schema.subSection?_bare (schema : Schema) (sectionId subSectionId : String) :
    schema.bare.subSection? sectionId subSectionId =
      (schema.subSection? sectionId subSectionId).map SubSection.bare := by
  have atSection : schema.bare.section? sectionId = (schema.section? sectionId).map Section.bare := by
    rw [section?, bare, List.find?_map]
    rfl
  rw [subSection?, subSection?, atSection]
  cases schema.section? sectionId with
  | none => rfl
  | some s =>
    obtain ⟨id, title, body⟩ := s
    cases body with
    | tableGroup subs =>
      simp only [Option.map_some, Section.bare, SectionBody.bare, List.find?_map]
      rfl
    | _ => rfl

theorem Schema.takesAlike_bare (schema : Schema) : schema.TakesAlike schema.bare := by
  refine ⟨rfl, fun sectionId subSectionId => ?_⟩
  rw [subSection?_bare, Option.map_map]
  refine Option.map_congr fun sub _ => ?_
  exact (List.length_map _).symm

namespace Schema.TakesAlike

variable {a b : Schema}

theorem rowCount_eq (alike : a.TakesAlike b) (sectionId subSectionId : String) :
    a.rowCount sectionId subSectionId = b.rowCount sectionId subSectionId := by
  have rows (schema : Schema) : schema.rowCount sectionId subSectionId =
      ((schema.subSection? sectionId subSectionId).map SubSection.rowCount).getD 0 := by
    unfold Schema.rowCount
    cases schema.subSection? sectionId subSectionId <;> rfl
  rw [rows a, rows b, alike.rows]

theorem takes_iff (alike : a.TakesAlike b) (target : Target) : a.Takes target ↔ b.Takes target := by
  cases target with
  | field s f => exact Iff.rfl
  | cell s t r c =>
    simp only [Takes, alike.rowCount_eq]

end Schema.TakesAlike

/-- What a store answers to some records, one after the other. -/
def answersTo (add : σ → SubmissionRecord → Except ε Int × σ) :
    σ → List SubmissionRecord → List (Except ε Int)
  | _, [] => []
  | store, record :: rest => (add store record).1 :: answersTo add (add store record).2 rest

namespace SessionRun

variable {addA : σ → SubmissionRecord → Except ε Int × σ} {addB : τ → SubmissionRecord → Except ε Int × τ}

/-- Two runs that stand at the same point for all that is submitted, now and later. -/
structure Alike (addA : σ → SubmissionRecord → Except ε Int × σ)
    (addB : τ → SubmissionRecord → Except ε Int × τ) (a : SessionRun σ ε) (b : SessionRun τ ε) : Prop where
  schemas : a.session.schema.TakesAlike b.session.schema
  answers : a.session.answers = b.session.answers
  phase : a.session.phase = b.session.phase
  handed : a.handed = b.handed
  stores : ∀ records, answersTo addA a.store records = answersTo addB b.store records

namespace Alike

variable {a : SessionRun σ ε} {b : SessionRun τ ε}

theorem isEditing_eq (alike : Alike addA addB a b) : a.session.isEditing = b.session.isEditing := by
  rw [Session.isEditing, Session.isEditing, alike.phase]

theorem submission_eq (alike : Alike addA addB a b) : a.session.submission = b.session.submission := by
  rw [Session.submission, Session.submission, assemble, assemble, Schema.formIdOrUnknown, Schema.formIdOrUnknown,
    alike.schemas.formId, alike.answers]

theorem applyEdit (alike : Alike addA addB a b) (edit : Edit) :
    Alike addA addB { a with session := a.session.applyEdit edit } { b with session := b.session.applyEdit edit } := by
  refine ⟨?_, ?_, ?_, alike.handed, alike.stores⟩
  · dsimp only
    rw [Session.schema_applyEdit, Session.schema_applyEdit]
    exact alike.schemas
  · dsimp only
    rw [Session.applyEdit_eq, Session.applyEdit_eq, alike.isEditing_eq]
    by_cases taken : b.session.isEditing ∧ b.session.schema.Takes edit.target
    · rw [if_pos taken, if_pos ⟨taken.1, (alike.schemas.takes_iff _).mpr taken.2⟩]
      exact congrArg (Answers.put · edit.value edit.target) alike.answers
    · rw [if_neg taken, if_neg fun h => taken ⟨h.1, (alike.schemas.takes_iff _).mp h.2⟩]
      exact alike.answers
  · dsimp only
    rw [Session.phase_applyEdit, Session.phase_applyEdit]
    exact alike.phase

theorem submit (alike : Alike addA addB a b) (now : Int) :
    Alike addA addB (a.call addA (.submit now)).2 (b.call addB (.submit now)).2 := by
  cases editing : b.session.isEditing with
  | false =>
    rw [call_submit_of_submitted addA (alike.isEditing_eq.trans editing), call_submit_of_submitted addB editing]
    exact alike
  | true =>
    have record : a.session.pendingRecord now = b.session.pendingRecord now := by
      rw [Session.pendingRecord, Session.pendingRecord, alike.submission_eq]
    -- The stores answer all records to come alike: this one, and then the rest.
    have answer := alike.stores [b.session.pendingRecord now]
    have later (records : List SubmissionRecord) := alike.stores (b.session.pendingRecord now :: records)
    rw [call_submit_of_editing addA (alike.isEditing_eq.trans editing), call_submit_of_editing addB editing, record]
    simp only [answersTo, List.cons.injEq] at answer later
    generalize addA a.store (b.session.pendingRecord now) = nextA at answer later ⊢
    generalize addB b.store (b.session.pendingRecord now) = nextB at answer later ⊢
    obtain ⟨result, storeA⟩ := nextA
    obtain ⟨_, storeB⟩ := nextB
    obtain rfl := answer.1
    have stores (records : List SubmissionRecord) := (later records).2
    cases result with
    | error cause => exact ⟨alike.schemas, alike.answers, alike.phase, by rw [alike.handed], stores⟩
    | ok id => exact ⟨alike.schemas, alike.answers, rfl, by rw [alike.handed], stores⟩

theorem call (alike : Alike addA addB a b) (call : SessionCall) :
    Alike addA addB (a.call addA call).2 (b.call addB call).2 := by
  cases call with
  | edit edit => exact alike.applyEdit edit
  | submit now => exact alike.submit now
  | readField s f => exact alike
  | readCell s t r c => exact alike
  | render => exact alike

theorem after (alike : Alike addA addB a b) (calls : List SessionCall) :
    Alike addA addB (a.after addA calls) (b.after addB calls) := by
  induction calls generalizing a b with
  | nil => exact alike
  | cons call rest ih => exact ih (alike.call call)

end Alike

theorem alike_start {a b : Schema} (forms : a.TakesAlike b) {storeA : σ} {storeB : τ}
    (stores : ∀ records, answersTo addA storeA records = answersTo addB storeB records) :
    Alike addA addB (start a storeA) (start b storeB) :=
  ⟨forms, rfl, rfl, rfl, stores⟩

/-- Forms with one form id that take the same rows submit the same, after the same calls and to stores that answer
alike. So a form submits what it would without any of its defaults, columns, fields and texts. -/
theorem handed_eq_of_takesAlike {a b : Schema} (forms : a.TakesAlike b) (storeA : σ) (storeB : τ)
    (stores : ∀ records, answersTo addA storeA records = answersTo addB storeB records) (calls : List SessionCall) :
    let runA := (start a storeA).after addA calls
    let runB := (start b storeB).after addB calls
    let runBare := (start a.bare storeA).after addA calls
    (runA.session.submission = runB.session.submission ∧ runA.handed = runB.handed ∧
      runA.session.phase = runB.session.phase) ∧
    runA.session.submission = runBare.session.submission ∧ runA.handed = runBare.handed := by
  intro runA runB runBare
  have alike : Alike addA addB runA runB := (alike_start forms stores).after calls
  have alikeBare : Alike addA addA runA runBare := (alike_start a.takesAlike_bare fun _ => rfl).after calls
  exact ⟨⟨alike.submission_eq, alike.handed, alike.phase⟩, alikeBare.submission_eq, alikeBare.handed⟩

/-- One form with a table of one row, and what it may look like besides. -/
def oneRowForm (columns : List Column) (defaults : SortedMap String Json) (others : List Section) : Schema :=
  ⟨some "F", none, others ++ [⟨"T", "", .tableGroup [⟨"t", "", columns, [defaults]⟩]⟩]⟩

/-- A store that refuses its first record only, as it remembers that there was one. -/
def refusesFirst (seen : Bool) (_ : SubmissionRecord) : Except Unit Int × Bool :=
  (if seen then .ok 1 else .error (), true)

/-- A store that refuses its first record only, as it counts them. -/
def refusesZeroth (count : Nat) (_ : SubmissionRecord) : Except Unit Int × Nat :=
  (if count = 0 then .error () else .ok 1, count + 1)

theorem answersTo_refusesFirst (records : List SubmissionRecord) :
    answersTo refusesFirst false records = answersTo refusesZeroth 0 records := by
  have later (count : Nat) (records : List SubmissionRecord) :
      answersTo refusesFirst true records = answersTo refusesZeroth (count + 1) records := by
    induction records generalizing count with
    | nil => rfl
    | cons record rest ih => exact congrArg (Except.ok 1 :: ·) (ih (count + 1))
  cases records with
  | nil => rfl
  | cons record rest => exact congrArg (Except.error () :: ·) (later 0 rest)

/-- A cell that is read-only and disabled is submitted all the same, and no default is. -/
theorem handed_eq_of_takesAlike_oneRowForm :
    let plain := oneRowForm [] ∅ []
    let shown := oneRowForm [⟨"c", "", .checkbox, false, some "d"⟩] (.ofList [("d", .bool false)])
      [⟨"X", "", .unsupported "x"⟩]
    let calls : List SessionCall := [.edit (.cell "T" "t" 0 "c" .null), .submit 3, .edit (.field "X" "f" (.bool true)),
      .submit 4]
    let cell : Json := .object [("t", .object [("0", .object [("c", .null)])])]
    plain.TakesAlike shown ∧
    ((start shown 0).after refusesZeroth calls).handed = ((start plain false).after refusesFirst calls).handed ∧
    ((start plain false).after refusesFirst calls).handed =
      [(⟨"F", .object [("T", cell)], .pendingSync, 3, 3⟩, .error ()),
        (⟨"F", .object [("T", cell), ("X", .object [("f", .bool true)])], .pendingSync, 4, 4⟩, .ok 1)] := by
  intro plain shown calls cell
  have forms : plain.TakesAlike shown := by
    refine ⟨rfl, fun s t => ?_⟩
    by_cases inTable : s = "T"
    · subst inTable
      by_cases same : t = "t"
      · subst same
        rfl
      · simp [plain, shown, oneRowForm, Schema.subSection?, Schema.section?, Ne.symm same]
    · by_cases inOther : s = "X"
      · subst inOther
        rfl
      · simp [plain, shown, oneRowForm, Schema.subSection?, Schema.section?, Ne.symm inTable, Ne.symm inOther]
  have same := (handed_eq_of_takesAlike forms false 0 answersTo_refusesFirst calls).1
  exact ⟨forms, same.2.1.symm, rfl⟩

end SessionRun

end InspectionForms
