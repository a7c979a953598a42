import InspectionForms.Proofs.Targets

namespace InspectionForms

universe u v
variable {σ : Type u} {ε : Type v}

/-- What can be asked of a session. -/
inductive SessionCall
  | edit (edit : Edit)
  | readField (sectionId fieldId : String)
  | readCell (sectionId subSectionId : String) (row : Nat) (columnId : String)
  | render
  | submit (now : Int)

def SessionCall.edit? : SessionCall → Option Edit
  | .edit made => some made
  | _ => none

/-- The edits among some calls. -/
def SessionCall.edits (calls : List SessionCall) : List Edit := calls.filterMap SessionCall.edit?

inductive SessionAnswer (ε : Type v)
  | edited
  | field (value : Option Json)
  | cell (resolution : CellResolution)
  | rendered (views : List SectionView)
  | submitted (result : Except (SubmitError ε) Receipt)

/-- A session with the store that it submits to, and what that store has been handed so far with its answers. -/
structure SessionRun (σ : Type u) (ε : Type v) where
  session : Session
  store : σ
  handed : List (SubmissionRecord × Except ε Int)

/-- A store that also writes down what it is handed and what it answers. -/
def recorded (add : σ → SubmissionRecord → Except ε Int × σ)
    (state : σ × List (SubmissionRecord × Except ε Int)) (record : SubmissionRecord) :
    Except ε Int × σ × List (SubmissionRecord × Except ε Int) :=
  let (result, store) := add state.1 record
  (result, store, state.2 ++ [(record, result)])

namespace SessionRun

def start (schema : Schema) (store : σ) : SessionRun σ ε := ⟨.new schema, store, []⟩

/-- The records that the store has taken. -/
def accepted (run : SessionRun σ ε) : List (SubmissionRecord × Except ε Int) :=
  run.handed.filter fun entry => entry.2.isOk

variable (add : σ → SubmissionRecord → Except ε Int × σ)

def call (run : SessionRun σ ε) : SessionCall → SessionAnswer ε × SessionRun σ ε
  | .edit edit => (.edited, { run with session := run.session.applyEdit edit })
  | .readField sectionId fieldId => (.field (run.session.field? sectionId fieldId), run)
  | .readCell sectionId subSectionId row columnId =>
    (.cell (run.session.cell sectionId subSectionId row columnId), run)
  | .render => (.rendered run.session.render, run)
  | .submit now =>
    let (result, session, store, handed) := run.session.submit (recorded add) (run.store, run.handed) now
    (.submitted result, ⟨session, store, handed⟩)

def after (run : SessionRun σ ε) (calls : List SessionCall) : SessionRun σ ε :=
  calls.foldl (fun run call => (run.call add call).2) run

variable {add} {run : SessionRun σ ε}

theorem after_append (calls more : List SessionCall) :
    run.after add (calls ++ more) = (run.after add calls).after add more :=
  List.foldl_append

variable (add) in
theorem call_submit_of_editing (editing : run.session.isEditing) (now : Int) :
    run.call add (.submit now) =
      match add run.store (run.session.pendingRecord now) with
      | (.error cause, store) => (.submitted (.error (.notPersisted cause)),
        ⟨run.session, store, run.handed ++ [(run.session.pendingRecord now, .error cause)]⟩)
      | (.ok id, store) => (.submitted (.ok ⟨id, run.session.schema.formIdOrUnknown⟩),
        ⟨{ run.session with phase := .submitted id }, store,
          run.handed ++ [(run.session.pendingRecord now, .ok id)]⟩) := by
  rw [call, Session.submit, if_pos editing, recorded]
  rcases add run.store (run.session.pendingRecord now) with ⟨_ | id, store⟩ <;> rfl

variable (add) in
theorem call_submit_of_submitted (submitted : run.session.isEditing = false) (now : Int) :
    run.call add (.submit now) = (.submitted (.error .alreadySubmitted), run) := by
  rw [call, Session.submit, submitted]
  rfl

/-- A submitted session stays as it is, and its store is not called any more. -/
theorem call_of_submitted (submitted : run.session.isEditing = false) (call : SessionCall) :
    (run.call add call).2 = run := by
  cases call with
  | submit now => rw [call_submit_of_submitted add submitted]
  | edit edit =>
    have same : run.session.applyEdit edit = run.session := by
      rw [Session.applyEdit_eq, submitted, if_neg (by simp)]
    rw [SessionRun.call, same]
  | _ => rfl

theorem after_of_submitted (submitted : run.session.isEditing = false) (calls : List SessionCall) :
    run.after add calls = run := by
  induction calls with
  | nil => rfl
  | cons call rest ih =>
    have step : run.after add (call :: rest) = (run.call add call).2.after add rest := rfl
    rw [step, call_of_submitted submitted, ih]

/-- Where a run can stand. While the session is edited, every record so far has been refused and no edit has been
lost. Once it is submitted, exactly one record has been taken, under the id in the phase. -/
inductive Stands (schema : Schema) (calls : List SessionCall) (run : SessionRun σ ε) : Prop
  | editing : run.session = (Session.new schema).applyEdits (SessionCall.edits calls) → run.accepted = [] →
      Stands schema calls run
  | submitted (id : Int) (record : SubmissionRecord) : run.session.phase = .submitted id →
      run.accepted = [(record, .ok id)] → Stands schema calls run

variable {schema : Schema} {calls : List SessionCall}

theorem stands_start (schema : Schema) (store : σ) : (start schema store : SessionRun σ ε).Stands schema [] :=
  .editing rfl rfl

theorem Stands.isEditing_iff (stands : run.Stands schema calls) : run.session.isEditing ↔ run.accepted = [] := by
  cases stands with
  | editing same none =>
    refine iff_of_true ?_ none
    rw [same, Session.isEditing, Session.phase_applyEdits]
    rfl
  | submitted id record phase taken =>
    rw [taken, Session.isEditing, phase]
    exact ⟨fun h => (nomatch h), fun h => (nomatch h)⟩

theorem accepted_append (session : Session) (store : σ) (handed : List (SubmissionRecord × Except ε Int))
    (entry : SubmissionRecord × Except ε Int) :
    accepted ⟨session, store, handed ++ [entry]⟩ =
      accepted ⟨session, store, handed⟩ ++ if entry.2.isOk then [entry] else [] := by
  rw [accepted, List.filter_append, List.filter_cons, List.filter_nil]
  rfl

variable (add) in
theorem Stands.call (stands : run.Stands schema calls) (call : SessionCall) :
    (run.call add call).2.Stands schema (calls ++ [call]) := by
  have editing_iff := stands.isEditing_iff
  cases stands with
  | submitted id record phase taken =>
    have closed : run.session.isEditing = false := by
      rw [Session.isEditing, phase]
      rfl
    rw [call_of_submitted closed]
    exact .submitted id record phase taken
  | editing same none =>
    have append : SessionCall.edits (calls ++ [call]) = SessionCall.edits calls ++ SessionCall.edits [call] :=
      List.filterMap_append
    have unchanged (silent : call.edit? = Option.none) :
        run.session = (Session.new schema).applyEdits (SessionCall.edits (calls ++ [call])) := by
      have nothing : SessionCall.edits [call] = [] := List.filterMap_cons_none silent
      rw [append, nothing, List.append_nil]
      exact same
    cases call with
    | edit edit =>
      refine .editing ?_ none
      rw [append, Session.applyEdits_append, ← same]
      rfl
    | submit now =>
      rw [call_submit_of_editing add (editing_iff.mpr none)]
      rcases add run.store (run.session.pendingRecord now) with ⟨cause | id, store⟩
      · refine .editing (unchanged rfl) ?_
        rw [accepted_append]
        exact (List.append_nil _).trans none
      · refine .submitted id (run.session.pendingRecord now) rfl ?_
        rw [accepted_append]
        exact congrArg (· ++ [(run.session.pendingRecord now, Except.ok id)]) none
    | readField s f => exact .editing (unchanged rfl) none
    | readCell s t r c => exact .editing (unchanged rfl) none
    | render => exact .editing (unchanged rfl) none

/-- Where a run stands after any calls. -/
theorem Stands.after (stands : run.Stands schema calls) (more : List SessionCall) :
    (run.after add more).Stands schema (calls ++ more) := by
  induction more generalizing run calls with
  | nil => rwa [List.append_nil]
  | cons call rest ih =>
    have next := ih (stands.call add call)
    rwa [List.append_assoc] at next

theorem Stands.accepted_length (stands : run.Stands schema calls) :
    run.accepted.length ≤ 1 ∧ (run.accepted.length = 1 ↔ ∃ id, run.session.phase = .submitted id) := by
  have editing_iff := stands.isEditing_iff
  cases stands with
  | editing same none =>
    have phase : run.session.phase = .editing := eq_of_beq (editing_iff.mpr none)
    rw [none, phase]
    exact ⟨Nat.zero_le 1, fun h => (nomatch h), fun ⟨id, h⟩ => (nomatch h)⟩
  | submitted id record phase taken =>
    rw [taken]
    exact ⟨Nat.le_refl 1, fun _ => ⟨id, phase⟩, fun _ => rfl⟩

theorem Stands.session_eq (stands : run.Stands schema calls) (none : run.accepted = []) :
    run.session = (Session.new schema).applyEdits (SessionCall.edits calls) := by
  cases stands with
  | editing same _ => exact same
  | submitted id record _ taken => exact nomatch taken.symm.trans none

theorem handed_of_not_submit (run : SessionRun σ ε) {call : SessionCall} (other : ∀ now, call ≠ .submit now) :
    (run.call add call).2.handed = run.handed := by
  cases call with
  | submit now => exact absurd rfl (other now)
  | _ => rfl

/-- A submit hands over what has been written so far, unless a record has been taken already. -/
theorem Stands.call_submit (stands : run.Stands schema calls) (now : Int) :
    let answer := (run.call add (.submit now)).1
    let next := (run.call add (.submit now)).2
    let record : SubmissionRecord := ⟨schema.formIdOrUnknown, run.session.answers.snapshot, .pendingSync, now, now⟩
    if run.accepted = [] then
      next.handed = run.handed ++ [(record, (add run.store record).1)] ∧
      match (add run.store record).1 with
      | .error cause => answer = .submitted (.error (.notPersisted cause)) ∧ next.session = run.session
      | .ok id => answer = .submitted (.ok ⟨id, schema.formIdOrUnknown⟩) ∧
        next.session = { run.session with phase := .submitted id }
    else answer = .submitted (.error .alreadySubmitted) ∧ next = run := by
  intro answer next record
  by_cases none : run.accepted = []
  · have sameSchema : run.session.schema = schema := by
      rw [stands.session_eq none, Session.schema_applyEdits]
      rfl
    have pending : run.session.pendingRecord now =
        ⟨schema.formIdOrUnknown, run.session.answers.snapshot, .pendingSync, now, now⟩ := by
      rw [← sameSchema]
      rfl
    have called := call_submit_of_editing add (stands.isEditing_iff.mpr none) now
    rw [pending, sameSchema] at called
    rw [if_pos none]
    simp only [answer, next, called]
    rcases add run.store record with ⟨cause | id, store⟩
    · exact ⟨rfl, rfl, rfl⟩
    · exact ⟨rfl, rfl, rfl⟩
  · have closed : run.session.isEditing = false := Bool.eq_false_iff.mpr (mt stands.isEditing_iff.mp none)
    have called := call_submit_of_submitted add closed now
    rw [if_neg none]
    exact ⟨congrArg Prod.fst called, congrArg Prod.snd called⟩

/-- The whole life of a session, whatever its store answers and in whatever order it is called. At most one record is
taken, and one exactly if the session ends up submitted. Until then each submit hands over one record of all edits so
far, and one that is refused changes nothing. From then on nothing changes at all, and the store is left alone. -/
theorem lifecycle (schema : Schema) (add : σ → SubmissionRecord → Except ε Int × σ) (store : σ)
    (calls : List SessionCall) :
    let run := (start schema store).after add calls
    (run.accepted.length ≤ 1 ∧ (run.accepted.length = 1 ↔ ∃ id, run.session.phase = .submitted id)) ∧
    ∀ before later, calls = before ++ later →
      let early := (start schema store).after add before
      (early.accepted = [] → early.session = (Session.new schema).applyEdits (SessionCall.edits before)) ∧
      (early.accepted ≠ [] → run = early) ∧
      ∀ call rest, later = call :: rest →
        ((∀ now, call ≠ .submit now) → (early.call add call).2.handed = early.handed) ∧
        ∀ now, call = .submit now →
          let answer := (early.call add call).1
          let next := (early.call add call).2
          let record : SubmissionRecord :=
            ⟨schema.formIdOrUnknown, early.session.answers.snapshot, .pendingSync, now, now⟩
          if early.accepted = [] then
            next.handed = early.handed ++ [(record, (add early.store record).1)] ∧
            match (add early.store record).1 with
            | .error cause => answer = .submitted (.error (.notPersisted cause)) ∧ next.session = early.session
            | .ok id => answer = .submitted (.ok ⟨id, schema.formIdOrUnknown⟩) ∧
              next.session = { early.session with phase := .submitted id }
          else answer = .submitted (.error .alreadySubmitted) ∧ next = early := by
  intro run
  refine ⟨((stands_start schema store).after calls).accepted_length, ?_⟩
  rintro before later rfl early
  have stands : early.Stands schema before := (stands_start schema store).after before
  refine ⟨stands.session_eq, fun taken => ?_, fun call rest _ => ⟨early.handed_of_not_submit, ?_⟩⟩
  · have closed : early.session.isEditing = false := Bool.eq_false_iff.mpr (mt stands.isEditing_iff.mp taken)
    exact (after_append before later).trans (after_of_submitted closed later)
  · rintro now rfl
    exact stands.call_submit now

end SessionRun

end InspectionForms
