import InspectionForms.Proofs.LastWrites
import InspectionForms.Proofs.SessionRuns

namespace InspectionForms

universe u v
variable {σ : Type u} {ε : Type v}

theorem Schema.lastWrite?_append (schema : Schema) (edits more : List Edit) (target : Target) :
    schema.lastWrite? (edits ++ more) target = (schema.lastWrite? more target).or (schema.lastWrite? edits target) := by
  rw [lastWrite?, lastWrite?, lastWrite?, List.filter_append, List.getLast?_append, Option.map_or]

namespace SessionRun

variable (add : σ → SubmissionRecord → Except ε Int × σ)

/-- The edits among some calls that come while the session is still edited. -/
def timelyEdits (run : SessionRun σ ε) : List SessionCall → List Edit
  | [] => []
  | call :: rest =>
    (if run.session.isEditing then call.edit?.toList else []) ++ timelyEdits (run.call add call).2 rest

/-- A submission changes the phase of a session at most. -/
theorem session_call_submit (run : SessionRun σ ε) (now : Int) :
    ∃ phase, (run.call add (.submit now)).2.session = { run.session with phase := phase } := by
  cases editing : run.session.isEditing with
  | false =>
    rw [call_submit_of_submitted add editing]
    exact ⟨run.session.phase, rfl⟩
  | true =>
    rw [call_submit_of_editing add editing]
    rcases add run.store (run.session.pendingRecord now) with ⟨_ | id, _⟩
    · exact ⟨run.session.phase, rfl⟩
    · exact ⟨.submitted id, rfl⟩

theorem schema_call (run : SessionRun σ ε) (call : SessionCall) :
    (run.call add call).2.session.schema = run.session.schema := by
  cases call with
  | edit edit => exact run.session.schema_applyEdit edit
  | submit now =>
    obtain ⟨phase, session⟩ := run.session_call_submit add now
    rw [session]
  | _ => rfl

theorem schema_after (run : SessionRun σ ε) (calls : List SessionCall) :
    (run.after add calls).session.schema = run.session.schema := by
  induction calls generalizing run with
  | nil => rfl
  | cons call rest ih => exact (ih (run.call add call).2).trans (run.schema_call add call)

/-- Of all calls only edits change what has been written. -/
theorem answers_call (run : SessionRun σ ε) (call : SessionCall) :
    (run.call add call).2.session.answers = (run.session.applyEdits call.edit?.toList).answers := by
  cases call with
  | submit now =>
    obtain ⟨phase, session⟩ := run.session_call_submit add now
    rw [session]
    rfl
  | _ => rfl

theorem get?_answers_call (run : SessionRun σ ε) (call : SessionCall) (target : Target) :
    (run.call add call).2.session.answers.get? target =
      (run.session.schema.lastWrite? (if run.session.isEditing then call.edit?.toList else []) target).or
        (run.session.answers.get? target) := by
  by_cases editing : run.session.isEditing
  · rw [answers_call, Session.get?_applyEdits editing, if_pos editing]
  · rw [call_of_submitted (Bool.eq_false_iff.mpr editing), if_neg editing]
    rfl

/-- After any calls there stands at each target what was written there last before the session was submitted. -/
theorem get?_answers_after (run : SessionRun σ ε) (calls : List SessionCall) (target : Target) :
    (run.after add calls).session.answers.get? target =
      (run.session.schema.lastWrite? (run.timelyEdits add calls) target).or (run.session.answers.get? target) := by
  induction calls generalizing run with
  | nil => rfl
  | cons call rest ih =>
    have next := ih (run.call add call).2
    rw [schema_call, get?_answers_call, ← Option.or_assoc, ← Schema.lastWrite?_append] at next
    exact next

theorem get?_answers_start (schema : Schema) (store : σ) (calls : List SessionCall) :
    ((start schema store).after add calls).session.answers.get? =
      schema.lastWrite? ((start schema store).timelyEdits add calls) := by
  funext target
  rw [get?_answers_after]
  exact (congrArg _ (Answers.get?_empty target)).trans Option.or_none

end SessionRun

end InspectionForms
