import InspectionForms.Proofs.RunWrites
import InspectionForms.Proofs.SnapshotContent

namespace InspectionForms

universe u v

theorem SortedMap.isEmpty_iff {κ : Type u} {ν : Type v} [Ord κ] [Std.LawfulEqOrd κ] [DecidableEq κ]
    (m : SortedMap κ ν) : m.isEmpty ↔ ∀ key, m.get? key = none := by
  rw [isEmpty, List.isEmpty_iff]
  constructor
  · intro nothing key
    rw [get?, nothing]
    rfl
  · intro absent
    refine List.eq_nil_iff_forall_not_mem.mpr fun entry member => ?_
    have found := m.get?_eq_some_iff.mpr member
    rw [absent] at found
    cases found

theorem Schema.takes_cell_iff {schema : Schema} {s t : String} {r : Nat} {c : String} :
    schema.Takes (.cell s t r c) ↔ ∃ sub, schema.subSection? s t = some sub ∧ r < sub.rowCount := by
  rw [Takes, rowCount]
  cases schema.subSection? s t with
  | none => simp
  | some sub => simp

theorem Schema.lastWrite?_eq_none_iff {schema : Schema} {edits : List Edit} {target : Target} :
    schema.lastWrite? edits target = none ↔ ∀ edit ∈ edits, edit.target = target → ¬ schema.Takes target := by
  rw [lastWrite?, Option.map_eq_none_iff, List.getLast?_eq_none_iff, List.filter_eq_nil_iff]
  simp only [decide_eq_true_eq, not_and]

namespace Answers

variable {answers : Answers}

/-- Each row that is stored is one of the first table of the form with its ids, so there is such a table. -/
def Declared (schema : Schema) (answers : Answers) : Prop :=
  ∀ s t r inSection table cells, answers.sections.get? s = some inSection → inSection.tables.get? t = some table →
    table.get? r = some cells → ∃ sub, schema.subSection? s t = some sub ∧ r < sub.rowCount

/-- Where nothing is stored empty, a row that is stored has a cell, so the form has taken a write to it. -/
theorem Full.declared (full : answers.Full) {schema : Schema}
    (taken : ∀ target value, answers.get? target = some value → schema.Takes target) : answers.Declared schema := by
  intro s t r inSection table cells atSection atTable atRow
  obtain ⟨c, value, written⟩ := full.written_of_row atSection atTable atRow
  exact Schema.takes_cell_iff.mp (taken _ value written)

theorem Full.isEmpty_iff (full : answers.Full) : answers.isEmpty ↔ ∀ target, answers.get? target = none := by
  rw [isEmpty, SortedMap.isEmpty_iff]
  constructor
  · intro noSection target
    cases target with
    | field s f =>
      rw [get?, field?, noSection]
      rfl
    | cell s t r c =>
      rw [get?, cell?, noSection]
      rfl
  · intro unwritten s
    refine Option.eq_none_iff_forall_ne_some.mpr fun inSection atSection => ?_
    rcases full.written_of_section atSection with ⟨f, value, written⟩ | ⟨t, r, c, value, written⟩
    · cases (unwritten _).symm.trans written
    · cases (unwritten _).symm.trans written

theorem isEmpty_iff_snapshot_eq : answers.isEmpty ↔ answers.snapshot = .object [] := by
  rw [snapshot, Json.ofMap, SortedMap.map, Json.object.injEq, List.map_eq_nil_iff]
  exact List.isEmpty_iff

end Answers

namespace SessionRun

variable {σ : Type u} {ε : Type v} (add : σ → SubmissionRecord → Except ε Int × σ)

theorem full_call {run : SessionRun σ ε} (full : run.session.answers.Full) (call : SessionCall) :
    (run.call add call).2.session.answers.Full := by
  rw [answers_call]
  exact full.applyEdits call.edit?.toList

theorem full_after {run : SessionRun σ ε} (full : run.session.answers.Full) (calls : List SessionCall) :
    (run.after add calls).session.answers.Full := by
  induction calls generalizing run with
  | nil => exact full
  | cons call rest ih => exact ih (full_call add full call)

/-- Whatever a session is asked, it stores no section, table or row without anything in it, and no row that the form
does not declare. It stores nothing, and its snapshot is the empty object, exactly as long as the form has taken no
edit from it. -/
theorem answers_after_wellFormed (schema : Schema) (store : σ) (calls : List SessionCall) :
    let answers := ((start schema store).after add calls).session.answers
    answers.Full ∧ answers.Declared schema ∧ (answers.isEmpty ↔ answers.snapshot = .object []) ∧
    (answers.isEmpty ↔ ∀ edit ∈ (start schema store).timelyEdits add calls, ¬ schema.Takes edit.target) := by
  intro answers
  have full : answers.Full := full_after add Answers.full_empty calls
  have same : answers.get? = schema.lastWrite? ((start schema store).timelyEdits add calls) :=
    get?_answers_start add schema store calls
  refine ⟨full, full.declared fun target value written => ?_, Answers.isEmpty_iff_snapshot_eq, ?_⟩
  · by_contra refused
    rw [same, Schema.lastWrite?_of_not_takes refused] at written
    cases written
  · rw [full.isEmpty_iff, same]
    simp only [Schema.lastWrite?_eq_none_iff]
    exact ⟨fun unwritten edit member => unwritten _ edit member rfl,
      fun refused target edit member same => same ▸ refused edit member⟩

end SessionRun

end InspectionForms
