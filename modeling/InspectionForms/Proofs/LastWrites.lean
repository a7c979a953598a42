import InspectionForms.Proofs.Targets

namespace InspectionForms

/-- The value that is written last at a target, among the edits that the form takes. -/
def Schema.lastWrite? (schema : Schema) (edits : List Edit) (target : Target) : Option Json :=
  (edits.filter fun edit => edit.target = target ∧ schema.Takes target).getLast?.map Edit.value

theorem Schema.lastWrite?_cons (schema : Schema) (edit : Edit) (edits : List Edit) (target : Target) :
    schema.lastWrite? (edit :: edits) target = (schema.lastWrite? edits target).or
      (if edit.target = target ∧ schema.Takes target then some edit.value else none) := by
  rw [lastWrite?, lastWrite?, List.filter_cons]
  by_cases taken : edit.target = target ∧ schema.Takes target
  · rw [if_pos (decide_eq_true taken), if_pos taken, List.getLast?_cons]
    cases (edits.filter fun edit => edit.target = target ∧ schema.Takes target).getLast? <;> rfl
  · rw [if_neg (by simpa using taken), if_neg taken, Option.or_none]

theorem Schema.lastWrite?_of_not_takes {schema : Schema} {target : Target} (refused : ¬ schema.Takes target)
    (edits : List Edit) : schema.lastWrite? edits target = none := by
  rw [lastWrite?, List.filter_eq_nil_iff.mpr]
  · rfl
  · intro edit _ taken
    exact refused (of_decide_eq_true taken).2

/-- While a session is edited it holds at each target what has been written there last. -/
theorem Session.get?_applyEdits {session : Session} (editing : session.isEditing) (edits : List Edit)
    (target : Target) : (session.applyEdits edits).answers.get? target =
      (session.schema.lastWrite? edits target).or (session.answers.get? target) := by
  induction edits generalizing session with
  | nil => rfl
  | cons edit rest ih =>
    have stillEditing : (session.applyEdit edit).isEditing := by
      rw [isEditing_applyEdit]
      exact editing
    rw [applyEdits_cons, ih stillEditing, schema_applyEdit, Schema.lastWrite?_cons, Option.or_assoc]
    congr 1
    rw [applyEdit_eq]
    by_cases takes : session.schema.Takes edit.target
    · rw [if_pos ⟨editing, takes⟩, Answers.get?_put]
      by_cases same : target = edit.target
      · rw [if_pos same, if_pos ⟨same.symm, same ▸ takes⟩]
        rfl
      · rw [if_neg same, if_neg fun h => same h.1.symm]
        rfl
    · have refused : ¬ (edit.target = target ∧ session.schema.Takes target) :=
        fun ⟨same, takesTarget⟩ => takes (same ▸ takesTarget)
      rw [if_neg fun h => takes h.2, if_neg refused]
      rfl

theorem Session.get?_applyEdits_new (schema : Schema) (edits : List Edit) :
    ((Session.new schema).applyEdits edits).answers.get? = schema.lastWrite? edits := by
  funext target
  rw [get?_applyEdits rfl]
  exact (congrArg _ (Answers.get?_empty target)).trans Option.or_none

end InspectionForms
