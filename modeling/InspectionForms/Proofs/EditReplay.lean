import InspectionForms.Proofs.Targets

namespace InspectionForms

namespace Answers

variable (answers : Answers)

/-- Writes at different places commute, also where they make one section, table or row between them. -/
theorem put_comm {a b : Target} (differ : a ≠ b) (value other : Json) :
    (answers.put value a).put other b = (answers.put other b).put value a := by
  cases a with
  | field s f =>
    cases b with
    | field s' f' =>
      simp only [put, writeField]
      refine congrArg Answers.mk (SortedMap.alter_comm _ fun sameSection old => ?_)
      have apart : f ≠ f' := fun sameField => differ (by rw [sameSection, sameField])
      exact congrArg (SectionAnswers.mk · _) (SortedMap.insert_comm _ apart value other)
    | cell s' t r c =>
      simp only [put, writeField, writeCell]
      exact congrArg Answers.mk (SortedMap.alter_comm _ fun _ _ => rfl)
  | cell s t r c =>
    cases b with
    | field s' f =>
      simp only [put, writeField, writeCell]
      exact congrArg Answers.mk (SortedMap.alter_comm _ fun _ _ => rfl)
    | cell s' t' r' c' =>
      simp only [put, writeCell]
      refine congrArg Answers.mk (SortedMap.alter_comm _ fun sameSection old => ?_)
      simp only [Option.getD_some]
      refine congrArg (SectionAnswers.mk _) (SortedMap.alter_comm _ fun sameTable oldTable => ?_)
      simp only [Option.getD_some]
      refine SortedMap.alter_comm _ fun sameRow oldRow => ?_
      have apart : c ≠ c' := fun sameColumn => differ (by rw [sameSection, sameTable, sameRow, sameColumn])
      exact SortedMap.insert_comm _ apart value other

/-- Of two writes at one place the later one stands. -/
theorem put_put (value other : Json) (target : Target) :
    (answers.put value target).put other target = answers.put other target := by
  cases target with
  | field s f =>
    simp only [put, writeField]
    refine congrArg Answers.mk (SortedMap.alter_alter _ fun old => ?_)
    exact congrArg (SectionAnswers.mk · _) (SortedMap.insert_insert _ f value other)
  | cell s t r c =>
    simp only [put, writeCell]
    refine congrArg Answers.mk (SortedMap.alter_alter _ fun old => ?_)
    simp only [Option.getD_some]
    refine congrArg (SectionAnswers.mk _) (SortedMap.alter_alter _ fun oldTable => ?_)
    simp only [Option.getD_some]
    refine SortedMap.alter_alter _ fun oldRow => ?_
    exact SortedMap.insert_insert _ c value other

end Answers

/-- The same edits in another order, in which those with one target come one after the other as before. -/
structure Edit.Rearranged (edits others : List Edit) : Prop where
  perm : edits.Perm others
  order (target : Target) :
    (edits.filter fun edit => edit.target = target) = others.filter fun edit => edit.target = target

/-- The edits of a list that leave something behind: each is the last one at its target, and the form takes it. -/
def Schema.lasting (schema : Schema) : List Edit → List Edit
  | [] => []
  | edit :: rest =>
    if (∃ later ∈ rest, later.target = edit.target) ∨ ¬ schema.Takes edit.target then schema.lasting rest
    else edit :: schema.lasting rest

/-- Taking an edit out of a list, and the same edit from the front of another one, leaves rearranged lists. -/
theorem Edit.Rearranged.tail {edit : Edit} {edits before behind : List Edit}
    (same : Rearranged (edit :: edits) (before ++ edit :: behind))
    (apart : ∀ other ∈ before, other.target ≠ edit.target) : Rearranged edits (before ++ behind) := by
  refine ⟨(List.perm_cons edit).mp (same.perm.trans List.perm_middle), fun target => ?_⟩
  have order := same.order target
  rw [List.filter_append, List.filter_cons, List.filter_cons] at order
  rw [List.filter_append]
  by_cases atTarget : edit.target = target
  · have none : (before.filter fun other => other.target = target) = [] :=
      List.filter_eq_nil_iff.mpr fun other member => by simpa [← atTarget] using apart other member
    rw [none, if_pos (decide_eq_true atTarget), if_pos (decide_eq_true atTarget)] at order
    rw [none]
    exact (List.cons.inj order).2
  · rwa [if_neg (by simpa using atTarget), if_neg (by simpa using atTarget)] at order

namespace Session

variable (session : Session)

theorem applyEdit_comm {edit other : Edit} (differ : edit.target ≠ other.target) :
    (session.applyEdit edit).applyEdit other = (session.applyEdit other).applyEdit edit := by
  rw [applyEdit_eq (session.applyEdit edit), applyEdit_eq (session.applyEdit other), isEditing_applyEdit,
    isEditing_applyEdit, schema_applyEdit, schema_applyEdit, applyEdit_eq session edit, applyEdit_eq session other]
  by_cases taken : session.isEditing ∧ session.schema.Takes edit.target
  · by_cases otherTaken : session.isEditing ∧ session.schema.Takes other.target
    · simp only [if_pos taken, if_pos otherTaken, Answers.put_comm _ differ]
    · simp only [if_pos taken, if_neg otherTaken]
  · simp only [if_neg taken]

theorem applyEdit_applyEdit {edit later : Edit} (same : later.target = edit.target) :
    (session.applyEdit edit).applyEdit later = session.applyEdit later := by
  rw [applyEdit_eq (session.applyEdit edit), isEditing_applyEdit, schema_applyEdit, applyEdit_eq session edit,
    applyEdit_eq session later, same]
  by_cases taken : session.isEditing ∧ session.schema.Takes edit.target
  · simp only [if_pos taken, Answers.put_put]
  · simp only [if_neg taken]

/-- An edit can wait for edits with other targets. -/
theorem applyEdits_applyEdit {edit : Edit} {edits : List Edit} (apart : ∀ other ∈ edits, other.target ≠ edit.target) :
    (session.applyEdit edit).applyEdits edits = (session.applyEdits edits).applyEdit edit := by
  induction edits generalizing session with
  | nil => rfl
  | cons other rest ih =>
    obtain ⟨first, others⟩ := List.forall_mem_cons.mp apart
    rw [applyEdits_cons, session.applyEdit_comm first.symm, ih _ others, applyEdits_cons]

/-- An edit leaves no trace if a later one has its target. -/
theorem applyEdits_of_later {edit : Edit} {edits : List Edit} (later : ∃ other ∈ edits, other.target = edit.target) :
    (session.applyEdit edit).applyEdits edits = session.applyEdits edits := by
  induction edits generalizing session with
  | nil => simp at later
  | cons other rest ih =>
    rw [applyEdits_cons, applyEdits_cons]
    by_cases same : other.target = edit.target
    · rw [session.applyEdit_applyEdit same]
    · have inRest : ∃ other ∈ rest, other.target = edit.target := by simpa [same] using later
      rw [session.applyEdit_comm (Ne.symm same), ih _ inRest]

theorem applyEdits_of_covered {edits more : List Edit}
    (covered : ∀ edit ∈ edits, ∃ other ∈ more, other.target = edit.target) :
    (session.applyEdits edits).applyEdits more = session.applyEdits more := by
  induction edits generalizing session with
  | nil => rfl
  | cons edit rest ih =>
    obtain ⟨first, others⟩ := List.forall_mem_cons.mp covered
    rw [applyEdits_cons, ih _ others, session.applyEdits_of_later first]

/-- Only the order of edits with one target counts. -/
theorem applyEdits_rearranged {edits others : List Edit} (same : Edit.Rearranged edits others) :
    session.applyEdits others = session.applyEdits edits := by
  induction edits generalizing session others with
  | nil => rw [List.nil_perm.mp same.perm]
  | cons edit rest ih =>
    -- The edits of the other list before the first one with this target have other targets, so it can go first.
    have order := same.order edit.target
    rw [List.filter_cons_of_pos (by simp)] at order
    obtain ⟨before, behind, rfl, apart, -, -⟩ := List.filter_eq_cons_iff.mp order.symm
    have elsewhere : ∀ other ∈ before, other.target ≠ edit.target := fun other member => by
      simpa using apart other member
    rw [applyEdits_append, applyEdits_cons, ← session.applyEdits_applyEdit elsewhere, ← applyEdits_append,
      ih _ (same.tail elsewhere), applyEdits_cons]

theorem applyEdits_lasting (edits : List Edit) :
    session.applyEdits (session.schema.lasting edits) = session.applyEdits edits := by
  induction edits generalizing session with
  | nil => rfl
  | cons edit rest ih =>
    rw [Schema.lasting, applyEdits_cons]
    split
    · next idle =>
      rcases idle with later | refused
      · rw [session.applyEdits_of_later later, ih]
      · rw [applyEdit_eq, if_neg fun taken => refused taken.2, ih]
    · rw [applyEdits_cons, ← ih, schema_applyEdit]

/-- What a script makes of a session in any phase depends only on the last edit at each target that the form takes:
not on the order of edits with different targets, and not on how often the script is run. -/
theorem applyEdits_replay (edits : List Edit) :
    (∀ others, Edit.Rearranged edits others → session.applyEdits others = session.applyEdits edits) ∧
    (session.applyEdits edits).applyEdits edits = session.applyEdits edits ∧
    session.applyEdits (session.schema.lasting edits) = session.applyEdits edits := by
  refine ⟨fun others => session.applyEdits_rearranged, ?_, session.applyEdits_lasting edits⟩
  exact session.applyEdits_of_covered fun edit member => ⟨edit, member, rfl⟩

end Session

end InspectionForms
