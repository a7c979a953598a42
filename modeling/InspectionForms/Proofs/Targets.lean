import InspectionForms.Answers.Lemmas
import InspectionForms.Edit

namespace InspectionForms

/-- Where something can be written. A field and a table are different places even under one id. -/
inductive Target
  | field (sectionId fieldId : String)
  | cell (sectionId subSectionId : String) (row : Nat) (columnId : String)
  deriving DecidableEq

namespace Edit

def target : Edit → Target
  | field sectionId fieldId _ => .field sectionId fieldId
  | cell sectionId subSectionId row columnId _ => .cell sectionId subSectionId row columnId
  | attach sectionId fieldId _ => .field sectionId fieldId

/-- What an edit writes. Of a file only the name is written. -/
def value : Edit → Json
  | field _ _ value => value
  | cell _ _ _ _ value => value
  | attach _ _ fileName => .string fileName

end Edit

/-- A form takes any field, but only the cells of its own rows. -/
def Schema.Takes (schema : Schema) : Target → Prop
  | .field _ _ => True
  | .cell sectionId subSectionId row _ => row < schema.rowCount sectionId subSectionId

instance (schema : Schema) (target : Target) : Decidable (schema.Takes target) :=
  match target with
  | .field _ _ => inferInstanceAs (Decidable True)
  | .cell sectionId subSectionId row _ =>
    inferInstanceAs (Decidable (row < schema.rowCount sectionId subSectionId))

/-- A cell is refused when the first table with its ids ends before its row, or when there is none. -/
theorem Schema.not_takes_cell {schema : Schema} {s t : String} {r : Nat}
    (absent : ∀ sub, schema.subSection? s t = some sub → sub.rowCount ≤ r) (c : String) :
    ¬ schema.Takes (.cell s t r c) := by
  refine Nat.not_lt.mpr ?_
  rw [rowCount]
  split
  · next sub found => exact absent sub found
  · exact Nat.zero_le r

namespace Answers

def get? (answers : Answers) : Target → Option Json
  | .field sectionId fieldId => answers.field? sectionId fieldId
  | .cell sectionId subSectionId row columnId => answers.cell? sectionId subSectionId row columnId

def put (answers : Answers) (value : Json) : Target → Answers
  | .field sectionId fieldId => answers.writeField sectionId fieldId value
  | .cell sectionId subSectionId row columnId => answers.writeCell sectionId subSectionId row columnId value

theorem get?_empty (target : Target) : empty.get? target = none := by cases target <;> rfl

theorem get?_put (answers : Answers) (value : Json) (written target : Target) :
    (answers.put value written).get? target = if target = written then some value else answers.get? target := by
  cases written with
  | field sectionId fieldId =>
    cases target with
    | field s f => simp only [get?, put, field?_writeField, Target.field.injEq]
    | cell s t r c => simp only [get?, put, cell?_writeField, reduceCtorEq, if_false]
  | cell sectionId subSectionId row columnId =>
    cases target with
    | field s f => simp only [get?, put, field?_writeCell, reduceCtorEq, if_false]
    | cell s t r c => simp only [get?, put, cell?_writeCell, Target.cell.injEq]

/-- Something holds of all that has been written. -/
def Every (P : Json → Prop) (answers : Answers) : Prop :=
  ∀ target value, answers.get? target = some value → P value

variable {P : Json → Prop} {answers : Answers}

theorem every_empty : empty.Every P := fun target value found => by
  rw [get?_empty] at found
  cases found

theorem Every.put (every : answers.Every P) {value : Json} (new : P value) (target : Target) :
    (answers.put value target).Every P := fun other found atOther => by
  rw [get?_put] at atOther
  split at atOther
  · exact Option.some.inj atOther ▸ new
  · exact every other found atOther

end Answers

namespace Session

variable (session : Session)

theorem applyEdit_eq (edit : Edit) :
    session.applyEdit edit =
      if session.isEditing ∧ session.schema.Takes edit.target then
        { session with answers := session.answers.put edit.value edit.target }
      else session := by
  cases edit with
  | field s f value => simp [applyEdit, setField, Edit.target, Edit.value, Schema.Takes, Answers.put]
  | attach s f fileName => simp [applyEdit, attach, setField, Edit.target, Edit.value, Schema.Takes, Answers.put]
  | cell s t r c value => rfl

theorem applyEdits_cons (edit : Edit) (edits : List Edit) :
    session.applyEdits (edit :: edits) = (session.applyEdit edit).applyEdits edits := rfl

theorem applyEdits_append (edits more : List Edit) :
    session.applyEdits (edits ++ more) = (session.applyEdits edits).applyEdits more :=
  List.foldl_append

@[simp] theorem schema_applyEdit (edit : Edit) : (session.applyEdit edit).schema = session.schema := by
  rw [applyEdit_eq]
  split <;> rfl

@[simp] theorem phase_applyEdit (edit : Edit) : (session.applyEdit edit).phase = session.phase := by
  rw [applyEdit_eq]
  split <;> rfl

@[simp] theorem isEditing_applyEdit (edit : Edit) : (session.applyEdit edit).isEditing = session.isEditing :=
  congrArg (· == Phase.editing) (session.phase_applyEdit edit)

@[simp] theorem schema_applyEdits (edits : List Edit) : (session.applyEdits edits).schema = session.schema := by
  induction edits generalizing session with
  | nil => rfl
  | cons edit rest ih => rw [applyEdits_cons, ih, schema_applyEdit]

@[simp] theorem phase_applyEdits (edits : List Edit) : (session.applyEdits edits).phase = session.phase := by
  induction edits generalizing session with
  | nil => rfl
  | cons edit rest ih => rw [applyEdits_cons, ih, phase_applyEdit]

theorem every_applyEdits {session : Session} {P : Json → Prop} {edits : List Edit}
    (new : ∀ edit ∈ edits, P edit.value) (every : session.answers.Every P) :
    (session.applyEdits edits).answers.Every P := by
  induction edits generalizing session with
  | nil => exact every
  | cons edit rest ih =>
    obtain ⟨first, others⟩ := List.forall_mem_cons.mp new
    refine ih others ?_
    rw [applyEdit_eq]
    split
    · exact every.put first edit.target
    · exact every

end Session

end InspectionForms
