import InspectionForms.Proofs.Targets

namespace InspectionForms

def FieldControl.unselected : FieldControl → FieldControl
  | choice multiple group options => choice multiple group (options.map fun option => ⟨option.value, false⟩)
  | other => other

def CellControl.unchecked : CellControl → CellControl
  | checkbox _ => checkbox false
  | other => other

/-- A field shows its own target, by its value and its selected options. -/
def FieldView.without (target : Target) (view : FieldView) : FieldView :=
  if target = .field view.scope view.fieldId then
    { view with value := none, control := view.control.unselected }
  else view

def RoleView.without (target : Target) (view : RoleView) : RoleView :=
  { view with fields := view.fields.map (FieldView.without target) }

/-- A place for a file shows the name of what is attached in its section. -/
def UploadView.without (target : Target) (sectionId : String) (view : UploadView) : UploadView :=
  if target = .field sectionId view.fieldId then { view with attached := none } else view

/-- The condition of a column, which is looked up by its id. -/
def Schema.condition? (schema : Schema) (sectionId subSectionId columnId : String) : Option String :=
  ((schema.subSection? sectionId subSectionId).bind fun sub => sub.column? columnId).bind Column.visibleIf

/-- Whether the first column with these ids is closed to edits. -/
def Schema.isReadOnly (schema : Schema) (sectionId subSectionId columnId : String) : Bool :=
  ((schema.subSection? sectionId subSectionId).bind fun sub => sub.column? columnId).any fun column => !column.editable

/-- A cell shows its own target, by its value and its mark, and by being enabled the cell of its row that the
condition of its column names. -/
def CellView.without (schema : Schema) (target : Target) (sectionId subSectionId : String) (view : CellView) :
    CellView where
  row := view.row
  columnId := view.columnId
  value := if target = .cell sectionId subSectionId view.row view.columnId then none else view.value
  enabled := match schema.condition? sectionId subSectionId view.columnId with
    | some condition => if target = .cell sectionId subSectionId view.row condition then true else view.enabled
    | none => view.enabled
  readOnly := view.readOnly
  control := if target = .cell sectionId subSectionId view.row view.columnId then view.control.unchecked
    else view.control

def TableView.without (schema : Schema) (target : Target) (sectionId : String) (view : TableView) : TableView :=
  { view with rows := view.rows.map fun row =>
      { row with cells := row.cells.map (CellView.without schema target sectionId view.subSectionId) } }

def SectionViewBody.without (schema : Schema) (target : Target) (sectionId : String) :
    SectionViewBody → SectionViewBody
  | fieldset fields => fieldset (fields.map (FieldView.without target))
  | tableGroup tables => tableGroup (tables.map (TableView.without schema target sectionId))
  | infoList items => infoList items
  | signatureGroup roles => signatureGroup (roles.map (RoleView.without target))
  | fileUploadGroup uploads => fileUploadGroup (uploads.map (UploadView.without target sectionId))
  | unsupported kind => unsupported kind

/-- What a section shows but for the places where it shows a target. -/
def SectionView.without (schema : Schema) (target : Target) (view : SectionView) : SectionView :=
  { view with body := view.body.without schema target view.sectionId }

/-- Two answers are the same but for what is written at a target. -/
def Answers.AgreeBut (target : Target) (a b : Answers) : Prop := ∀ other, other ≠ target → a.get? other = b.get? other

theorem resolveCell_eq (schema : Schema) (answers : Answers) (s t : String) (r : Nat) (c : String) :
    resolveCell schema answers s t r c =
      ⟨cellValue? schema answers s t r c,
        (schema.condition? s t c).all fun x => isTruthyValue (cellValue? schema answers s t r x),
        schema.isReadOnly s t c⟩ := by
  rw [resolveCell, Schema.condition?, Schema.isReadOnly]
  cases (schema.subSection? s t).bind fun sub => sub.column? c with
  | none => rfl
  | some column => cases condition : column.visibleIf <;> simp [condition]

/-- Of what is written, the value of a cell depends on its own target only. -/
theorem cellValue?_congr {schema : Schema} {a b : Answers} {s t : String} {r : Nat} {c : String}
    (same : a.get? (.cell s t r c) = b.get? (.cell s t r c)) :
    cellValue? schema a s t r c = cellValue? schema b s t r c := by
  have written : a.cell? s t r c = b.cell? s t r c := same
  rw [cellValue?, cellValue?, written]

namespace Answers.AgreeBut

variable {schema : Schema} {target : Target} {a b : Answers}

theorem put (answers : Answers) (value : Json) (target : Target) :
    (answers.put value target).AgreeBut target answers := by
  intro other differ
  rw [get?_put, if_neg differ]

theorem fieldView (agree : a.AgreeBut target b) (field : Field) (scope : String) :
    (field.view a scope).without target = (field.view b scope).without target := by
  by_cases same : target = .field scope field.id
  · have control (value : Option Json) : (fieldControl scope field value).unselected =
        (fieldControl scope field none).unselected := by
      unfold fieldControl
      cases field.kind <;> simp [choiceControl, FieldControl.unselected]
    refine (if_pos same).trans (Eq.trans ?_ (if_pos same).symm)
    simp only [Field.view]
    rw [control (a.field? scope field.id), control (b.field? scope field.id)]
  · have shown : a.field? scope field.id = b.field? scope field.id := agree (.field scope field.id) (Ne.symm same)
    rw [Field.view, Field.view, shown]

theorem uploadView (agree : a.AgreeBut target b) (slot : UploadSlot) (sectionId : String) :
    (slot.view a sectionId).without target sectionId = (slot.view b sectionId).without target sectionId := by
  by_cases same : target = .field sectionId slot.id
  · exact (if_pos same).trans (if_pos same).symm
  · have shown : a.field? sectionId slot.id = b.field? sectionId slot.id :=
      agree (.field sectionId slot.id) (Ne.symm same)
    rw [UploadSlot.view, UploadSlot.view, shown]

theorem cellValue (agree : a.AgreeBut target b) {s t : String} {r : Nat} {c : String}
    (differ : target ≠ .cell s t r c) : cellValue? schema a s t r c = cellValue? schema b s t r c :=
  cellValue?_congr (agree (.cell s t r c) (Ne.symm differ))

theorem cellEnabled (agree : a.AgreeBut target b) (column : Column) (s t : String) (r : Nat) :
    ((column.cellView schema a s t r).without schema target s t).enabled =
      ((column.cellView schema b s t r).without schema target s t).enabled := by
  simp only [CellView.without, Column.cellView, resolveCell_eq]
  cases schema.condition? s t column.id with
  | none => rfl
  | some condition =>
    by_cases gate : target = .cell s t r condition
    · simp only [if_pos gate]
    · simp only [if_neg gate, Option.all_some, agree.cellValue gate]

theorem cellView (agree : a.AgreeBut target b) (column : Column) (s t : String) (r : Nat) :
    (column.cellView schema a s t r).without schema target s t =
      (column.cellView schema b s t r).without schema target s t := by
  have readOnly : (column.cellView schema a s t r).readOnly = (column.cellView schema b s t r).readOnly := by
    simp only [Column.cellView, resolveCell_eq]
  -- Value and mark change together, as the mark is made of the value.
  have shown : ((column.cellView schema a s t r).without schema target s t).value =
        ((column.cellView schema b s t r).without schema target s t).value ∧
      ((column.cellView schema a s t r).without schema target s t).control =
        ((column.cellView schema b s t r).without schema target s t).control := by
    by_cases same : target = .cell s t r column.id
    · have unchecked (value : Option Json) : (cellControl column.kind value).unchecked =
          (cellControl column.kind none).unchecked := by
        unfold cellControl
        cases column.kind <;> rfl
      refine ⟨(if_pos same).trans (if_pos same).symm, (if_pos same).trans (Eq.trans ?_ (if_pos same).symm)⟩
      exact (unchecked _).trans (unchecked _).symm
    · have value : (column.cellView schema a s t r).value = (column.cellView schema b s t r).value := by
        simp only [Column.cellView, resolveCell_eq, agree.cellValue same]
      refine ⟨(if_neg same).trans (Eq.trans value (if_neg same).symm),
        (if_neg same).trans (Eq.trans ?_ (if_neg same).symm)⟩
      exact congrArg (cellControl column.kind) value
  exact (CellView.mk.injEq ..).mpr ⟨rfl, rfl, shown.1, agree.cellEnabled column s t r, readOnly, shown.2⟩

theorem tableView (agree : a.AgreeBut target b) (sub : SubSection) (s : String) :
    (sub.view schema a s).without schema target s = (sub.view schema b s).without schema target s := by
  have rows (r : Nat) :
      (sub.columns.map fun column => column.cellView schema a s sub.id r).map
          (CellView.without schema target s sub.id) =
        (sub.columns.map fun column => column.cellView schema b s sub.id r).map
          (CellView.without schema target s sub.id) := by
    rw [List.map_map, List.map_map]
    exact List.map_congr_left fun column _ => agree.cellView column s sub.id r
  simp only [TableView.without, SubSection.view, List.map_map]
  congr 1
  refine List.map_congr_left fun r _ => ?_
  exact congrArg (RowView.mk r) (rows r)

theorem bodyView (agree : a.AgreeBut target b) (body : SectionBody) (s : String) :
    (body.view schema a s).without schema target s = (body.view schema b s).without schema target s := by
  cases body with
  | fieldset fields =>
    simp only [SectionBody.view, SectionViewBody.without, List.map_map]
    exact congrArg SectionViewBody.fieldset (List.map_congr_left fun field _ => agree.fieldView field s)
  | tableGroup subs =>
    simp only [SectionBody.view, SectionViewBody.without, List.map_map]
    exact congrArg SectionViewBody.tableGroup (List.map_congr_left fun sub _ => agree.tableView sub s)
  | signatureGroup roles =>
    simp only [SectionBody.view, SectionViewBody.without, List.map_map]
    refine congrArg SectionViewBody.signatureGroup (List.map_congr_left fun role _ => ?_)
    simp only [Function.comp_apply, Role.view, RoleView.without, List.map_map]
    congr 1
    exact List.map_congr_left fun field _ => agree.fieldView field (roleScope s role.id)
  | fileUploadGroup slots =>
    simp only [SectionBody.view, SectionViewBody.without, List.map_map]
    exact congrArg SectionViewBody.fileUploadGroup (List.map_congr_left fun slot _ => agree.uploadView slot s)
  | infoList items => rfl
  | unsupported kind => rfl

theorem render (agree : a.AgreeBut target b) :
    (schema.render a).map (SectionView.without schema target) =
      (schema.render b).map (SectionView.without schema target) := by
  rw [Schema.render, Schema.render, List.map_map, List.map_map]
  refine List.map_congr_left fun s _ => ?_
  exact congrArg (SectionView.mk s.id s.title) (agree.bodyView s.body s.id)

end Answers.AgreeBut

namespace Session

variable (session : Session)

theorem map_without_render_applyEdit (edit : Edit) :
    (session.applyEdit edit).render.map (SectionView.without session.schema edit.target) =
      session.render.map (SectionView.without session.schema edit.target) := by
  rw [applyEdit_eq]
  by_cases taken : session.isEditing ∧ session.schema.Takes edit.target
  · rw [if_pos taken]
    exact (Answers.AgreeBut.put session.answers edit.value edit.target).render
  · rw [if_neg taken]

theorem applyEdit_of_no_row {s t : String} {r : Nat}
    (absent : ∀ sub, session.schema.subSection? s t = some sub → sub.rowCount ≤ r) (c : String) (value : Json) :
    session.applyEdit (.cell s t r c value) = session := by
  rw [applyEdit_eq]
  exact if_neg fun taken => Schema.not_takes_cell absent c taken.2

/-- An edit changes what is shown of its own target and nothing else. An edit of a cell whose table the form does not
have, or has with fewer rows, changes nothing at all. -/
theorem render_local :
    (∀ edit, (session.applyEdit edit).render.map (SectionView.without session.schema edit.target) =
      session.render.map (SectionView.without session.schema edit.target)) ∧
    ∀ s t r c value, (∀ sub, session.schema.subSection? s t = some sub → sub.rowCount ≤ r) →
      session.applyEdit (.cell s t r c value) = session :=
  ⟨session.map_without_render_applyEdit, fun _ _ _ c value absent => session.applyEdit_of_no_row absent c value⟩

end Session

end InspectionForms
