import InspectionForms.Proofs.RenderLocality
import InspectionForms.Proofs.TablePositions
import Mathlib.Data.List.ProdSigma

namespace InspectionForms

universe u v

/-- The control of each kind of field. Which of its options are selected is left open. -/
inductive FieldKind.ShownAs (group : String) : FieldKind → FieldControl → Prop
  | text : ShownAs group .text (.input .text)
  | date : ShownAs group .date (.input .date)
  | dateTime : ShownAs group .dateTime (.input .dateTime)
  | checkboxGroup {texts : List String} {options : List ChoiceOption} : options.map ChoiceOption.value = texts →
      ShownAs group (.checkboxGroup texts) (.choice true group options)
  | radio {texts : List String} {options : List ChoiceOption} : options.map ChoiceOption.value = texts →
      ShownAs group (.radio texts) (.choice false group options)
  | signaturePad : ShownAs group .signaturePad .signaturePad
  | unsupported (name : String) : ShownAs group (.unsupported name) (.unsupported name)

structure Field.ShownAs (scope : String) (field : Field) (view : FieldView) : Prop where
  atScope : view.scope = scope
  fieldId : view.fieldId = field.id
  label : view.label = field.label
  required : view.required = field.required
  control : field.kind.ShownAs (scope ++ "-" ++ field.id) view.control

structure Role.ShownAs (sectionId : String) (role : Role) (view : RoleView) : Prop where
  roleId : view.roleId = role.id
  roleName : view.roleName = role.name
  scope : view.scope = sectionId ++ "_" ++ role.id
  fields : List.Forall₂ (Field.ShownAs (sectionId ++ "_" ++ role.id)) role.fields view.fields

structure UploadSlot.ShownAs (slot : UploadSlot) (view : UploadView) : Prop where
  fieldId : view.fieldId = slot.id
  label : view.label = slot.label
  required : view.required = slot.required

/-- The control of each kind of column. Whether a box is checked is left open. -/
inductive ColumnKind.ShownAs : ColumnKind → CellControl → Prop
  | checkbox (checked : Bool) : ShownAs .checkbox (.checkbox checked)
  | date : ShownAs .date .date
  | textarea : ShownAs .textarea (.display true)
  | plain (name : Option String) : ShownAs (.plain name) (.display false)

structure Column.ShownAs (schema : Schema) (sectionId subSectionId : String) (row : Nat) (column : Column)
    (view : CellView) : Prop where
  atRow : view.row = row
  columnId : view.columnId = column.id
  readOnly : view.readOnly = schema.isReadOnly sectionId subSectionId column.id
  control : column.kind.ShownAs view.control

/-- A row has one cell for each column, in their order. -/
structure SubSection.RowShownAs (schema : Schema) (sectionId : String) (sub : SubSection) (row : Nat)
    (view : RowView) : Prop where
  atRow : view.row = row
  cells : List.Forall₂ (Column.ShownAs schema sectionId sub.id row) sub.columns view.cells

structure SubSection.ShownAs (schema : Schema) (sectionId : String) (sub : SubSection) (view : TableView) : Prop where
  subSectionId : view.subSectionId = sub.id
  heading : view.heading = sub.id ++ ". " ++ sub.title
  columns : view.columns = sub.columns.map fun column => ⟨column.id, column.label, column.kind.name⟩
  rows : List.Forall₂ (sub.RowShownAs schema sectionId) (List.range sub.rows.length) view.rows

/-- The views of a section, one for each of its parts and in their order. -/
inductive SectionBody.ShownAs (schema : Schema) (sectionId : String) : SectionBody → SectionViewBody → Prop
  | fieldset {fields : List Field} {views : List FieldView} : List.Forall₂ (Field.ShownAs sectionId) fields views →
      ShownAs schema sectionId (.fieldset fields) (.fieldset views)
  | tableGroup {subs : List SubSection} {views : List TableView} :
      List.Forall₂ (SubSection.ShownAs schema sectionId) subs views →
      ShownAs schema sectionId (.tableGroup subs) (.tableGroup views)
  | infoList (items : List String) : ShownAs schema sectionId (.infoList items) (.infoList items)
  | signatureGroup {roles : List Role} {views : List RoleView} : List.Forall₂ (Role.ShownAs sectionId) roles views →
      ShownAs schema sectionId (.signatureGroup roles) (.signatureGroup views)
  | fileUploadGroup {slots : List UploadSlot} {views : List UploadView} :
      List.Forall₂ UploadSlot.ShownAs slots views →
      ShownAs schema sectionId (.fileUploadGroup slots) (.fileUploadGroup views)
  | unsupported (name : String) : ShownAs schema sectionId (.unsupported name) (.unsupported name)

structure Section.ShownAs (schema : Schema) (s : Section) (view : SectionView) : Prop where
  sectionId : view.sectionId = s.id
  title : view.title = s.title
  body : s.body.ShownAs schema s.id view.body

theorem FieldKind.shownAs_fieldControl (scope : String) (field : Field) (value : Option Json) :
    field.kind.ShownAs (scope ++ "-" ++ field.id) (fieldControl scope field value) := by
  have values (options : List String) (multiple : Bool) : (options.map fun option =>
      (⟨option, isSelected value option multiple⟩ : ChoiceOption)).map ChoiceOption.value = options := by
    rw [List.map_map]
    exact List.map_id options
  rw [fieldControl]
  cases field.kind with
  | text => exact .text
  | date => exact .date
  | dateTime => exact .dateTime
  | checkboxGroup options => exact .checkboxGroup (values options true)
  | radio options => exact .radio (values options false)
  | signaturePad => exact .signaturePad
  | unsupported name => exact .unsupported name

theorem ColumnKind.shownAs_cellControl (kind : ColumnKind) (value : Option Json) :
    kind.ShownAs (cellControl kind value) := by
  cases kind with
  | checkbox => exact .checkbox _
  | date => exact .date
  | textarea => exact .textarea
  | plain name => exact .plain name

theorem forall₂_map_right {α β : Type} {R : α → β → Prop} {f : α → β} (related : ∀ x, R x (f x)) (xs : List α) :
    List.Forall₂ R xs (xs.map f) :=
  List.forall₂_map_right_iff.mpr (List.forall₂_same.mpr fun x _ => related x)

section View

variable (schema : Schema) (answers : Answers)

theorem Field.shownAs_view (scope : String) (field : Field) : field.ShownAs scope (field.view answers scope) :=
  ⟨rfl, rfl, rfl, rfl, FieldKind.shownAs_fieldControl scope field _⟩

theorem Role.shownAs_view (sectionId : String) (role : Role) :
    role.ShownAs sectionId (role.view answers sectionId) :=
  ⟨rfl, rfl, rfl, forall₂_map_right (Field.shownAs_view answers _) role.fields⟩

theorem UploadSlot.shownAs_view (sectionId : String) (slot : UploadSlot) :
    slot.ShownAs (slot.view answers sectionId) :=
  ⟨rfl, rfl, rfl⟩

theorem Column.shownAs_cellView (sectionId subSectionId : String) (row : Nat) (column : Column) :
    column.ShownAs schema sectionId subSectionId row (column.cellView schema answers sectionId subSectionId row) := by
  refine ⟨rfl, rfl, ?_, column.kind.shownAs_cellControl _⟩
  rw [Column.cellView, resolveCell_eq]

theorem SubSection.shownAs_view (sectionId : String) (sub : SubSection) :
    sub.ShownAs schema sectionId (sub.view schema answers sectionId) :=
  ⟨rfl, rfl, rfl, forall₂_map_right (fun row =>
    ⟨rfl, forall₂_map_right (Column.shownAs_cellView schema answers sectionId sub.id row) sub.columns⟩) _⟩

theorem SectionBody.shownAs_view (sectionId : String) (body : SectionBody) :
    body.ShownAs schema sectionId (body.view schema answers sectionId) := by
  cases body with
  | fieldset fields => exact .fieldset (forall₂_map_right (Field.shownAs_view answers sectionId) fields)
  | tableGroup subs => exact .tableGroup (forall₂_map_right (SubSection.shownAs_view schema answers sectionId) subs)
  | infoList items => exact .infoList items
  | signatureGroup roles => exact .signatureGroup (forall₂_map_right (Role.shownAs_view answers sectionId) roles)
  | fileUploadGroup slots =>
    exact .fileUploadGroup (forall₂_map_right (UploadSlot.shownAs_view answers sectionId) slots)
  | unsupported name => exact .unsupported name

theorem Schema.shownAs_render : List.Forall₂ (Section.ShownAs schema) schema.sections (schema.render answers) :=
  forall₂_map_right (fun s => ⟨rfl, rfl, SectionBody.shownAs_view schema answers s.id s.body⟩) schema.sections

end View

def FieldView.outline (view : FieldView) : FieldView :=
  { view with value := none, control := view.control.unselected }

def RoleView.outline (view : RoleView) : RoleView := { view with fields := view.fields.map FieldView.outline }

def UploadView.outline (view : UploadView) : UploadView := { view with attached := none }

def CellView.outline (view : CellView) : CellView :=
  { view with value := none, enabled := true, control := view.control.unchecked }

def RowView.outline (view : RowView) : RowView := { view with cells := view.cells.map CellView.outline }

def TableView.outline (view : TableView) : TableView := { view with rows := view.rows.map RowView.outline }

def SectionViewBody.outline : SectionViewBody → SectionViewBody
  | fieldset fields => fieldset (fields.map FieldView.outline)
  | tableGroup tables => tableGroup (tables.map TableView.outline)
  | infoList items => infoList items
  | signatureGroup roles => signatureGroup (roles.map RoleView.outline)
  | fileUploadGroup uploads => fileUploadGroup (uploads.map UploadView.outline)
  | unsupported kind => unsupported kind

/-- A view but for values, attached names, selected options, checked boxes and enabled cells. -/
def SectionView.outline (view : SectionView) : SectionView := { view with body := view.body.outline }

/-- Two lists that a third one is related to have the same image if their members have. -/
theorem map_eq_of_forall₂ {α β γ : Type} {R : α → β → Prop} {f : β → γ} {xs : List α} {vs ws : List β}
    (left : List.Forall₂ R xs vs) (right : List.Forall₂ R xs ws)
    (same : ∀ x v w, R x v → R x w → f v = f w) : vs.map f = ws.map f := by
  induction left generalizing ws with
  | nil =>
    cases right
    rfl
  | cons first _ ih =>
    cases right with
    | cons other rest => rw [List.map_cons, List.map_cons, same _ _ _ first other, ih rest]

theorem FieldKind.ShownAs.unselected_eq {group : String} {kind : FieldKind} {a b : FieldControl}
    (left : kind.ShownAs group a) (right : kind.ShownAs group b) : a.unselected = b.unselected := by
  have options {xs ys : List ChoiceOption} (sameTexts : xs.map ChoiceOption.value = ys.map ChoiceOption.value) :
      (xs.map fun option => (⟨option.value, false⟩ : ChoiceOption)) = ys.map fun option => ⟨option.value, false⟩ := by
    have unselected (zs : List ChoiceOption) : (zs.map fun option => (⟨option.value, false⟩ : ChoiceOption)) =
        (zs.map ChoiceOption.value).map fun text => ⟨text, false⟩ := by rw [List.map_map]; rfl
    rw [unselected, unselected, sameTexts]
  cases left with
  | checkboxGroup texts =>
    cases right with
    | checkboxGroup others => exact congrArg (FieldControl.choice true group) (options (texts.trans others.symm))
  | radio texts =>
    cases right with
    | radio others => exact congrArg (FieldControl.choice false group) (options (texts.trans others.symm))
  | _ =>
    cases right
    rfl

theorem ColumnKind.ShownAs.unchecked_eq {kind : ColumnKind} {a b : CellControl} (left : kind.ShownAs a)
    (right : kind.ShownAs b) : a.unchecked = b.unchecked := by
  cases left <;> cases right <;> rfl

theorem Field.ShownAs.outline_eq {scope : String} {field : Field} {a b : FieldView} (left : field.ShownAs scope a)
    (right : field.ShownAs scope b) : a.outline = b.outline :=
  (FieldView.mk.injEq ..).mpr ⟨left.atScope.trans right.atScope.symm, left.fieldId.trans right.fieldId.symm,
    left.label.trans right.label.symm, left.required.trans right.required.symm, rfl,
    left.control.unselected_eq right.control⟩

theorem Role.ShownAs.outline_eq {sectionId : String} {role : Role} {a b : RoleView} (left : role.ShownAs sectionId a)
    (right : role.ShownAs sectionId b) : a.outline = b.outline :=
  (RoleView.mk.injEq ..).mpr ⟨left.roleId.trans right.roleId.symm, left.roleName.trans right.roleName.symm,
    left.scope.trans right.scope.symm, map_eq_of_forall₂ left.fields right.fields fun _ _ _ => Field.ShownAs.outline_eq⟩

theorem UploadSlot.ShownAs.outline_eq {slot : UploadSlot} {a b : UploadView} (left : slot.ShownAs a)
    (right : slot.ShownAs b) : a.outline = b.outline :=
  (UploadView.mk.injEq ..).mpr ⟨left.fieldId.trans right.fieldId.symm, left.label.trans right.label.symm,
    left.required.trans right.required.symm, rfl⟩

section Table

variable {schema : Schema} {sectionId subSectionId : String} {sub : SubSection}

theorem Column.ShownAs.outline_eq {row : Nat} {column : Column} {a b : CellView}
    (left : column.ShownAs schema sectionId subSectionId row a)
    (right : column.ShownAs schema sectionId subSectionId row b) : a.outline = b.outline :=
  (CellView.mk.injEq ..).mpr ⟨left.atRow.trans right.atRow.symm, left.columnId.trans right.columnId.symm, rfl, rfl,
    left.readOnly.trans right.readOnly.symm, left.control.unchecked_eq right.control⟩

theorem SubSection.RowShownAs.outline_eq {row : Nat} {a b : RowView} (left : sub.RowShownAs schema sectionId row a)
    (right : sub.RowShownAs schema sectionId row b) : a.outline = b.outline :=
  (RowView.mk.injEq ..).mpr
    ⟨left.atRow.trans right.atRow.symm, map_eq_of_forall₂ left.cells right.cells fun _ _ _ => Column.ShownAs.outline_eq⟩

theorem SubSection.ShownAs.outline_eq {a b : TableView} (left : sub.ShownAs schema sectionId a)
    (right : sub.ShownAs schema sectionId b) : a.outline = b.outline :=
  (TableView.mk.injEq ..).mpr ⟨left.subSectionId.trans right.subSectionId.symm,
    left.heading.trans right.heading.symm, left.columns.trans right.columns.symm,
    map_eq_of_forall₂ left.rows right.rows fun _ _ _ => SubSection.RowShownAs.outline_eq⟩

theorem SectionBody.ShownAs.outline_eq {body : SectionBody} {a b : SectionViewBody}
    (left : body.ShownAs schema sectionId a) (right : body.ShownAs schema sectionId b) : a.outline = b.outline := by
  cases left with
  | fieldset fields =>
    cases right with
    | fieldset others =>
      exact congrArg SectionViewBody.fieldset
        (map_eq_of_forall₂ fields others fun _ _ _ => Field.ShownAs.outline_eq)
  | tableGroup subs =>
    cases right with
    | tableGroup others =>
      exact congrArg SectionViewBody.tableGroup
        (map_eq_of_forall₂ subs others fun _ _ _ => SubSection.ShownAs.outline_eq)
  | signatureGroup roles =>
    cases right with
    | signatureGroup others =>
      exact congrArg SectionViewBody.signatureGroup
        (map_eq_of_forall₂ roles others fun _ _ _ => Role.ShownAs.outline_eq)
  | fileUploadGroup slots =>
    cases right with
    | fileUploadGroup others =>
      exact congrArg SectionViewBody.fileUploadGroup
        (map_eq_of_forall₂ slots others fun _ _ _ => UploadSlot.ShownAs.outline_eq)
  | infoList | unsupported =>
    cases right
    rfl

theorem Section.ShownAs.outline_eq {s : Section} {a b : SectionView} (left : s.ShownAs schema a)
    (right : s.ShownAs schema b) : a.outline = b.outline :=
  (SectionView.mk.injEq ..).mpr
    ⟨left.sectionId.trans right.sectionId.symm, left.title.trans right.title.symm, left.body.outline_eq right.body⟩

end Table

/-- The cells of a table, row after row. -/
def TableView.cells (view : TableView) : List CellView := view.rows.flatMap RowView.cells

def CellView.place (view : CellView) : Nat × String := (view.row, view.columnId)

theorem SubSection.RowShownAs.places_eq {schema : Schema} {sectionId : String} {sub : SubSection} {row : Nat}
    {view : RowView} (shown : sub.RowShownAs schema sectionId row view) :
    view.cells.map CellView.place = sub.columns.map fun column => (row, column.id) := by
  have places {columns : List Column} {cells : List CellView}
      (related : List.Forall₂ (Column.ShownAs schema sectionId sub.id row) columns cells) :
      cells.map CellView.place = columns.map fun column => (row, column.id) := by
    induction related with
    | nil => rfl
    | cons first _ ih => rw [List.map_cons, List.map_cons, ih, CellView.place, first.atRow, first.columnId]
  exact places shown.cells

theorem SubSection.ShownAs.places_eq {schema : Schema} {sectionId : String} {sub : SubSection} {view : TableView}
    (shown : sub.ShownAs schema sectionId view) :
    view.cells.map CellView.place = List.range sub.rows.length ×ˢ sub.columns.map Column.id := by
  have places {rows : List Nat} {views : List RowView}
      (related : List.Forall₂ (sub.RowShownAs schema sectionId) rows views) :
      (views.flatMap RowView.cells).map CellView.place = rows ×ˢ sub.columns.map Column.id := by
    induction related with
    | nil => rfl
    | cons first _ ih =>
      rw [List.flatMap_cons, List.map_append, ih, first.places_eq, List.product_cons, List.map_map]
      rfl
  exact places shown.rows

theorem Session.tableView?_eq_view (session : Session) (position index : Nat) :
    session.tableView? position index = (session.schema.tableAt? position index).map fun (sectionId, sub) =>
      sub.view session.schema session.answers sectionId := by
  rw [tableView?, render, Schema.render, List.getElem?_map, Schema.tableAt?]
  cases session.schema.sections[position]? with
  | none => rfl
  | some s =>
    simp only [Option.map_some, Option.bind_some, Section.view]
    cases s.body with
    | tableGroup subs =>
      simp only [SectionBody.view, List.getElem?_map, Option.map_map]
      rfl
    | _ => rfl

theorem Session.places_tableView? (session : Session) (position index : Nat) :
    (session.tableView? position index).map (fun view => view.cells.map CellView.place) =
      (session.schema.tableAt? position index).map fun (_, sub) =>
        List.range sub.rows.length ×ˢ sub.columns.map Column.id := by
  rw [session.tableView?_eq_view, Option.map_map]
  refine Option.map_congr fun ⟨sectionId, sub⟩ _ => ?_
  exact (SubSection.shownAs_view session.schema session.answers sectionId sub).places_eq

theorem Schema.map_isUnsupported_render (schema : Schema) (answers : Answers) :
    (schema.render answers).map SectionView.isUnsupported = schema.sections.map fun s => !s.body.isSupported := by
  rw [render, List.map_map]
  refine List.map_congr_left fun s _ => ?_
  simp only [Function.comp_apply, Section.view, SectionView.isUnsupported]
  cases s.body <;> rfl

namespace SessionRun

variable {σ : Type u} {ε : Type v}

/-- Whatever has been written, a form shows one view for each of its parts, in their order and with their settings.
The cells of a table come row after row, one for each row and column, and parts of unknown kinds show as such. What
has been written changes none of this, neither by further calls nor by other answers. -/
theorem shownAs_render_after (schema : Schema) (add : σ → SubmissionRecord → Except ε Int × σ) (store : σ)
    (calls : List SessionCall) :
    let run := (start schema store).after add calls
    List.Forall₂ (Section.ShownAs schema) schema.sections run.session.render ∧
    (∀ position index, (run.session.tableView? position index).map (fun view => view.cells.map CellView.place) =
      (schema.tableAt? position index).map fun (_, sub) =>
        List.range sub.rows.length ×ˢ sub.columns.map Column.id) ∧
    run.session.render.map SectionView.isUnsupported = schema.sections.map (fun s => !s.body.isSupported) ∧
    (∀ more, (run.after add more).session.render.map SectionView.outline =
      run.session.render.map SectionView.outline) ∧
    ∀ answers, (schema.render answers).map SectionView.outline = run.session.render.map SectionView.outline := by
  intro run
  have sameSchema : run.session.schema = schema := schema_after add _ calls
  have shown : List.Forall₂ (Section.ShownAs schema) schema.sections run.session.render := by
    rw [Session.render, sameSchema]
    exact schema.shownAs_render run.session.answers
  have unchanged (answers : Answers) :
      (schema.render answers).map SectionView.outline = run.session.render.map SectionView.outline :=
    map_eq_of_forall₂ (schema.shownAs_render answers) shown fun _ _ _ => Section.ShownAs.outline_eq
  refine ⟨shown, fun position index => ?_, ?_, fun more => ?_, unchanged⟩
  · rw [run.session.places_tableView?, sameSchema]
  · rw [Session.render, sameSchema]
    exact schema.map_isUnsupported_render run.session.answers
  · rw [Session.render, schema_after, sameSchema]
    exact unchanged _

end SessionRun

end InspectionForms
