import InspectionForms.Proofs.RunWrites
import Mathlib.Data.List.Nodup

namespace InspectionForms

universe u v

/-- A cell of a row in which `value?` is what stands under each column id. -/
def Column.viewInRow (column : Column) (row : Nat) (value? : String → Option Json) : CellView where
  row := row
  columnId := column.id
  value := value? column.id
  enabled := match column.visibleIf with
    | none => true
    | some condition => isTruthyValue (value? condition)
  readOnly := !column.editable
  control := match column.kind with
    | .checkbox => .checkbox (isTruthyValue (value? column.id))
    | .date => .date
    | .textarea => .display true
    | .plain _ => .display false

/-- A table in which `written` is what has been written by row and column. A cell that has not been written shows the
default of its own row. -/
def SubSection.viewInPlace (sub : SubSection) (written : Nat → String → Option Json) : TableView where
  subSectionId := sub.id
  heading := sub.id ++ ". " ++ sub.title
  columns := sub.columns.map fun column => ⟨column.id, column.label, column.kind.name⟩
  rows := sub.rows.mapIdx fun row defaults =>
    ⟨row, sub.columns.map fun column =>
      column.viewInRow row fun columnId => (written row columnId).or (defaults.get? columnId)⟩

/-- The table at two positions, that of its section and its own, with the id of the section. -/
def Schema.tableAt? (schema : Schema) (position index : Nat) : Option (String × SubSection) :=
  schema.sections[position]?.bind fun s =>
    match s.body with
    | .tableGroup subs => subs[index]?.map fun sub => (s.id, sub)
    | _ => none

def Session.tableView? (session : Session) (position index : Nat) : Option TableView :=
  session.render[position]?.bind fun view =>
    match view.body with
    | .tableGroup tables => tables[index]?
    | _ => none

def TableView.cell? (view : TableView) (row column : Nat) : Option CellView :=
  view.rows[row]?.bind fun cells => cells.cells[column]?

theorem SubSection.cell?_viewInPlace (sub : SubSection) (written : Nat → String → Option Json) (row column : Nat) :
    (sub.viewInPlace written).cell? row column =
      sub.rows[row]?.bind fun defaults => sub.columns[column]?.map fun column =>
        column.viewInRow row fun columnId => (written row columnId).or (defaults.get? columnId) := by
  rw [TableView.cell?, viewInPlace, List.getElem?_mapIdx]
  cases sub.rows[row]? with
  | none => rfl
  | some defaults => exact List.getElem?_map

def SectionBody.DistinctTables : SectionBody → Prop
  | tableGroup subs => (subs.map SubSection.id).Nodup ∧ ∀ sub ∈ subs, (sub.columns.map Column.id).Nodup
  | _ => True

instance (body : SectionBody) : Decidable body.DistinctTables :=
  match body with
  | .tableGroup subs => inferInstanceAs (Decidable
    ((subs.map SubSection.id).Nodup ∧ ∀ sub ∈ subs, (sub.columns.map Column.id).Nodup))
  | .fieldset _ | .infoList _ | .signatureGroup _ | .fileUploadGroup _ | .unsupported _ =>
    inferInstanceAs (Decidable True)

/-- No two sections have one id, nor have two tables of a section or two columns of a table. -/
structure Schema.DistinctTables (schema : Schema) : Prop where
  sections : (schema.sections.map Section.id).Nodup
  bodies : ∀ s ∈ schema.sections, s.body.DistinctTables

instance (schema : Schema) : Decidable schema.DistinctTables :=
  decidable_of_iff ((schema.sections.map Section.id).Nodup ∧ ∀ s ∈ schema.sections, s.body.DistinctTables)
    ⟨fun ⟨sections, bodies⟩ => ⟨sections, bodies⟩, fun ⟨sections, bodies⟩ => ⟨sections, bodies⟩⟩

theorem find?_id_eq_some {α : Type} {id : α → String} {xs : List α} (distinct : (xs.map id).Nodup) {x : α}
    (member : x ∈ xs) : (xs.find? fun other => id other == id x) = some x := by
  cases found : xs.find? fun other => id other == id x with
  | none => exact absurd (beq_self_eq_true (id x)) (List.find?_eq_none.mp found x member)
  | some other =>
    have same := List.find?_some found
    exact congrArg some
      (List.inj_on_of_nodup_map distinct (List.mem_of_find?_eq_some found) member (eq_of_beq same))

namespace Schema.DistinctTables

variable {schema : Schema} {s : Section} {subs : List SubSection} {sub : SubSection}

theorem subSection?_eq (distinct : schema.DistinctTables) (inSchema : s ∈ schema.sections)
    (body : s.body = .tableGroup subs) (inSection : sub ∈ subs) : schema.subSection? s.id sub.id = some sub := by
  have subIds : (SectionBody.tableGroup subs).DistinctTables := body ▸ distinct.bodies s inSchema
  have atSection : schema.section? s.id = some s := find?_id_eq_some distinct.sections inSchema
  obtain ⟨id, title, _⟩ := s
  cases body
  rw [subSection?, atSection]
  exact find?_id_eq_some subIds.1 inSection

theorem column?_eq (distinct : schema.DistinctTables) (inSchema : s ∈ schema.sections)
    (body : s.body = .tableGroup subs) (inSection : sub ∈ subs) {column : Column} (inSub : column ∈ sub.columns) :
    sub.column? column.id = some column := by
  have subIds : (SectionBody.tableGroup subs).DistinctTables := body ▸ distinct.bodies s inSchema
  exact find?_id_eq_some (subIds.2 sub inSection) inSub

theorem cellValue?_eq (distinct : schema.DistinctTables) (inSchema : s ∈ schema.sections)
    (body : s.body = .tableGroup subs) (inSection : sub ∈ subs) {row : Nat} {defaults : SortedMap String Json}
    (atRow : sub.rows[row]? = some defaults) (answers : Answers) (columnId : String) :
    cellValue? schema answers s.id sub.id row columnId =
      (answers.cell? s.id sub.id row columnId).or (defaults.get? columnId) := by
  have default : ((schema.subSection? s.id sub.id).bind fun sub => sub.default? row columnId) =
      defaults.get? columnId := by
    rw [distinct.subSection?_eq inSchema body inSection, Option.bind_some, SubSection.default?, atRow,
      Option.bind_some]
  rw [cellValue?, default]
  cases answers.cell? s.id sub.id row columnId <;> rfl

/-- The cell that is looked up by ids is the one that stands at the position. -/
theorem cellView_eq (distinct : schema.DistinctTables) (inSchema : s ∈ schema.sections)
    (body : s.body = .tableGroup subs) (inSection : sub ∈ subs) {column : Column} (inSub : column ∈ sub.columns)
    {row : Nat} {defaults : SortedMap String Json} (atRow : sub.rows[row]? = some defaults) (answers : Answers) :
    column.cellView schema answers s.id sub.id row = column.viewInRow row fun columnId =>
      (answers.cell? s.id sub.id row columnId).or (defaults.get? columnId) := by
  have atColumn : ((schema.subSection? s.id sub.id).bind fun sub => sub.column? column.id) = some column := by
    rw [distinct.subSection?_eq inSchema body inSection, Option.bind_some]
    exact distinct.column?_eq inSchema body inSection inSub
  have values := distinct.cellValue?_eq inSchema body inSection atRow answers
  rw [Column.cellView, resolveCell, atColumn]
  simp only [values]
  rfl

theorem tableView_eq (distinct : schema.DistinctTables) (inSchema : s ∈ schema.sections)
    (body : s.body = .tableGroup subs) (inSection : sub ∈ subs) (answers : Answers) :
    sub.view schema answers s.id = sub.viewInPlace (answers.cell? s.id sub.id) := by
  have rows : ((List.range sub.rowCount).map fun row =>
        (⟨row, sub.columns.map fun column => column.cellView schema answers s.id sub.id row⟩ : RowView)) =
      (sub.viewInPlace (answers.cell? s.id sub.id)).rows := by
    refine List.ext_getElem? fun row => ?_
    rw [List.getElem?_map, SubSection.viewInPlace, List.getElem?_mapIdx]
    cases atRow : sub.rows[row]? with
    | none =>
      have beyond : sub.rowCount ≤ row := List.getElem?_eq_none_iff.mp atRow
      rw [List.getElem?_eq_none (by rwa [List.length_range])]
      rfl
    | some defaults =>
      have within : row < sub.rowCount := (List.getElem?_eq_some_iff.mp atRow).1
      rw [List.getElem?_range within]
      refine congrArg some (congrArg (RowView.mk row) (List.map_congr_left fun column inSub => ?_))
      exact distinct.cellView_eq inSchema body inSection inSub atRow answers
  rw [SubSection.view, rows]
  rfl

end Schema.DistinctTables

/-- Tables that are looked up by ids show what they show by position. -/
theorem Session.tableView?_eq {session : Session} (distinct : session.schema.DistinctTables) (position index : Nat) :
    session.tableView? position index = (session.schema.tableAt? position index).map fun (sectionId, sub) =>
      sub.viewInPlace (session.answers.cell? sectionId sub.id) := by
  rw [tableView?, render, Schema.render, List.getElem?_map, Schema.tableAt?]
  cases atPosition : session.schema.sections[position]? with
  | none => rfl
  | some s =>
    have inSchema := List.mem_of_getElem? atPosition
    simp only [Option.map_some, Option.bind_some, Section.view]
    cases body : s.body with
    | tableGroup subs =>
      simp only [SectionBody.view, List.getElem?_map, Option.map_map]
      refine Option.map_congr fun sub inSection => ?_
      exact distinct.tableView_eq inSchema body (List.mem_of_getElem? inSection) session.answers
    | _ => rfl

namespace SessionRun

variable {σ : Type u} {ε : Type v}

/-- In a form with distinct ids each table shows what stands at its positions: in each cell the last value written
under its ids, be it false or null, and otherwise the default of its own row, by the settings of its own column. Two
cells of whatever forms are the same if only their ids, the defaults of their rows, their columns and what has been
written in their rows are. -/
theorem tableView?_after {schema : Schema} (distinct : schema.DistinctTables)
    (add : σ → SubmissionRecord → Except ε Int × σ) (store : σ) (calls : List SessionCall) :
    let run := (start schema store).after add calls
    let written := schema.lastWrite? ((start schema store).timelyEdits add calls)
    (∀ position index, run.session.tableView? position index =
      (schema.tableAt? position index).map fun (sectionId, sub) =>
        sub.viewInPlace fun row columnId => written (.cell sectionId sub.id row columnId)) ∧
    ∀ (other : Schema) (otherStore : σ) (otherCalls : List SessionCall), other.DistinctTables →
      let otherRun := (start other otherStore).after add otherCalls
      let otherWritten := other.lastWrite? ((start other otherStore).timelyEdits add otherCalls)
      ∀ position index otherPosition otherIndex row column otherColumn sectionId sub otherSub,
        schema.tableAt? position index = some (sectionId, sub) →
        other.tableAt? otherPosition otherIndex = some (sectionId, otherSub) → otherSub.id = sub.id →
        otherSub.rows[row]? = sub.rows[row]? → otherSub.columns[otherColumn]? = sub.columns[column]? →
        (∀ columnId, otherWritten (.cell sectionId sub.id row columnId) =
          written (.cell sectionId sub.id row columnId)) →
        (otherRun.session.tableView? otherPosition otherIndex).bind (TableView.cell? · row otherColumn) =
          (run.session.tableView? position index).bind (TableView.cell? · row column) := by
  -- What is shown by position is the same for every run of a form, so both parts come from it.
  have shown {form : Schema} (distinct : form.DistinctTables) (store : σ) (calls : List SessionCall)
      (position index : Nat) :
      ((start form store).after add calls).session.tableView? position index =
        (form.tableAt? position index).map fun (sectionId, sub) => sub.viewInPlace fun row columnId =>
          form.lastWrite? ((start form store).timelyEdits add calls) (.cell sectionId sub.id row columnId) := by
    have sameSchema : ((start form store).after add calls).session.schema = form := schema_after add _ calls
    rw [Session.tableView?_eq (by rw [sameSchema]; exact distinct), sameSchema, ← get?_answers_start]
    rfl
  intro run written
  refine ⟨shown distinct store calls, ?_⟩
  intro other otherStore otherCalls otherDistinct otherRun otherWritten position index otherPosition otherIndex
    row column otherColumn sectionId sub otherSub atTable atOther sameId sameRow sameColumn sameWrites
  rw [shown distinct store calls, shown otherDistinct otherStore otherCalls, atTable, atOther]
  simp only [Option.map_some, Option.bind_some, SubSection.cell?_viewInPlace, sameId, sameRow, sameColumn]
  cases sub.rows[row]? with
  | none => rfl
  | some defaults =>
    refine congrArg (Option.map · sub.columns[column]?) (funext fun column => ?_)
    exact congrArg (column.viewInRow row) (funext fun columnId => congrArg (Option.or · _) (sameWrites columnId))

/-- A box, and a date that is open while the box is ticked. -/
def boxAndDate : Column × Column :=
  (⟨"done", "Done", .checkbox, true, none⟩, ⟨"on", "On", .date, false, some "done"⟩)

/-- Two sections with the same table. -/
def twinTables : Schema :=
  let table : SubSection := ⟨"t", "Checks", [boxAndDate.1, boxAndDate.2],
    [.ofList [("done", .bool true)], .ofList [("done", .bool true), ("on", .string "May")]]⟩
  ⟨none, none, [⟨"S", "", .tableGroup [table]⟩, ⟨"T", "", .tableGroup [table]⟩]⟩

/-- The second of these tables, with its date and its first row alone. -/
def dateTable : Schema :=
  ⟨none, none, [⟨"T", "", .tableGroup [⟨"t", "Dates", [boxAndDate.2], [.ofList [("done", .bool true)]]⟩]⟩]⟩

/-- A store that takes every record under one id. -/
def takesAll (id : Int) (_ : Unit) (_ : SubmissionRecord) : Except Empty Int × Unit := (.ok id, ())

/-- Null is written over the default of one row of the second table, and what comes after the submission is lost. The
date of that row is the same in the smaller form. -/
theorem tableView?_after_twinTables :
    let run := (start twinTables ()).after (takesAll 7) [.edit (.cell "T" "t" 0 "done" .null), .submit 5,
      .edit (.cell "T" "t" 1 "done" .null)]
    let dateRun := (start dateTable ()).after (takesAll 7) [.edit (.cell "T" "t" 0 "done" .null)]
    twinTables.DistinctTables ∧ dateTable.DistinctTables ∧
    run.session.tableView? 1 0 =
      some ⟨"t", "t. Checks", [⟨"done", "Done", "checkbox"⟩, ⟨"on", "On", "date"⟩],
        [⟨0, [⟨0, "done", some .null, true, false, .checkbox false⟩, ⟨0, "on", none, false, true, .date⟩]⟩,
          ⟨1, [⟨1, "done", some (.bool true), true, false, .checkbox true⟩,
            ⟨1, "on", some (.string "May"), true, true, .date⟩]⟩]⟩ ∧
    (dateRun.session.tableView? 0 0).bind (TableView.cell? · 0 0) =
      (run.session.tableView? 1 0).bind (TableView.cell? · 0 1) := by
  have distinct : twinTables.DistinctTables := by decide
  have dateDistinct : dateTable.DistinctTables := by decide
  have shown := tableView?_after distinct (takesAll 7) () [.edit (.cell "T" "t" 0 "done" .null), .submit 5,
    .edit (.cell "T" "t" 1 "done" .null)]
  have sameWrites (columnId : String) : dateTable.lastWrite? [.cell "T" "t" 0 "done" .null] (.cell "T" "t" 0 columnId) =
      twinTables.lastWrite? [.cell "T" "t" 0 "done" .null] (.cell "T" "t" 0 columnId) := by
    have inDates : dateTable.Takes (.cell "T" "t" 0 columnId) := (by decide : 0 < dateTable.rowCount "T" "t")
    have inTwins : twinTables.Takes (.cell "T" "t" 0 columnId) := (by decide : 0 < twinTables.rowCount "T" "t")
    simp only [Schema.lastWrite?_cons, inDates, inTwins, and_true]
    rfl
  refine ⟨distinct, dateDistinct, (shown.1 1 0).trans rfl, ?_⟩
  exact shown.2 dateTable () [.edit (.cell "T" "t" 0 "done" .null)] dateDistinct 1 0 0 0 0 1 0 "T" _ _ rfl rfl rfl rfl
    rfl sameWrites

end SessionRun

end InspectionForms
