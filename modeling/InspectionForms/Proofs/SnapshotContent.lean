import InspectionForms.Proofs.LastWrites
import InspectionForms.Proofs.SnapshotMembers

namespace InspectionForms

/-- Each row of a table has a cell, and there is a row. -/
structure TableAnswers.Full (table : TableAnswers) : Prop where
  inhabited : ∃ row cells, table.get? row = some cells
  rows {row : Nat} {cells : RowAnswers} : table.get? row = some cells →
    ∃ columnId value, cells.get? columnId = some value

structure SectionAnswers.Full (s : SectionAnswers) : Prop where
  inhabited : (∃ fieldId value, s.fields.get? fieldId = some value) ∨
    ∃ subSectionId table, s.tables.get? subSectionId = some table
  tables {subSectionId : String} {table : TableAnswers} : s.tables.get? subSectionId = some table → table.Full

/-- No section, table or row of the answers is empty. -/
def Answers.Full (answers : Answers) : Prop :=
  ∀ sectionId inSection, answers.sections.get? sectionId = some inSection → inSection.Full

namespace Answers

variable {answers : Answers}

theorem full_empty : empty.Full := fun _ _ found => nomatch found

theorem Full.writeField (full : answers.Full) (sectionId fieldId : String) (value : Json) :
    (answers.writeField sectionId fieldId value).Full := by
  intro s inSection found
  rw [Answers.writeField, SortedMap.get?_alter] at found
  split at found
  · obtain rfl := Option.some.inj found
    refine ⟨.inl ⟨fieldId, value, by rw [SortedMap.get?_insert, if_pos rfl]⟩, fun {t table} atTable => ?_⟩
    cases old : answers.sections.get? sectionId with
    | none =>
      rw [old] at atTable
      cases atTable
    | some inSection =>
      rw [old] at atTable
      exact (full _ _ old).tables atTable
  · exact full s inSection found

theorem full_writeRow {table : Option TableAnswers} (full : ∀ old, table = some old → old.Full) (row : Nat)
    (columnId : String) (value : Json) :
    TableAnswers.Full ((table.getD ∅).alter row fun cells => (cells.getD ∅).insert columnId value) := by
  refine ⟨⟨row, _, by rw [SortedMap.get?_alter, if_pos rfl]⟩, fun {r cells} atRow => ?_⟩
  rw [SortedMap.get?_alter] at atRow
  split at atRow
  · obtain rfl := Option.some.inj atRow
    exact ⟨columnId, value, by rw [SortedMap.get?_insert, if_pos rfl]⟩
  · cases table with
    | none => cases atRow
    | some old => exact (full old rfl).rows atRow

theorem Full.writeCell (full : answers.Full) (sectionId subSectionId : String) (row : Nat) (columnId : String)
    (value : Json) : (answers.writeCell sectionId subSectionId row columnId value).Full := by
  intro s inSection found
  rw [Answers.writeCell, SortedMap.get?_alter] at found
  split at found
  · obtain rfl := Option.some.inj found
    have oldTables {t : String} {table : TableAnswers}
        (atTable : ((answers.sections.get? sectionId).getD ⟨∅, ∅⟩).tables.get? t = some table) : table.Full := by
      cases old : answers.sections.get? sectionId with
      | none =>
        rw [old] at atTable
        cases atTable
      | some inSection =>
        rw [old] at atTable
        exact (full _ _ old).tables atTable
    refine ⟨.inr ⟨subSectionId, _, by rw [SortedMap.get?_alter, if_pos rfl]⟩, fun {t table} atTable => ?_⟩
    rw [SortedMap.get?_alter] at atTable
    split at atTable
    · obtain rfl := Option.some.inj atTable
      exact full_writeRow (fun old atOld => oldTables atOld) row columnId value
    · exact oldTables atTable
  · exact full s inSection found

theorem Full.put (full : answers.Full) (value : Json) (target : Target) : (answers.put value target).Full := by
  cases target with
  | field s f => exact full.writeField s f value
  | cell s t r c => exact full.writeCell s t r c value

theorem Full.applyEdits {session : Session} (full : session.answers.Full) (edits : List Edit) :
    (session.applyEdits edits).answers.Full := by
  induction edits generalizing session with
  | nil => exact full
  | cons edit rest ih =>
    refine ih ?_
    rw [Session.applyEdit_eq]
    split
    · exact full.put edit.value edit.target
    · exact full

end Answers

/-- An object in normal form with exactly these members. -/
def Json.HasExactly (json : Json) (P : String → Json → Prop) : Prop :=
  ∃ members : SortedMap String Json, json = .ofMap members ∧
    ∀ name value, members.get? name = some value ↔ P name value

theorem Json.HasExactly.unique {a b : Json} {P : String → Json → Prop} (ha : a.HasExactly P) (hb : b.HasExactly P) :
    a = b := by
  obtain ⟨as, rfl, inA⟩ := ha
  obtain ⟨bs, rfl, inB⟩ := hb
  refine congrArg ofMap (SortedMap.ext_get? fun name => Option.ext fun value => ?_)
  rw [inA, inB]

section Written
variable (written : Target → Option Json)

def Json.IsRowOf (s t : String) (r : Nat) (json : Json) : Prop :=
  json.HasExactly fun c value => written (.cell s t r c) = some value

/-- A table has its written rows, each under the text of its position. -/
def Json.IsTableOf (s t : String) (json : Json) : Prop :=
  json.HasExactly fun name row => ∃ r, name = natText r ∧ (∃ c value, written (.cell s t r c) = some value) ∧
    row.IsRowOf written s t r

/-- A section has its written tables, and its written fields but for those whose id is that of a written table. -/
def Json.IsSectionOf (s : String) (json : Json) : Prop :=
  json.HasExactly fun name value =>
    (∃ r c cell, written (.cell s name r c) = some cell) ∧ value.IsTableOf written s name ∨
    (∀ r c, written (.cell s name r c) = none) ∧ written (.field s name) = some value

/-- What has been written, and nothing else. -/
def Json.IsSnapshotOf (json : Json) : Prop :=
  json.HasExactly fun s value =>
    ((∃ f field, written (.field s f) = some field) ∨ ∃ t r c cell, written (.cell s t r c) = some cell) ∧
    value.IsSectionOf written s

end Written

namespace Answers

variable {answers : Answers} {s t : String} {inSection : SectionAnswers} {table : TableAnswers}

theorem field?_of_section (atSection : answers.sections.get? s = some inSection) (f : String) :
    answers.field? s f = inSection.fields.get? f := by
  rw [field?, atSection]
  rfl

theorem cell?_of_table (atSection : answers.sections.get? s = some inSection)
    (atTable : inSection.tables.get? t = some table) (r : Nat) (c : String) :
    answers.cell? s t r c = (table.get? r).bind fun cells => cells.get? c := by
  rw [cell?, atSection, Option.bind_eq_bind, Option.bind_some, atTable]
  rfl

theorem cell?_of_no_table (atSection : answers.sections.get? s = some inSection)
    (atTable : inSection.tables.get? t = none) (r : Nat) (c : String) : answers.cell? s t r c = none := by
  rw [cell?, atSection, Option.bind_eq_bind, Option.bind_some, atTable]
  rfl

theorem isRowOf_cells {r : Nat} {cells : RowAnswers} (atSection : answers.sections.get? s = some inSection)
    (atTable : inSection.tables.get? t = some table) (atRow : table.get? r = some cells) :
    (Json.ofMap cells).IsRowOf answers.get? s t r := by
  refine ⟨cells, rfl, fun c value => ?_⟩
  change cells.get? c = some value ↔ answers.cell? s t r c = some value
  rw [cell?_of_table atSection atTable, atRow]
  rfl

theorem isTableOf_toJson (atSection : answers.sections.get? s = some inSection)
    (atTable : inSection.tables.get? t = some table) (full : table.Full) :
    table.toJson.IsTableOf answers.get? s t := by
  refine ⟨table.members, rfl, fun name row => ?_⟩
  rw [TableAnswers.get?_members_eq_some_iff]
  constructor
  · rintro ⟨r, cells, rfl, atRow, rfl⟩
    obtain ⟨c, value, atCell⟩ := full.rows atRow
    refine ⟨r, rfl, ⟨c, value, ?_⟩, isRowOf_cells atSection atTable atRow⟩
    rw [get?, cell?_of_table atSection atTable, atRow]
    exact atCell
  · rintro ⟨r, rfl, ⟨c, value, written⟩, isRow⟩
    rw [get?, cell?_of_table atSection atTable] at written
    obtain ⟨cells, atRow, _⟩ := Option.bind_eq_some_iff.mp written
    exact ⟨r, cells, rfl, atRow, (isRowOf_cells atSection atTable atRow).unique isRow⟩

theorem isSectionOf_toJson (atSection : answers.sections.get? s = some inSection) (full : inSection.Full) :
    inSection.toJson.IsSectionOf answers.get? s := by
  refine ⟨inSection.members, rfl, fun name value => ?_⟩
  rw [SectionAnswers.get?_members]
  -- A table under this name hides a field with it, and a table is never empty.
  cases atTable : inSection.tables.get? name with
  | some table =>
    have isTable := isTableOf_toJson atSection atTable (full.tables atTable)
    obtain ⟨r, cells, atRow⟩ := (full.tables atTable).inhabited
    obtain ⟨c, cell, atCell⟩ := (full.tables atTable).rows atRow
    have written : answers.get? (.cell s name r c) = some cell := by
      rw [get?, cell?_of_table atSection atTable, atRow]
      exact atCell
    constructor
    · intro same
      obtain rfl := Option.some.inj same
      exact .inl ⟨⟨r, c, cell, written⟩, isTable⟩
    · rintro (⟨_, other⟩ | ⟨none, _⟩)
      · exact congrArg some (isTable.unique other)
      · cases (none r c).symm.trans written
  | none =>
    have noCell (r : Nat) (c : String) : answers.get? (.cell s name r c) = none :=
      cell?_of_no_table atSection atTable r c
    constructor
    · intro atField
      exact .inr ⟨noCell, (field?_of_section atSection name).trans atField⟩
    · rintro (⟨⟨r, c, cell, written⟩, _⟩ | ⟨_, written⟩)
      · cases (noCell r c).symm.trans written
      · exact (field?_of_section atSection name).symm.trans written

theorem Full.written_of_row (full : answers.Full) {r : Nat} {cells : RowAnswers}
    (atSection : answers.sections.get? s = some inSection) (atTable : inSection.tables.get? t = some table)
    (atRow : table.get? r = some cells) : ∃ c value, answers.get? (.cell s t r c) = some value := by
  obtain ⟨c, value, atCell⟩ := ((full s inSection atSection).tables atTable).rows atRow
  refine ⟨c, value, ?_⟩
  rw [get?, cell?_of_table atSection atTable, atRow]
  exact atCell

/-- Where nothing is empty, a section is there only because something has been written in it. -/
theorem Full.written_of_section (full : answers.Full) (atSection : answers.sections.get? s = some inSection) :
    (∃ f value, answers.get? (.field s f) = some value) ∨ ∃ t r c value, answers.get? (.cell s t r c) = some value := by
  have ofSection := full s inSection atSection
  rcases ofSection.inhabited with ⟨f, value, atField⟩ | ⟨t, table, atTable⟩
  · exact .inl ⟨f, value, (field?_of_section atSection f).trans atField⟩
  · obtain ⟨r, cells, atRow⟩ := (ofSection.tables atTable).inhabited
    exact .inr ⟨t, r, full.written_of_row atSection atTable atRow⟩

/-- A snapshot holds exactly what has been written. -/
theorem Full.isSnapshotOf (full : answers.Full) : answers.snapshot.IsSnapshotOf answers.get? := by
  refine ⟨answers.sections.map SectionAnswers.toJson, rfl, fun s value => ?_⟩
  rw [SortedMap.get?_map]
  constructor
  · intro found
    obtain ⟨inSection, atSection, rfl⟩ := Option.map_eq_some_iff.mp found
    exact ⟨full.written_of_section atSection, isSectionOf_toJson atSection (full s inSection atSection)⟩
  · rintro ⟨written, isSection⟩
    have present : ∃ inSection, answers.sections.get? s = some inSection := by
      rcases written with ⟨f, field, atField⟩ | ⟨t, r, c, cell, atCell⟩
      · obtain ⟨inSection, atSection, _⟩ := field?_eq_some_iff.mp atField
        exact ⟨inSection, atSection⟩
      · obtain ⟨inSection, _, _, atSection, _⟩ := cell?_eq_some_iff.mp atCell
        exact ⟨inSection, atSection⟩
    obtain ⟨inSection, atSection⟩ := present
    rw [atSection]
    exact congrArg some ((isSectionOf_toJson atSection (full s inSection atSection)).unique isSection)

end Answers

/-- The value that stands in nested objects under these names. -/
def Json.at? (json : Json) (path : List String) : Option Json := path.foldlM (fun json name => json.member? name) json

theorem Json.at?_cons {json inner : Json} {P : String → Json → Prop} (exactly : json.HasExactly P) {name : String}
    (member : P name inner) (path : List String) : json.at? (name :: path) = inner.at? path := by
  obtain ⟨members, rfl, same⟩ := exactly
  have found : (ofMap members).member? name = some inner := (same name inner).mpr member
  rw [at?, List.foldlM_cons, found]
  rfl

namespace Answers

variable {answers : Answers}

theorem Full.at?_table (full : answers.Full) {s t : String} {r : Nat} {c : String} {value : Json}
    (written : answers.get? (.cell s t r c) = some value) (path : List String) :
    ∃ table : Json, answers.snapshot.at? (s :: t :: path) = table.at? path ∧ table.IsTableOf answers.get? s t := by
  obtain ⟨inSection, table, _, atSection, atTable, _⟩ := cell?_eq_some_iff.mp written
  have ofSection := full s inSection atSection
  have isSection := isSectionOf_toJson atSection ofSection
  have isTable := isTableOf_toJson atSection atTable (ofSection.tables atTable)
  refine ⟨table.toJson, ?_, isTable⟩
  rw [Json.at?_cons full.isSnapshotOf ⟨.inr ⟨t, r, c, value, written⟩, isSection⟩]
  exact Json.at?_cons isSection (.inl ⟨⟨r, c, value, written⟩, isTable⟩) path

theorem Full.at?_cell (full : answers.Full) {s t : String} {r : Nat} {c : String} {value : Json}
    (written : answers.get? (.cell s t r c) = some value) :
    answers.snapshot.at? [s, t, natText r, c] = some value := by
  obtain ⟨inSection, table, cells, atSection, atTable, atRow, atCell⟩ := cell?_eq_some_iff.mp written
  obtain ⟨json, same, isTable⟩ := full.at?_table written [natText r, c]
  have isRow := isRowOf_cells atSection atTable atRow
  rw [same, Json.at?_cons isTable ⟨r, rfl, ⟨c, value, written⟩, isRow⟩, Json.at?_cons isRow written]
  rfl

theorem Full.at?_field (full : answers.Full) {s f : String} {value : Json}
    (noCell : ∀ r c, answers.get? (.cell s f r c) = none) (written : answers.get? (.field s f) = some value) :
    answers.snapshot.at? [s, f] = some value := by
  obtain ⟨inSection, atSection, _⟩ := field?_eq_some_iff.mp written
  have isSection := isSectionOf_toJson atSection (full s inSection atSection)
  rw [Json.at?_cons full.isSnapshotOf ⟨.inl ⟨f, value, written⟩, isSection⟩,
    Json.at?_cons isSection (.inr ⟨noCell, written⟩)]
  rfl

end Answers

/-- After any edits a snapshot holds the last writes that the form has taken and nothing else. A table that has been
written hides a field with its id, though the field is still there to be asked for. -/
theorem Session.snapshot_lastWrites (schema : Schema) (edits : List Edit) :
    let session := (Session.new schema).applyEdits edits
    let written := schema.lastWrite? edits
    (∀ s t r c value, written (.cell s t r c) = some value →
      session.answers.snapshot.at? [s, t, natText r, c] = some value) ∧
    (∀ s f value, (∀ r c, written (.cell s f r c) = none) → written (.field s f) = some value →
      session.answers.snapshot.at? [s, f] = some value) ∧
    (∀ s f r c value, written (.cell s f r c) = some value →
      ∃ table : Json, session.answers.snapshot.at? [s, f] = some table ∧ table.IsTableOf written s f) ∧
    (∀ s f, session.field? s f = written (.field s f)) ∧
    session.answers.snapshot.IsSnapshotOf written := by
  intro session written
  have full : session.answers.Full := Answers.Full.applyEdits Answers.full_empty edits
  have same : session.answers.get? = written := get?_applyEdits_new schema edits
  rw [← same]
  refine ⟨fun s t r c value => full.at?_cell, fun s f value => full.at?_field, fun s f r c value written => ?_,
    fun s f => rfl, full.isSnapshotOf⟩
  exact full.at?_table written []

end InspectionForms
