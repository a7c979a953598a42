import InspectionForms.Store.Basic
import Mathlib.Data.List.Nodup

namespace InspectionForms

/-- A record as it is stored. -/
def StoredRow.ofRecord (id : Int) (record : SubmissionRecord) : StoredRow :=
  ⟨id, record.formId, record.payload.compact, record.status.code, record.createdAt, record.updatedAt⟩

/-- A change of status leaves the rows with other ids as they are. -/
def StoredRow.restate (id : Int) (status : Status) (updatedAt : Int) (row : StoredRow) : StoredRow :=
  if row.id == id then { row with statusText := status.code, updatedAt } else row

/-- What stays of a row for as long as it is stored. -/
structure StoredRow.Keeps (row later : StoredRow) : Prop where
  id : later.id = row.id
  formId : later.formId = row.formId
  payloadText : later.payloadText = row.payloadText
  createdAt : later.createdAt = row.createdAt

/-- What holds of a row that a store has written by itself. -/
structure StoredRow.Sound (row : StoredRow) : Prop where
  payload : ∃ payload : Json, row.payloadText = payload.compact
  status : ∃ status : Status, row.statusText = status.code
  ordered : row.createdAt ≤ row.updatedAt

theorem StoredRow.Keeps.refl (row : StoredRow) : row.Keeps row := ⟨rfl, rfl, rfl, rfl⟩

theorem StoredRow.Keeps.trans {row later last : StoredRow} (first : row.Keeps later) (second : later.Keeps last) :
    row.Keeps last :=
  ⟨second.id.trans first.id, second.formId.trans first.formId, second.payloadText.trans first.payloadText,
    second.createdAt.trans first.createdAt⟩

theorem StoredRow.keeps_restate (id : Int) (status : Status) (updatedAt : Int) (row : StoredRow) :
    row.Keeps (row.restate id status updatedAt) := by
  unfold restate
  split
  · exact ⟨rfl, rfl, rfl, rfl⟩
  · exact .refl row

theorem StoredRow.sound_ofRecord (id : Int) {record : SubmissionRecord}
    (ordered : record.createdAt ≤ record.updatedAt) :
    (ofRecord id record).Sound :=
  ⟨⟨record.payload, rfl⟩, ⟨record.status, rfl⟩, ordered⟩

theorem StoredRow.Sound.restate {row : StoredRow} (sound : row.Sound) (id : Int) (status : Status) {updatedAt : Int}
    (ordered : row.id = id → row.createdAt ≤ updatedAt) : (row.restate id status updatedAt).Sound := by
  unfold StoredRow.restate
  split
  · next same => exact ⟨sound.payload, ⟨status, rfl⟩, ordered (eq_of_beq same)⟩
  · exact sound

namespace SubmissionTable

/-- Adds a record under the next id. -/
def push (table : SubmissionTable) (record : SubmissionRecord) : SubmissionTable :=
  ⟨table.rows ++ [.ofRecord ↑(table.lastId + 1) record], table.lastId + 1⟩

def restate (table : SubmissionTable) (id : Int) (status : Status) (updatedAt : Int) : SubmissionTable :=
  { table with rows := table.rows.map (StoredRow.restate id status updatedAt) }

def row? (table : SubmissionTable) (id : Int) : Option StoredRow := table.rows.find? fun row => row.id == id

/-- What one operation of a store can do to its table. -/
inductive Step (table : SubmissionTable) : SubmissionTable → Prop
  | same : Step table table
  | push {record : SubmissionRecord} : record.createdAt ≤ record.updatedAt → Step table (table.push record)
  | restate {id : Int} {row : StoredRow} {status : Status} {updatedAt : Int} : table.row? id = some row →
      row.createdAt ≤ updatedAt → Step table (table.restate id status updatedAt)

inductive Reach (first : SubmissionTable) : SubmissionTable → Prop
  | start : Reach first first
  | next {table later : SubmissionTable} : Reach first table → table.Step later → Reach first later

/-- The ids of the rows are 1, 2, 3 and so on up to the last one given out. -/
structure Sound (table : SubmissionTable) : Prop where
  ids : table.rows.map StoredRow.id = (List.range table.lastId).map fun n => ((n + 1 : Nat) : Int)
  rows {row : StoredRow} : row ∈ table.rows → row.Sound

variable {table : SubmissionTable}

theorem row?_mem {id : Int} {row : StoredRow} (h : table.row? id = some row) : row ∈ table.rows ∧ row.id = id := by
  refine ⟨List.mem_of_find?_eq_some h, ?_⟩
  have found := List.find?_some h
  exact eq_of_beq found

theorem sound_empty : SubmissionTable.empty.Sound := ⟨rfl, fun member => nomatch member⟩

theorem Sound.nodup_ids (sound : table.Sound) : (table.rows.map StoredRow.id).Nodup := by
  rw [sound.ids, List.Nodup, List.pairwise_map]
  refine List.Pairwise.imp (fun {a b} differ same => differ ?_) (List.nodup_range (n := table.lastId))
  omega

theorem Sound.length_rows (sound : table.Sound) : table.rows.length = table.lastId := by
  rw [← List.length_map StoredRow.id, sound.ids, List.length_map, List.length_range]

theorem Sound.id_le_lastId (sound : table.Sound) {row : StoredRow} (member : row ∈ table.rows) :
    row.id ≤ table.lastId := by
  have listed : row.id ∈ table.rows.map StoredRow.id := List.mem_map_of_mem member
  rw [sound.ids, List.mem_map] at listed
  obtain ⟨n, inRange, same⟩ := listed
  have bound := List.mem_range.mp inRange
  omega

theorem Sound.eq_of_id (sound : table.Sound) {row other : StoredRow} (member : row ∈ table.rows)
    (otherMember : other ∈ table.rows) (same : other.id = row.id) : other = row :=
  List.inj_on_of_nodup_map sound.nodup_ids otherMember member same

/-- In a sound table a row is found by its id. -/
theorem Sound.row?_eq_some_iff (sound : table.Sound) {id : Int} {row : StoredRow} :
    table.row? id = some row ↔ row ∈ table.rows ∧ row.id = id := by
  refine ⟨row?_mem, fun ⟨member, same⟩ => ?_⟩
  cases found : table.row? id with
  | none => exact absurd (beq_iff_eq.mpr same) (List.find?_eq_none.mp found row member)
  | some other =>
    obtain ⟨otherMember, otherId⟩ := row?_mem found
    exact congrArg some (sound.eq_of_id member otherMember (otherId.trans same.symm))

theorem Sound.step (sound : table.Sound) {later : SubmissionTable} (step : table.Step later) : later.Sound := by
  cases step with
  | same => exact sound
  | push ordered =>
    refine ⟨?_, fun member => ?_⟩
    · rw [push, List.map_append, sound.ids, List.range_succ, List.map_append]
      rfl
    · rcases List.mem_append.mp member with old | new
      · exact sound.rows old
      · obtain rfl := List.mem_singleton.mp new
        exact StoredRow.sound_ofRecord _ ordered
  | @restate id row status updatedAt found ordered =>
    refine ⟨?_, fun member => ?_⟩
    · rw [restate, ← sound.ids, List.map_map]
      exact List.map_congr_left fun row _ => (StoredRow.keeps_restate id status updatedAt row).id
    · obtain ⟨old, oldMember, rfl⟩ := List.mem_map.mp member
      refine (sound.rows oldMember).restate id status fun same => ?_
      obtain ⟨rowMember, rowId⟩ := row?_mem found
      rw [sound.eq_of_id rowMember oldMember (same.trans rowId.symm)]
      exact ordered

theorem Sound.row?_push (sound : table.Sound) {record : SubmissionRecord}
    (ordered : record.createdAt ≤ record.updatedAt) :
    (table.push record).row? ↑(table.lastId + 1) = some (.ofRecord ↑(table.lastId + 1) record) :=
  (sound.step (.push ordered)).row?_eq_some_iff.mpr ⟨List.mem_append_right _ (List.mem_singleton_self _), rfl⟩

theorem Sound.reach (sound : table.Sound) {later : SubmissionTable} (reach : table.Reach later) : later.Sound := by
  induction reach with
  | start => exact sound
  | next _ step ih => exact ih.step step

theorem Step.kept {later : SubmissionTable} (step : table.Step later) {row : StoredRow} (member : row ∈ table.rows) :
    ∃ kept ∈ later.rows, row.Keeps kept := by
  cases step with
  | same => exact ⟨row, member, .refl row⟩
  | push => exact ⟨row, List.mem_append_left _ member, .refl row⟩
  | @restate id _ status updatedAt =>
    exact ⟨_, List.mem_map_of_mem member, StoredRow.keeps_restate id status updatedAt row⟩

/-- No row is ever lost, and what has been submitted with it stays. -/
theorem Reach.kept {later : SubmissionTable} (reach : table.Reach later) {row : StoredRow}
    (member : row ∈ table.rows) : ∃ kept ∈ later.rows, row.Keeps kept := by
  induction reach with
  | start => exact ⟨row, member, .refl row⟩
  | next _ step ih =>
    obtain ⟨between, inTable, first⟩ := ih
    obtain ⟨kept, inLater, second⟩ := step.kept inTable
    exact ⟨kept, inLater, first.trans second⟩

end SubmissionTable

end InspectionForms
