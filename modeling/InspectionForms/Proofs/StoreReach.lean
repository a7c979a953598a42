import InspectionForms.Proofs.TableSteps

namespace InspectionForms.Store

/-- What a store becomes by its own operations. -/
inductive Reach (first : Store) : Store → Prop
  | start : Reach first first
  | insert {store : Store} (record : SubmissionRecord) : Reach first store → Reach first (store.insert record).2
  | setStatus {store : Store} (id : Int) (status : Status) (updatedAt : Int) : Reach first store →
      Reach first (store.setStatus id status updatedAt).2
  | reopen {store : Store} : Reach first store → Reach first store.reopen

variable {store : Store} {table : SubmissionTable}

theorem insert_of_table (present : store.table = some table) {record : SubmissionRecord}
    (ordered : record.createdAt ≤ record.updatedAt) :
    store.insert record =
      (.ok ⟨↑(table.lastId + 1), record.formId, record.payload, record.status, record.createdAt, record.updatedAt⟩,
        { store with table := some (table.push record) }) := by
  rw [insert, if_neg (by omega), present]
  rfl

theorem insert_of_unordered {record : SubmissionRecord} (unordered : record.updatedAt < record.createdAt) :
    store.insert record = (.error .updatedBeforeCreated, store) :=
  if_pos unordered

theorem step_insert (present : store.table = some table) (record : SubmissionRecord) :
    ∃ later, (store.insert record).2.table = some later ∧ table.Step later := by
  by_cases ordered : record.createdAt ≤ record.updatedAt
  · rw [insert_of_table present ordered]
    exact ⟨_, rfl, .push ordered⟩
  · rw [insert_of_unordered (by omega)]
    exact ⟨table, present, .same⟩

theorem step_setStatus (present : store.table = some table) (id : Int) (status : Status) (updatedAt : Int) :
    ∃ later, (store.setStatus id status updatedAt).2.table = some later ∧ table.Step later := by
  unfold setStatus
  rw [present]
  dsimp only
  split
  · exact ⟨table, present, .same⟩
  · next row found =>
    split
    · exact ⟨table, present, .same⟩
    · exact ⟨_, rfl, .restate found (by omega)⟩

theorem reopen_table (present : store.table = some table) : store.reopen.table = some table := by
  rw [reopen, present]
  rfl

/-- Its own operations never take the table of a store away. -/
theorem Reach.tableReach {first : Store} (reach : first.Reach store) {before : SubmissionTable}
    (present : first.table = some before) : ∃ table, store.table = some table ∧ before.Reach table := by
  induction reach with
  | start => exact ⟨before, present, .start⟩
  | insert record _ ih =>
    obtain ⟨between, there, reached⟩ := ih
    obtain ⟨later, stands, step⟩ := step_insert there record
    exact ⟨later, stands, .next reached step⟩
  | setStatus id status updatedAt _ ih =>
    obtain ⟨between, there, reached⟩ := ih
    obtain ⟨later, stands, step⟩ := step_setStatus there id status updatedAt
    exact ⟨later, stands, .next reached step⟩
  | reopen _ ih =>
    obtain ⟨between, there, reached⟩ := ih
    exact ⟨between, reopen_table there, reached⟩

theorem Reach.sound (reach : Store.empty.Reach store) : ∃ table, store.table = some table ∧ table.Sound := by
  obtain ⟨table, present, reached⟩ := reach.tableReach rfl
  exact ⟨table, present, SubmissionTable.sound_empty.reach reached⟩

theorem Reach.sound_of_table (reach : Store.empty.Reach store) (present : store.table = some table) :
    table.Sound := by
  obtain ⟨there, presentThere, sound⟩ := reach.sound
  rw [present] at presentThere
  exact Option.some.inj presentThere ▸ sound

theorem get?_of_table (present : store.table = some table) (id : Int) :
    store.get? id = match table.row? id with
      | none => .ok none
      | some row => row.read.map some := by
  unfold get? requireTable
  rw [present]
  rfl

theorem list_of_table (present : store.table = some table) (status : Option Status) (limit : Nat) {offset : Nat}
    (inRange : offset < 0x8000000000000000) :
    store.list status limit offset = (page table status limit offset).mapM StoredRow.read := by
  unfold list requireTable
  rw [present, if_neg (by omega)]
  rfl

theorem count_of_table (present : store.table = some table) (status : Option Status) :
    store.count status = .ok (table.rows.countP (StoredRow.hasStatus status)) := by
  rw [count, requireTable, present]
  rfl

theorem count_none_of_table (present : store.table = some table) : store.count none = .ok table.rows.length := by
  have all : table.rows.countP (StoredRow.hasStatus none) = table.rows.length :=
    List.countP_eq_length.mpr fun _ _ => rfl
  rw [count_of_table present, all]

end InspectionForms.Store
