import InspectionForms.Proofs.StatusChanges

namespace InspectionForms

/-- Each number in a value is a 64-bit integer. -/
def Json.HasOnlyIntegers (json : Json) : Prop := ∀ n ∈ json.numbers, ∃ i inRange, n = .integer i inRange

theorem Json.HasOnlyIntegers.doublesReadBack {json : Json} (integers : json.HasOnlyIntegers) :
    json.DoublesReadBack := by
  intro d member
  obtain ⟨i, inRange, same⟩ := integers _ member
  cases same

theorem Json.numbers_nestedArrays (n : Nat) : (nestedArrays n).numbers = [] := by
  induction n with
  | zero => rfl
  | succ n ih => simp only [nestedArrays, numbers, numbersOfItems, ih, List.append_nil]

namespace StoredRow

variable {row : StoredRow}

theorem restate_of_ne {id : Int} (other : row.id ≠ id) (status : Status) (updatedAt : Int) :
    row.restate id status updatedAt = row :=
  if_neg (by simpa using other)

/-- A row that a store has written by itself can only have a payload that cannot be read. -/
theorem Sound.cause_of_read_eq_error (sound : row.Sound) {cause : StoreError} (failed : row.read = .error cause) :
    cause = .payloadNotJson row.payloadText := by
  obtain ⟨status, code⟩ := sound.status
  unfold read at failed
  rw [code, Status.ofText?_code] at failed
  dsimp only at failed
  split at failed
  · exact (Except.error.inj failed).symm
  · cases failed

end StoredRow

namespace Store

/-- What a store becomes by its own operations, none of which changes the status of the row with some id. -/
inductive ReachBeside (id : Int) (first : Store) : Store → Prop
  | start : ReachBeside id first first
  | insert {store : Store} (record : SubmissionRecord) : ReachBeside id first store →
      ReachBeside id first (store.insert record).2
  | setStatus {store : Store} {other : Int} (beside : other ≠ id) (status : Status) (updatedAt : Int) :
      ReachBeside id first store → ReachBeside id first (store.setStatus other status updatedAt).2
  | reopen {store : Store} : ReachBeside id first store → ReachBeside id first store.reopen

variable {first store : Store} {table : SubmissionTable} {id : Int} {row : StoredRow}

/-- A store has a row under its id, in a table of its own making. -/
def HasRow (store : Store) (row : StoredRow) : Prop :=
  ∃ table, store.table = some table ∧ table.Sound ∧ row ∈ table.rows

theorem HasRow.get?_eq (has : store.HasRow row) : store.get? row.id = row.read.map some := by
  obtain ⟨table, present, sound, member⟩ := has
  rw [get?_of_table present, sound.row?_eq_some_iff.mpr ⟨member, rfl⟩]

theorem HasRow.insert (has : store.HasRow row) (record : SubmissionRecord) : (store.insert record).2.HasRow row := by
  obtain ⟨table, present, sound, member⟩ := has
  by_cases ordered : record.createdAt ≤ record.updatedAt
  · rw [insert_of_table present ordered]
    exact ⟨_, rfl, sound.step (.push ordered), List.mem_append_left _ member⟩
  · rw [insert_of_unordered (by omega)]
    exact ⟨table, present, sound, member⟩

/-- All that a change of status can do to a store. -/
theorem setStatus_cases (present : store.table = some table) (id : Int) (status : Status) (updatedAt : Int) :
    (store.setStatus id status updatedAt).2 = store ∨
    (∃ row, table.row? id = some row ∧ row.createdAt ≤ updatedAt) ∧
      (store.setStatus id status updatedAt).2 = { store with table := some (table.restate id status updatedAt) } := by
  rw [setStatus_of_table present]
  cases found : table.row? id with
  | none => exact .inl rfl
  | some row =>
    dsimp only
    by_cases early : updatedAt < row.createdAt
    · rw [if_pos early]
      exact .inl rfl
    · rw [if_neg early]
      exact .inr ⟨⟨row, rfl, by omega⟩, rfl⟩

theorem HasRow.setStatus (has : store.HasRow row) {other : Int} (beside : other ≠ row.id) (status : Status)
    (updatedAt : Int) : (store.setStatus other status updatedAt).2.HasRow row := by
  obtain ⟨table, present, sound, member⟩ := id has
  rcases setStatus_cases present other status updatedAt with same | ⟨⟨found, atOther, inTime⟩, changed⟩
  · rw [same]
    exact has
  · rw [changed]
    refine ⟨_, rfl, sound.step (.restate atOther inTime), List.mem_map.mpr ⟨row, member, ?_⟩⟩
    exact StoredRow.restate_of_ne (Ne.symm beside) status updatedAt

theorem HasRow.reopen (has : store.HasRow row) : store.reopen.HasRow row := by
  obtain ⟨table, present, sound, member⟩ := has
  exact ⟨table, reopen_table present, sound, member⟩

/-- A row stays as it is until its own status is changed. -/
theorem HasRow.reachBeside (has : first.HasRow row) (beside : first.ReachBeside row.id store) : store.HasRow row := by
  induction beside with
  | start => exact has
  | insert record _ ih => exact ih.insert record
  | setStatus other status updatedAt _ ih => exact ih.setStatus other status updatedAt
  | reopen _ ih => exact ih.reopen

/-- What has been stored under an id stays there, whatever is done to the store. -/
theorem HasRow.reach (has : first.HasRow row) (later : first.Reach store) :
    ∃ kept, store.HasRow kept ∧ row.Keeps kept := by
  obtain ⟨before, present, sound, member⟩ := has
  obtain ⟨table, stands, reached⟩ := later.tableReach present
  obtain ⟨kept, inTable, keeps⟩ := reached.kept member
  exact ⟨kept, ⟨table, stands, sound.reach reached, inTable⟩, keeps⟩

theorem hasRow_insert (present : store.table = some table) (sound : table.Sound) {record : SubmissionRecord}
    (ordered : record.createdAt ≤ record.updatedAt) :
    (store.insert record).2.HasRow (.ofRecord ↑(table.lastId + 1) record) := by
  rw [insert_of_table present ordered]
  exact ⟨_, rfl, sound.step (.push ordered), List.mem_append_right _ (List.mem_singleton_self _)⟩

/-- The next id has not been given out, so nothing is stored under it. -/
theorem get?_next (present : store.table = some table) (sound : table.Sound) :
    store.get? ↑(table.lastId + 1) = .ok none := by
  have missing : table.row? ↑(table.lastId + 1) = none := by
    rw [SubmissionTable.row?, List.find?_eq_none]
    intro row member same
    have bound := sound.id_le_lastId member
    have equal := eq_of_beq same
    omega
  rw [get?_of_table present, missing]

/-- A page with a row that cannot be read fails, and the error is about a payload. -/
theorem list_eq_error_of_mem (present : store.table = some table) (sound : table.Sound) {status : Option Status}
    {limit offset : Nat} (inRange : offset < 0x8000000000000000) (selected : row ∈ page table status limit offset)
    (unreadable : ¬ row.read.isOk) : ∃ text, store.list status limit offset = .error (.payloadNotJson text) := by
  rw [list_of_table present status limit inRange]
  cases answer : (page table status limit offset).mapM StoredRow.read with
  | ok rows => exact absurd (isOk_mapM_iff.mp (by rw [answer]; rfl) row selected) unreadable
  | error cause =>
    obtain ⟨other, onPage, failed⟩ := exists_of_mapM_eq_error answer
    have about := (sound.rows (mem_of_mem_page onPage)).cause_of_read_eq_error failed
    exact ⟨other.payloadText, congrArg Except.error about⟩

/-- A row whose text is nested too deep cannot be read, by itself or in a page. -/
theorem HasRow.unreadable_of_deep (has : store.HasRow row) {payload : Json} (holds : row.Holds payload)
    (deep : Json.nestingLimit < payload.depth) :
    store.get? row.id = .error (.payloadNotJson payload.compact) ∧
    ∀ status limit offset, offset < 0x8000000000000000 →
      (∃ table, store.table = some table ∧ row ∈ page table status limit offset) →
      ∃ text, store.list status limit offset = .error (.payloadNotJson text) := by
  obtain ⟨table, present, sound, member⟩ := id has
  obtain ⟨status, code⟩ := (sound.rows member).status
  have unreadable : ¬ payload.IsReadable := fun readable => absurd readable.1 (by omega)
  have failed := holds.read_of_unreadable code unreadable
  refine ⟨?_, ?_⟩
  · rw [has.get?_eq, failed, holds.text]
    rfl
  · rintro status limit offset inRange ⟨there, presentThere, selected⟩
    obtain rfl := Option.some.inj (presentThere.symm.trans present)
    refine list_eq_error_of_mem present sound inRange selected ?_
    rw [failed]
    exact fun h => nomatch h

/-- The life of an inserted row. The insertion gives it an id under which nothing has been stored. If its payload is
nested within the limit, the row that the insertion has answered is read under the id for as long as its status is not
changed. If it is nested deeper, it is never read, and neither is any page that selects it. -/
theorem insert_lifetime (reach : Store.empty.Reach store) (record : SubmissionRecord)
    (isNormal : record.payload.IsNormal) (integers : record.payload.HasOnlyIntegers) :
    (record.createdAt ≤ record.updatedAt → ∃ id after,
      let row : SubmissionRow :=
        ⟨id, record.formId, record.payload, record.status, record.createdAt, record.updatedAt⟩
      store.insert record = (.ok row, after) ∧ store.get? id = .ok none ∧
      (record.payload.depth ≤ Json.nestingLimit →
        ∀ later, after.ReachBeside id later → later.get? id = .ok (some row)) ∧
      (Json.nestingLimit < record.payload.depth → ∀ later, after.Reach later →
        later.get? id = .error (.payloadNotJson record.payload.compact) ∧
        ∀ status limit offset, offset < 0x8000000000000000 →
          (∃ table, later.table = some table ∧ ∃ row ∈ page table status limit offset, row.id = id) →
          ∃ text, later.list status limit offset = .error (.payloadNotJson text))) ∧
    (record.updatedAt < record.createdAt → store.insert record = (.error .updatedBeforeCreated, store)) := by
  refine ⟨fun ordered => ?_, insert_of_unordered⟩
  obtain ⟨table, present, sound⟩ := reach.sound
  have has := hasRow_insert present sound ordered
  have inserted := insert_of_table present ordered
  refine ⟨_, _, inserted, get?_next present sound, fun shallow later beside => ?_, fun deep later reached => ?_⟩
  · rw [inserted] at has
    have read := (StoredRow.read_ofRecord_iff ↑(table.lastId + 1) isNormal).mpr ⟨shallow, integers.doublesReadBack⟩
    have found := (has.reachBeside beside).get?_eq
    rw [read] at found
    exact found
  · rw [inserted] at has
    obtain ⟨kept, hasKept, keeps⟩ := has.reach reached
    have holds : kept.Holds record.payload := ⟨isNormal, keeps.payloadText⟩
    have failed := hasKept.unreadable_of_deep holds deep
    rw [keeps.id] at failed
    refine ⟨failed.1, fun status limit offset inRange selects => ?_⟩
    obtain ⟨last, stands, row, onPage, same⟩ := selects
    -- The row under the id is the one that has been kept, as ids are distinct.
    obtain ⟨there, presentThere, soundThere, member⟩ := hasKept
    obtain rfl := Option.some.inj (presentThere.symm.trans stands)
    have equal : row = kept := soundThere.eq_of_id member (mem_of_mem_page onPage) (same.trans keeps.id.symm)
    exact failed.2 status limit offset inRange ⟨there, stands, equal ▸ onPage⟩

/-- The greatest integer beside as many lists as fit into one list with it, 127 in all. -/
def atNestingLimit : SubmissionRecord :=
  ⟨" \n", .array [.number (.integer 0xFFFFFFFFFFFFFFFF (by decide)), .nestedArrays 126], .draft, 3, 3⟩

def beyondNestingLimit : SubmissionRecord := ⟨"", .nestedArrays 128, .synced, -5, -4⟩

/-- Of two rows in one store the one at the limit is read, also after the other one has been changed, and the one beyond
it is not. -/
theorem insert_lifetime_atNestingLimit :
    let first := (Store.empty.insert atNestingLimit).2
    let second := (first.insert beyondNestingLimit).2
    let last := (second.setStatus 2 .draft 9).2
    last.get? 1 = .ok (some ⟨1, " \n", atNestingLimit.payload, .draft, 3, 3⟩) ∧
    last.get? 2 = .error (.payloadNotJson (Json.nestedArrays 128).compact) ∧
    ∃ text, last.list (some .draft) 2 0 = .error (.payloadNotJson text) := by
  intro first second last
  have normal : atNestingLimit.payload.IsNormal := by
    refine Json.isNormal_array_iff.mpr (List.forall_mem_cons.mpr ⟨rfl, fun item member => ?_⟩)
    exact List.mem_singleton.mp member ▸ Json.isNormal_nestedArrays 126
  have integers : atNestingLimit.payload.HasOnlyIntegers := by
    intro n member
    simp only [atNestingLimit, Json.numbers, Json.numbersOfItems, Json.numbers_nestedArrays, List.append_nil,
      List.mem_singleton] at member
    exact ⟨_, _, member⟩
  have shallow : atNestingLimit.payload.depth ≤ Json.nestingLimit := by
    simp only [atNestingLimit, Json.depth, Json.depthOfItems, Json.depth_nestedArrays]
    decide
  have deep : Json.nestingLimit < beyondNestingLimit.payload.depth := by
    rw [beyondNestingLimit, Json.depth_nestedArrays]
    decide
  obtain ⟨id, after, inserted, -, read, -⟩ :=
    (insert_lifetime .start atNestingLimit normal integers).1 (by decide)
  obtain ⟨rfl, rfl⟩ : id = 1 ∧ after = first := by
    cases inserted
    exact ⟨rfl, rfl⟩
  obtain ⟨other, after, insertedOther, -, -, fail⟩ :=
    (insert_lifetime (.insert atNestingLimit .start) beyondNestingLimit (Json.isNormal_nestedArrays 128)
      (fun n member => by simp [beyondNestingLimit, Json.numbers_nestedArrays] at member)).1 (by decide)
  obtain ⟨rfl, rfl⟩ : other = 2 ∧ after = second := by
    cases insertedOther
    exact ⟨rfl, rfl⟩
  have failed := fail deep last (.setStatus 2 .draft 9 .start)
  refine ⟨read shallow last (.setStatus (by decide) .draft 9 (.insert _ .start)), failed.1, ?_⟩
  refine failed.2 (some .draft) 2 0 (by decide) ⟨last.table.getD .empty, rfl, ?_⟩
  have ordered : (last.table.getD .empty).rows.Pairwise fun a b => a.newerFirst b := by
    refine List.pairwise_cons.mpr ⟨fun row member => ?_, List.pairwise_singleton _ _⟩
    exact List.mem_singleton.mp member ▸ rfl
  rw [page, List.mergeSort_of_pairwise ordered]
  exact ⟨_, List.mem_cons_of_mem _ List.mem_cons_self, rfl⟩

end Store

end InspectionForms
