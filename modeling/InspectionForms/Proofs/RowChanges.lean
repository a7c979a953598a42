import InspectionForms.Proofs.RowLifetime

namespace InspectionForms

theorem Status.code_inj {a b : Status} (same : a.code = b.code) : a = b := by
  have read := congrArg Status.ofText? same
  rw [ofText?_code, ofText?_code] at read
  exact Option.some.inj read

namespace StoredRow

/-- A row with another status and another time of change. -/
def withStatus (row : StoredRow) (status : Status) (updatedAt : Int) : StoredRow :=
  { row with statusText := status.code, updatedAt }

variable {row : StoredRow}

theorem restate_self (status : Status) (updatedAt : Int) :
    row.restate row.id status updatedAt = row.withStatus status updatedAt :=
  if_pos (beq_self_eq_true row.id)

theorem hasStatus_some {status : Status} : row.hasStatus (some status) ↔ row.statusText = status.code :=
  beq_iff_eq

theorem hasStatus_withStatus {status wanted : Status} {updatedAt : Int} :
    (row.withStatus status updatedAt).hasStatus (some wanted) ↔ status = wanted := by
  rw [hasStatus_some]
  exact ⟨Status.code_inj, congrArg Status.code⟩

/-- A payload that can be read is read under the new status. -/
theorem read_withStatus {payload : Json} (read : Json.parse? row.payloadText = some payload) (status : Status)
    (updatedAt : Int) : (row.withStatus status updatedAt).read =
      .ok ⟨row.id, row.formId, payload, status, row.createdAt, updatedAt⟩ := by
  simp only [StoredRow.read, withStatus, Status.ofText?_code, read]

end StoredRow

namespace SubmissionTable

variable {table : SubmissionTable} {row : StoredRow}

/-- A change of status is made in one place. -/
theorem Sound.restate_eq (sound : table.Sound) (member : row ∈ table.rows) (status : Status) (updatedAt : Int) :
    ∃ before behind, table.rows = before ++ row :: behind ∧
      table.restate row.id status updatedAt =
        { table with rows := before ++ row.withStatus status updatedAt :: behind } := by
  obtain ⟨before, behind, split, ofBefore, ofBehind⟩ := exists_append_of_nodup_map sound.nodup_ids member
  have unchanged (others : List StoredRow) (elsewhere : ∀ other ∈ others, other.id ≠ row.id) :
      others.map (StoredRow.restate row.id status updatedAt) = others := by
    refine (List.map_congr_left fun other inOthers => ?_).trans (List.map_id others)
    exact StoredRow.restate_of_ne (elsewhere other inOthers) status updatedAt
  refine ⟨before, behind, split, ?_⟩
  rw [restate, split, List.map_append, List.map_cons, unchanged before ofBefore, unchanged behind ofBehind,
    StoredRow.restate_self]

/-- A change of status moves one row from the old to the new one in all counts. -/
theorem countP_withStatus (before behind : List StoredRow) (row : StoredRow) (status counted : Status)
    (updatedAt : Int) :
    (before ++ row.withStatus status updatedAt :: behind).countP (StoredRow.hasStatus (some counted)) +
        (if row.statusText = counted.code then 1 else 0) =
      (before ++ row :: behind).countP (StoredRow.hasStatus (some counted)) +
        if status = counted then 1 else 0 := by
  have leaves : row.hasStatus (some counted) ↔ row.statusText = counted.code := StoredRow.hasStatus_some
  have comes : (row.withStatus status updatedAt).hasStatus (some counted) ↔ status = counted :=
    StoredRow.hasStatus_withStatus
  rw [List.countP_append, List.countP_append, List.countP_cons, List.countP_cons]
  simp only [leaves, comes]
  omega

end SubmissionTable

namespace Store

variable {store : Store} {table : SubmissionTable} {row : StoredRow}

/-- A change of status that comes in time is made in one place of the table and nowhere else. -/
theorem setStatus_of_mem (present : store.table = some table) (sound : table.Sound) (member : row ∈ table.rows)
    {updatedAt : Int} (inTime : row.createdAt ≤ updatedAt) (status : Status) :
    ∃ before behind, table.rows = before ++ row :: behind ∧
      store.setStatus row.id status updatedAt = ((row.withStatus status updatedAt).read,
        { store with table := some { table with rows := before ++ row.withStatus status updatedAt :: behind } }) := by
  obtain ⟨before, behind, split, changed⟩ := sound.restate_eq member status updatedAt
  have found := sound.row?_eq_some_iff.mpr ⟨member, rfl⟩
  refine ⟨before, behind, split, ?_⟩
  rw [setStatus_of_row present found inTime, changed, StoredRow.restate_self]

theorem setStatus_of_early (present : store.table = some table) (sound : table.Sound) (member : row ∈ table.rows)
    {updatedAt : Int} (early : updatedAt < row.createdAt) (status : Status) :
    store.setStatus row.id status updatedAt = (.error .updatedBeforeCreated, store) := by
  rw [setStatus_of_table present, sound.row?_eq_some_iff.mpr ⟨member, rfl⟩]
  exact if_pos early

theorem setStatus_of_unknown (present : store.table = some table) {id : Int}
    (unknown : ∀ row ∈ table.rows, row.id ≠ id) (status : Status) (updatedAt : Int) :
    store.setStatus id status updatedAt = (.error .unknownId, store) := by
  have missing : table.row? id = none := List.find?_eq_none.mpr fun row member => by simpa using unknown row member
  rw [setStatus_of_table present, missing]

theorem count_none_setStatus (present : store.table = some table) (id : Int) (status : Status) (updatedAt : Int) :
    (store.setStatus id status updatedAt).2.count none = store.count none := by
  rcases setStatus_cases present id status updatedAt with same | ⟨-, changed⟩
  · rw [same]
  · rw [changed, count_none_of_table rfl, count_none_of_table present, SubmissionTable.restate, List.length_map]

/-- What stands under an id stays there, but for its status and the time of its last change. -/
theorem Reach.row?_kept {later : Store} (reached : store.Reach later) (present : store.table = some table)
    (sound : table.Sound) (member : row ∈ table.rows) :
    ∃ laterTable kept, later.table = some laterTable ∧ laterTable.row? row.id = some kept ∧ row.Keeps kept := by
  obtain ⟨kept, ⟨laterTable, stands, soundLater, inLater⟩, keeps⟩ :=
    HasRow.reach ⟨table, present, sound, member⟩ reached
  exact ⟨laterTable, kept, stands, soundLater.row?_eq_some_iff.mpr ⟨inLater, keeps.id⟩, keeps⟩

/-- The rows of a store and their changes of status. A row has an id of its own, a status and a time of change that is
not before its creation, and all else of it stays for good. A change of status is refused for an unknown id and for a
time before the creation, and else it changes one row, in these two places, and moves this row in the counts. -/
theorem setStatus_moves_one_row (reach : Store.empty.Reach store) :
    ∃ table, store.table = some table ∧ (table.rows.map StoredRow.id).Nodup ∧
      (∀ row ∈ table.rows, row.createdAt ≤ row.updatedAt ∧ ∃ status : Status, row.statusText = status.code) ∧
      (∀ row ∈ table.rows, ∀ later, store.Reach later →
        ∃ laterTable kept, later.table = some laterTable ∧ laterTable.row? row.id = some kept ∧ row.Keeps kept) ∧
      ∀ id status updatedAt,
        let answer := (store.setStatus id status updatedAt).1
        let after := (store.setStatus id status updatedAt).2
        after.count none = store.count none ∧
        ((∀ row ∈ table.rows, row.id ≠ id) → answer = .error .unknownId ∧ after = store) ∧
        ∀ row ∈ table.rows, row.id = id →
          (updatedAt < row.createdAt → answer = .error .updatedBeforeCreated ∧ after = store) ∧
          (row.createdAt ≤ updatedAt →
            (∃ before behind, table.rows = before ++ row :: behind ∧ after = { store with
              table := some { table with rows := before ++ row.withStatus status updatedAt :: behind } }) ∧
            (∀ payload, Json.parse? row.payloadText = some payload →
              answer = .ok ⟨id, row.formId, payload, status, row.createdAt, updatedAt⟩) ∧
            ∀ counted : Status, ∃ n m, store.count (some counted) = .ok n ∧ after.count (some counted) = .ok m ∧
              m + (if row.statusText = counted.code then 1 else 0) = n + if status = counted then 1 else 0) := by
  obtain ⟨table, present, sound⟩ := reach.sound
  refine ⟨table, present, sound.nodup_ids, fun row member => ?_, fun row member later reached => ?_,
    fun id status updatedAt => ⟨count_none_setStatus present id status updatedAt, fun unknown => ?_, ?_⟩⟩
  · have written := sound.rows member
    exact ⟨written.ordered, written.status⟩
  · exact reached.row?_kept present sound member
  · rw [setStatus_of_unknown present unknown]
    exact ⟨rfl, rfl⟩
  · rintro row member rfl
    refine ⟨fun early => ?_, fun inTime => ?_⟩
    · rw [setStatus_of_early present sound member early]
      exact ⟨rfl, rfl⟩
    · obtain ⟨before, behind, split, changed⟩ := setStatus_of_mem present sound member inTime status
      rw [changed]
      dsimp only
      refine ⟨⟨before, behind, split, rfl⟩, fun payload read => StoredRow.read_withStatus read status updatedAt,
        fun counted => ⟨_, _, count_of_table present _, count_of_table rfl _, ?_⟩⟩
      rw [split]
      exact SubmissionTable.countP_withStatus before behind row status counted updatedAt

/-- Two rows, of which the first has been synced before the store was opened again. -/
def syncedOnce : Store :=
  (((Store.empty.insert ⟨"F", .null, .pendingSync, 5, 5⟩).2.setStatus 1 .synced 8).2.reopen.insert
    ⟨"F", .bool true, .draft, 5, 7⟩).2

/-- The first row goes back to waiting, with an earlier time of change but not with one before its creation. -/
theorem setStatus_moves_one_row_syncedOnce :
    Store.empty.Reach syncedOnce ∧
    (syncedOnce.setStatus 1 .pendingSync 5).1 = .ok ⟨1, "F", .null, .pendingSync, 5, 5⟩ ∧
    (syncedOnce.setStatus 1 .pendingSync 5).2.count (some .synced) = .ok 0 ∧
    (syncedOnce.setStatus 1 .pendingSync 4).2 = syncedOnce ∧
    (syncedOnce.setStatus 3 .pendingSync 9).1 = .error .unknownId := by
  have reach : Store.empty.Reach syncedOnce := .insert _ (.reopen (.setStatus 1 .synced 8 (.insert _ .start)))
  obtain ⟨table, present, -, -, -, changes⟩ := setStatus_moves_one_row reach
  let first : StoredRow := ⟨1, "F", Json.null.compact, Status.synced.code, 5, 8⟩
  let second : StoredRow := .ofRecord 2 ⟨"F", .bool true, .draft, 5, 7⟩
  have rows : table.rows = [first, second] := congrArg SubmissionTable.rows (Option.some.inj present).symm
  have member : first ∈ table.rows := rows ▸ List.mem_cons_self
  have others : ∀ row ∈ table.rows, row.id ≠ 3 := by
    rw [rows]
    simp only [List.forall_mem_cons]
    exact ⟨by decide, by decide, fun row member => nomatch member⟩
  have readable : Json.parse? Json.null.compact = some .null := Json.parse?_compact rfl
  obtain ⟨-, answer, counts⟩ := ((changes 1 .pendingSync 5).2.2 first member rfl).2 (by decide)
  obtain ⟨n, m, before, after, moved⟩ := counts .synced
  obtain rfl : 1 = n := Except.ok.inj before
  obtain rfl : 0 = m := by
    have moved : m + 1 = 1 + 0 := moved
    omega
  have early := ((changes 1 .pendingSync 4).2.2 first member rfl).1 (by decide)
  have unknown := (changes 3 .pendingSync 9).2.1 others
  exact ⟨reach, answer _ readable, after, early.2, unknown.1⟩

end Store

end InspectionForms
