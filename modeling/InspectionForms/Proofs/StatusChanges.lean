import InspectionForms.Proofs.SubmittedRows

namespace InspectionForms

/-- A value can be read where it has been written: it is not nested too deep, and its binary64 numbers are read as
some numbers. -/
def Json.IsReadable (json : Json) : Prop := json.depth ≤ Json.nestingLimit ∧ json.DoublesRead

namespace StoredRow

/-- The payload of a row is the text of a value in normal form. -/
structure Holds (row : StoredRow) (payload : Json) : Prop where
  isNormal : payload.IsNormal
  text : row.payloadText = payload.compact

variable {row : StoredRow} {payload : Json}

theorem Holds.restate (holds : row.Holds payload) (id : Int) (status : Status) (updatedAt : Int) :
    (row.restate id status updatedAt).Holds payload :=
  ⟨holds.isNormal, (keeps_restate id status updatedAt row).payloadText.trans holds.text⟩

theorem Holds.isOk_read_iff (holds : row.Holds payload) {status : Status} (code : row.statusText = status.code) :
    row.read.isOk ↔ payload.IsReadable :=
  StoredRow.isOk_read_iff code holds.isNormal holds.text

theorem Holds.read_of_unreadable (holds : row.Holds payload) {status : Status} (code : row.statusText = status.code)
    (unreadable : ¬ payload.IsReadable) : row.read = .error (.payloadNotJson row.payloadText) := by
  have read := read_of_written row code holds.isNormal holds.text
  cases again : if payload.depth ≤ Json.nestingLimit then payload.reread? else none with
  | none =>
    rw [again] at read
    exact read
  | some json =>
    rw [again] at read
    exact absurd ((holds.isOk_read_iff code).mp (by rw [read]; rfl)) unreadable

theorem statusText_restate {id : Int} (same : row.id = id) (status : Status) (updatedAt : Int) :
    (row.restate id status updatedAt).statusText = status.code := by
  rw [restate, if_pos (beq_iff_eq.mpr same)]

end StoredRow

namespace Store

/-- A store that has been changed by its own operations alone. Payloads are in normal form, as all values that a
session or a reader makes are, and `add` changes a store in the way of `insert`. -/
inductive Untampered : Store → Prop
  | fresh : Untampered .empty
  | insert {store : Store} {record : SubmissionRecord} : record.payload.IsNormal → Untampered store →
      Untampered (store.insert record).2
  | submit {store : Store} {session : Session} (now : Int) : session.Filled → Untampered store →
      Untampered (session.submit Store.add store now).2.2
  | setStatus {store : Store} (id : Int) (status : Status) (updatedAt : Int) : Untampered store →
      Untampered (store.setStatus id status updatedAt).2
  | reopen {store : Store} : Untampered store → Untampered store.reopen

variable {store : Store} {table : SubmissionTable}

theorem submit_eq_insert {session : Session} (editing : session.isEditing) (now : Int) :
    (session.submit Store.add store now).2.2 = (store.insert (session.pendingRecord now)).2 := by
  rw [Session.submit, if_pos editing, add]
  rcases store.insert (session.pendingRecord now) with ⟨_ | _, _⟩ <;> rfl

/-- To submit a session is to insert its record, or to do nothing if it has been submitted before. -/
theorem Reach.submit {first : Store} (reach : first.Reach store) (session : Session) (now : Int) :
    first.Reach (session.submit Store.add store now).2.2 := by
  by_cases editing : session.isEditing
  · rw [submit_eq_insert editing]
    exact .insert _ reach
  · rw [Session.submit, if_neg editing]
    exact reach

theorem setStatus_of_table (present : store.table = some table) (id : Int) (status : Status) (updatedAt : Int) :
    store.setStatus id status updatedAt =
      match table.row? id with
      | none => (.error .unknownId, store)
      | some row =>
        if updatedAt < row.createdAt then (.error .updatedBeforeCreated, store)
        else ((row.restate id status updatedAt).read,
          { store with table := some (table.restate id status updatedAt) }) := by
  unfold setStatus
  rw [present]
  rfl

theorem Untampered.reach (untampered : store.Untampered) : Store.empty.Reach store := by
  induction untampered with
  | fresh => exact .start
  | insert _ _ ih => exact .insert _ ih
  | submit now _ _ ih => exact ih.submit _ now
  | setStatus id status updatedAt _ ih => exact .setStatus id status updatedAt ih
  | reopen _ ih => exact .reopen ih

/-- Each row of a store holds some payload. -/
def Written (store : Store) : Prop :=
  ∀ table, store.table = some table → ∀ row ∈ table.rows, ∃ payload, row.Holds payload

theorem Written.insert (written : store.Written) (present : store.table = some table) {record : SubmissionRecord}
    (isNormal : record.payload.IsNormal) : (store.insert record).2.Written := by
  by_cases ordered : record.createdAt ≤ record.updatedAt
  · rw [insert_of_table present ordered]
    intro later same row member
    obtain rfl := Option.some.inj same
    rcases List.mem_append.mp member with old | new
    · exact written table present row old
    · obtain rfl := List.mem_singleton.mp new
      exact ⟨record.payload, isNormal, rfl⟩
  · rw [insert_of_unordered (by omega)]
    exact written

theorem Written.setStatus (written : store.Written) (present : store.table = some table) (id : Int)
    (status : Status) (updatedAt : Int) : (store.setStatus id status updatedAt).2.Written := by
  rw [setStatus_of_table present]
  split
  · exact written
  · split
    · exact written
    · intro later same row member
      obtain rfl := Option.some.inj same
      obtain ⟨old, oldMember, rfl⟩ := List.mem_map.mp member
      obtain ⟨payload, holds⟩ := written table present old oldMember
      exact ⟨payload, holds.restate id status updatedAt⟩

theorem Untampered.written (untampered : store.Untampered) : store.Written := by
  induction untampered with
  | fresh =>
    intro table same row member
    obtain rfl := Option.some.inj same
    cases member
  | insert isNormal previous ih =>
    obtain ⟨_, present, _⟩ := previous.reach.sound
    exact ih.insert present isNormal
  | submit now filled previous ih =>
    obtain ⟨_, present, _⟩ := previous.reach.sound
    rw [submit_eq_insert filled.isEditing]
    exact ih.insert present filled.isNormal_snapshot
  | setStatus id status updatedAt previous ih =>
    obtain ⟨_, present, _⟩ := previous.reach.sound
    exact ih.setStatus present id status updatedAt
  | reopen previous ih =>
    obtain ⟨_, present, _⟩ := previous.reach.sound
    intro table same
    rw [reopen_table present] at same
    exact ih table (present.trans same)

/-- A row that may take the new time is changed, whether or not it can be read back. -/
theorem setStatus_of_row (present : store.table = some table) {id : Int} {row : StoredRow}
    (found : table.row? id = some row) {updatedAt : Int} (inTime : row.createdAt ≤ updatedAt) (status : Status) :
    store.setStatus id status updatedAt = ((row.restate id status updatedAt).read,
      { store with table := some (table.restate id status updatedAt) }) := by
  rw [setStatus_of_table present, found]
  exact if_neg (by omega)

/-- A row that may take the new time is changed whatever it holds; only the answer depends on what can be read. -/
theorem setStatus_of_holds (present : store.table = some table) {id : Int} {row : StoredRow} {payload : Json}
    (found : table.row? id = some row) {updatedAt : Int} (inTime : row.createdAt ≤ updatedAt)
    (holds : row.Holds payload) (status : Status) :
    (store.setStatus id status updatedAt).2 = { store with table := some (table.restate id status updatedAt) } ∧
    ((store.setStatus id status updatedAt).1.isOk ↔ payload.IsReadable) ∧
    (¬ payload.IsReadable →
      (store.setStatus id status updatedAt).1 = .error (.payloadNotJson row.payloadText)) := by
  have code := StoredRow.statusText_restate (SubmissionTable.row?_mem found).2 status updatedAt
  have kept := holds.restate id status updatedAt
  rw [setStatus_of_row present found inTime]
  dsimp only
  refine ⟨rfl, kept.isOk_read_iff code, fun unreadable => ?_⟩
  rw [kept.read_of_unreadable code unreadable, kept.text, holds.text]

/-- What makes a change of status fail. -/
theorem setStatus_error_cases (untampered : store.Untampered) (present : store.table = some table) {id : Int}
    {status : Status} {updatedAt : Int} {cause : StoreError}
    (failed : (store.setStatus id status updatedAt).1 = .error cause) :
    (store.setStatus id status updatedAt).2 = store ∧ (cause = .unknownId ∧ table.row? id = none ∨
      cause = .updatedBeforeCreated ∧ ∃ row, table.row? id = some row ∧ updatedAt < row.createdAt) ∨
    ∃ row payload, table.row? id = some row ∧ row.createdAt ≤ updatedAt ∧ row.Holds payload ∧
      ¬ payload.IsReadable := by
  cases found : table.row? id with
  | none =>
    rw [setStatus_of_table present, found] at failed ⊢
    exact .inl ⟨rfl, .inl ⟨(Except.error.inj failed).symm, rfl⟩⟩
  | some row =>
    by_cases inTime : row.createdAt ≤ updatedAt
    · -- The change has been made by now, so only reading the row back can have failed.
      obtain ⟨payload, holds⟩ := untampered.written table present row (SubmissionTable.row?_mem found).1
      refine .inr ⟨row, payload, rfl, inTime, holds, fun readable => ?_⟩
      have succeeded := (setStatus_of_holds present found inTime holds status).2.1.mpr readable
      rw [failed] at succeeded
      cases succeeded
    · have refused : store.setStatus id status updatedAt = (.error .updatedBeforeCreated, store) := by
        rw [setStatus_of_table present, found]
        exact if_pos (by omega)
      rw [refused] at failed ⊢
      exact .inl ⟨rfl, .inr ⟨(Except.error.inj failed).symm, row, rfl, by omega⟩⟩

/-- An error of a change of status leaves the store as it was, unless it is about a row that cannot be read back. Such
a row is changed all the same, and its payload is the error. -/
theorem setStatus_unchanged_or_unreadable (untampered : store.Untampered) (id : Int) (status : Status)
    (updatedAt : Int) :
    let answer := (store.setStatus id status updatedAt).1
    let after := (store.setStatus id status updatedAt).2
    ∃ table, store.table = some table ∧
      (∀ cause, answer = .error cause →
        after = store ∧ (cause = .unknownId ∧ table.row? id = none ∨
          cause = .updatedBeforeCreated ∧ ∃ row, table.row? id = some row ∧ updatedAt < row.createdAt) ∨
        ∃ row payload, table.row? id = some row ∧ row.createdAt ≤ updatedAt ∧ row.Holds payload ∧
          ¬ payload.IsReadable) ∧
      ∀ row payload, table.row? id = some row → row.createdAt ≤ updatedAt → row.Holds payload →
        after = { store with table := some (table.restate id status updatedAt) } ∧
        (answer.isOk ↔ payload.IsReadable) ∧
        (¬ payload.IsReadable → answer = .error (.payloadNotJson row.payloadText)) := by
  obtain ⟨table, present, _⟩ := untampered.reach.sound
  exact ⟨table, present, fun _ failed => setStatus_error_cases untampered present failed,
    fun _ _ found inTime holds => setStatus_of_holds present found inTime holds status⟩

/-- A row with a cell of depth 124 becomes a synced one, although the change is answered by an error. -/
theorem setStatus_unchanged_or_unreadable_nestedCell :
    ∃ store : Store, store.Untampered ∧
      (∃ text, (store.setStatus 1 .synced 9).1 = .error (.payloadNotJson text)) ∧
      store.count (some .synced) = .ok 0 ∧ (store.setStatus 1 .synced 9).2.count (some .synced) = .ok 1 := by
  have filled := Session.filled_nestedCell (n := 124) (by decide)
  generalize same : (Session.new singleRowSchema).applyEdits [.cell "T" "a" 0 "c" (.nestedArrays 124)] = session
    at filled
  have deep : ¬ session.answers.snapshot.IsReadable := fun readable => by
    have bound := filled.depth_snapshot_le_iff.mp readable.1 "T" "a" 0 "c" (.nestedArrays 124) (same ▸ rfl)
    rw [Json.depth_nestedArrays] at bound
    omega
  have untampered := Untampered.submit 5 filled .fresh
  rw [Session.submit_add filled.isEditing rfl] at untampered
  refine ⟨_, untampered, ?_⟩
  obtain ⟨table, present, -, accepted⟩ := setStatus_unchanged_or_unreadable untampered 1 .synced 9
  obtain rfl := Option.some.inj present
  obtain ⟨changed, -, failed⟩ := accepted (.ofRecord 1 (session.pendingRecord 5)) session.answers.snapshot rfl
    (show (5 : Int) ≤ 9 by decide) ⟨filled.isNormal_snapshot, rfl⟩
  refine ⟨⟨_, failed deep⟩, rfl, ?_⟩
  rw [changed]
  rfl

end Store

end InspectionForms
