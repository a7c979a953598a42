import InspectionForms.Proofs.RowReading
import InspectionForms.Proofs.ScriptValues
import InspectionForms.Proofs.SnapshotMembers
import InspectionForms.Proofs.StoreReach
import InspectionForms.Schema.Reader

namespace InspectionForms

/-- The four containers that a snapshot puts around a cell leave room for this depth. -/
def Answers.CellsShallow (answers : Answers) : Prop :=
  ∀ s t r c value, answers.cell? s t r c = some value → value.depth ≤ 123

namespace Session

/-- A new session of some document after a script has been run. -/
def Filled (session : Session) : Prop :=
  ∃ document schema script edits, Schema.ofJson document = .ok schema ∧ Edit.readScript? script = some edits ∧
    session = (Session.new schema).applyEdits edits

variable {session : Session} {store : Store} {table : SubmissionTable}

theorem Filled.isEditing (filled : session.Filled) : session.isEditing := by
  obtain ⟨_, schema, _, edits, _, _, rfl⟩ := filled
  rw [Session.isEditing, phase_applyEdits]
  rfl

theorem Filled.every (filled : session.Filled) : session.answers.Every (Json.Within 125) := by
  obtain ⟨_, schema, _, edits, _, script, rfl⟩ := filled
  exact every_applyEdits (fun edit member => Edit.within_of_readScript? script member) Answers.every_empty

theorem Filled.isNormal_snapshot (filled : session.Filled) : session.answers.snapshot.IsNormal :=
  Answers.isNormal_snapshot fun target value found => (filled.every target value found).isNormal

theorem Filled.depth_snapshot_le_iff (filled : session.Filled) :
    session.answers.snapshot.depth ≤ Json.nestingLimit ↔ session.answers.CellsShallow :=
  Answers.depth_snapshot_le_iff fun s f value found => (filled.every (.field s f) value found).depth_le

theorem submit_add (editing : session.isEditing) (present : store.table = some table) (now : Int) :
    session.submit Store.add store now =
      (.ok ⟨↑(table.lastId + 1), session.schema.formIdOrUnknown⟩,
        { session with phase := .submitted ↑(table.lastId + 1) },
        { store with table := some (table.push (session.pendingRecord now)) }) := by
  rw [submit, if_pos editing, Store.add, Store.insert_of_table present (Int.le_refl now)]
  rfl

end Session

namespace Store

/-- The row with this id has come into the store when a session was submitted. -/
def Submitted (store : Store) (id : Int) (session : Session) : Prop :=
  ∃ before now next after, Store.empty.Reach before ∧
    session.submit Store.add before now = (.ok ⟨id, session.schema.formIdOrUnknown⟩, next, after) ∧ after.Reach store

/-- A row keeps the snapshot of the session that it has come from. -/
theorem Submitted.payloadText_eq {store : Store} {session : Session} {row : StoredRow} {table : SubmissionTable}
    (submitted : store.Submitted row.id session) (editing : session.isEditing) (present : store.table = some table)
    (member : row ∈ table.rows) : row.payloadText = session.answers.snapshot.compact := by
  obtain ⟨before, now, next, after, reach, done, later⟩ := submitted
  obtain ⟨first, presentFirst, sound⟩ := reach.sound
  rw [Session.submit_add editing presentFirst] at done
  obtain ⟨receipt, _, rfl⟩ : _ ∧ _ ∧ _ := by simpa only [Prod.mk.injEq] using done
  have id : (first.lastId + 1 : Nat) = row.id := congrArg Receipt.submissionId (Except.ok.inj receipt)
  obtain ⟨last, presentLast, reached⟩ := later.tableReach rfl
  obtain rfl : last = table := Option.some.inj (presentLast.symm.trans present)
  -- The row that was added then is still there, and no other one has its id.
  have pushed : first.Step (first.push (session.pendingRecord now)) := .push (Int.le_refl now)
  obtain ⟨kept, inLast, keeps⟩ := reached.kept (List.mem_append_right _ (List.mem_singleton_self _))
  have same : kept = row :=
    ((sound.step pushed).reach reached).eq_of_id member inLast (keeps.id.trans id)
  exact same ▸ keeps.payloadText

theorem mem_of_mem_page {table : SubmissionTable} {status : Option Status} {limit offset : Nat} {row : StoredRow}
    (member : row ∈ page table status limit offset) : row ∈ table.rows := by
  have inFilter := List.mem_of_mem_drop (List.mem_of_mem_take member)
  exact List.mem_mergeSort.mp (List.mem_filter.mp inFilter).1

variable {store : Store} {table : SubmissionTable}

theorem get?_pushed (sound : table.Sound) (versionText : String) {record : SubmissionRecord}
    (ordered : record.createdAt ≤ record.updatedAt) :
    get? ⟨some (table.push record), versionText⟩ ↑(table.lastId + 1) =
      (StoredRow.ofRecord ↑(table.lastId + 1) record).read.map some := by
  rw [get?_of_table rfl, sound.row?_push ordered]

theorem Submitted.isOk_read_iff {session : Session} {row : StoredRow} (submitted : store.Submitted row.id session)
    (filled : session.Filled) (reach : Store.empty.Reach store) (present : store.table = some table)
    (member : row ∈ table.rows) :
    row.read.isOk ↔ session.answers.CellsShallow ∧ session.answers.snapshot.DoublesRead := by
  obtain ⟨status, code⟩ := ((reach.sound_of_table present).rows member).status
  have written := submitted.payloadText_eq filled.isEditing present member
  rw [StoredRow.isOk_read_iff code filled.isNormal_snapshot written, filled.depth_snapshot_le_iff]

/-- A page of submitted rows is read if each of their sessions can be. -/
theorem Reach.isOk_list_iff (reach : Store.empty.Reach store) (present : store.table = some table)
    {status : Option Status} {limit offset : Nat} (inRange : offset < 0x8000000000000000)
    (origins : ∀ row ∈ page table status limit offset, ∃ session, session.Filled ∧ store.Submitted row.id session) :
    (store.list status limit offset).isOk ↔ ∀ row ∈ page table status limit offset, ∀ session,
      session.Filled → store.Submitted row.id session →
        session.answers.CellsShallow ∧ session.answers.snapshot.DoublesRead := by
  rw [list_of_table present status limit inRange, isOk_mapM_iff]
  constructor
  · intro readable row member session filled submitted
    exact (submitted.isOk_read_iff filled reach present (mem_of_mem_page member)).mp (readable row member)
  · intro readable row member
    obtain ⟨session, filled, submitted⟩ := origins row member
    exact (submitted.isOk_read_iff filled reach present (mem_of_mem_page member)).mpr
      (readable row member session filled submitted)

end Store

namespace Session

variable {session : Session} {store : Store}

/-- Every filled session can be submitted. What it has been submitted as is read back exactly if no cell is nested
too deep for the containers around it and its binary64 numbers read as themselves. -/
theorem Filled.get?_submitted (filled : session.Filled) (reach : Store.empty.Reach store) (now : Int) :
    ∃ id after, session.submit Store.add store now =
        (.ok ⟨id, session.schema.formIdOrUnknown⟩, { session with phase := .submitted id }, after) ∧
      (after.get? id =
          .ok (some ⟨id, session.schema.formIdOrUnknown, session.answers.snapshot, .pendingSync, now, now⟩) ↔
        session.answers.CellsShallow ∧ session.answers.snapshot.DoublesReadBack) ∧
      (¬ session.answers.CellsShallow →
        after.get? id = .error (.payloadNotJson session.answers.snapshot.compact)) := by
  obtain ⟨table, present, sound⟩ := reach.sound
  refine ⟨_, _, submit_add filled.isEditing present now, ?_⟩
  have pending : session.pendingRecord now =
      ⟨session.schema.formIdOrUnknown, session.answers.snapshot, .pendingSync, now, now⟩ := rfl
  rw [pending, Store.get?_pushed sound _ (Int.le_refl now), map_some_eq_ok_iff, ← filled.depth_snapshot_le_iff]
  refine ⟨StoredRow.read_ofRecord_iff _ filled.isNormal_snapshot, fun deep => ?_⟩
  rw [StoredRow.read_ofRecord_of_deep _ filled.isNormal_snapshot deep]
  rfl

end Session

/-- As many lists as wanted, each in the other, around null. -/
def Json.nestedArrays : Nat → Json
  | 0 => .null
  | n + 1 => .array [nestedArrays n]

namespace Json

theorem depth_nestedArrays (n : Nat) : (nestedArrays n).depth = n := by
  induction n with
  | zero => rfl
  | succ n ih => simp only [nestedArrays, depth, depthOfItems, ih, Nat.max_zero]

theorem reread?_nestedArrays (n : Nat) : (nestedArrays n).reread? = some (nestedArrays n) := by
  induction n with
  | zero => rfl
  | succ n ih => simp [nestedArrays, reread?, rereadItems?, ih]

theorem isNormal_nestedArrays (n : Nat) : (nestedArrays n).IsNormal := by
  induction n with
  | zero => rfl
  | succ n ih => exact isNormal_array_iff.mpr fun item member => List.mem_singleton.mp member ▸ ih

end Json

/-- A form of one table with one row. -/
def singleRowForm : Json :=
  .object [("sections", .array [.object [("sectionId", .string "T"), ("type", .string "table_group"),
    ("sub_sections", .array [.object [("subSectionId", .string "a"), ("rows", .array [.object []])]])]])]

def singleRowSchema : Schema := ⟨none, none, [⟨"T", "", .tableGroup [⟨"a", "", [], [∅]⟩]⟩]⟩

/-- A script that writes into the cell of column `c` in the row of that form. -/
def nestedCellScript (n : Nat) : List Json :=
  [.array [.string "cell", .string "T", .string "a", .number (.integer 0 (by decide)), .string "c", .nestedArrays n]]

namespace Session

theorem filled_nestedCell {n : Nat} (bound : n ≤ 125) :
    ((Session.new singleRowSchema).applyEdits [.cell "T" "a" 0 "c" (.nestedArrays n)]).Filled := by
  refine ⟨singleRowForm, _, (Json.array (nestedCellScript n)).compact, _, rfl, ?_, rfl⟩
  have shallow : (Json.array (nestedCellScript n)).depth ≤ Json.nestingLimit := by
    have limit : Json.nestingLimit = 127 := rfl
    simp only [nestedCellScript, Json.depth, Json.depthOfItems, Json.depth_nestedArrays]
    omega
  have same : Json.rereadItems? (nestedCellScript n) = some (nestedCellScript n) := by
    simp [nestedCellScript, Json.rereadItems?, Json.reread?, Json.reread?_nestedArrays]
    rfl
  have read : (nestedCellScript n).mapM Edit.ofJson? = some [.cell "T" "a" 0 "c" (Json.nestedArrays n).normal] := rfl
  rw [Edit.readScript?_compact, if_pos shallow, same, ← Json.isNormal_nestedArrays n]
  exact read

variable {session : Session} {store : Store}

/-- Submitting a filled session always succeeds, but reading back is another matter: its row is read as it was
submitted exactly if no cell is nested deeper than 123 and the binary64 numbers read as themselves, and a page of such
rows is read exactly if every one of them can be. -/
theorem submitted_readBack_iff (filled : session.Filled) (reach : Store.empty.Reach store) (now : Int) :
    (∃ id after, session.submit Store.add store now =
        (.ok ⟨id, session.schema.formIdOrUnknown⟩, { session with phase := .submitted id }, after) ∧
      (after.get? id =
          .ok (some ⟨id, session.schema.formIdOrUnknown, session.answers.snapshot, .pendingSync, now, now⟩) ↔
        session.answers.CellsShallow ∧ session.answers.snapshot.DoublesReadBack) ∧
      (¬ session.answers.CellsShallow →
        after.get? id = .error (.payloadNotJson session.answers.snapshot.compact))) ∧
    ∀ table, store.table = some table → ∀ status limit offset, offset < 0x8000000000000000 →
      (∀ row ∈ Store.page table status limit offset, ∃ other, other.Filled ∧ store.Submitted row.id other) →
      ((store.list status limit offset).isOk ↔ ∀ row ∈ Store.page table status limit offset, ∀ other,
        other.Filled → store.Submitted row.id other →
          other.answers.CellsShallow ∧ other.answers.snapshot.DoublesRead) :=
  ⟨filled.get?_submitted reach now,
    fun _ present _ _ _ inRange origins => reach.isOk_list_iff present inRange origins⟩

/-- A cell of depth 124 is taken from a script and submitted, and cannot be read back any more. -/
theorem submitted_readBack_nestedCell :
    ∃ session : Session, session.Filled ∧ Store.empty.Reach .empty ∧
      session.answers.cell? "T" "a" 0 "c" = some (.nestedArrays 124) ∧
      ∃ id after, session.submit Store.add .empty 5 =
          (.ok ⟨id, "unknown"⟩, { session with phase := .submitted id }, after) ∧
        after.get? id = .error (.payloadNotJson session.answers.snapshot.compact) := by
  have filled := filled_nestedCell (n := 124) (by decide)
  obtain ⟨id, after, done, _, deep⟩ := (submitted_readBack_iff filled .start 5).1
  refine ⟨_, filled, .start, rfl, id, after, done, deep fun shallow => ?_⟩
  have bound := shallow "T" "a" 0 "c" (.nestedArrays 124) rfl
  rw [Json.depth_nestedArrays] at bound
  omega

end Session

end InspectionForms
