import InspectionForms.Proofs.ListingOrder
import InspectionForms.Proofs.RowLifetime

namespace InspectionForms

namespace StoredRow

/-- What a row is read as, if it can be read at all. -/
def shown (row : StoredRow) : SubmissionRow :=
  ⟨row.id, row.formId, (Json.parse? row.payloadText).getD .null, (Status.ofText? row.statusText).getD .draft,
    row.createdAt, row.updatedAt⟩

variable {row : StoredRow}

theorem read_eq_ok_iff {again : SubmissionRow} : row.read = .ok again ↔ row.read.isOk ∧ again = row.shown := by
  unfold read shown
  cases Status.ofText? row.statusText with
  | none => exact ⟨fun h => (nomatch h), fun h => (nomatch h.1)⟩
  | some status =>
    cases Json.parse? row.payloadText with
    | none => exact ⟨fun h => (nomatch h), fun h => (nomatch h.1)⟩
    | some payload => exact ⟨fun h => ⟨rfl, (Except.ok.inj h).symm⟩, fun h => congrArg Except.ok h.2.symm⟩

/-- Of a row that a store has written by itself the status can always be read. -/
theorem Sound.isOk_read_iff (sound : row.Sound) : row.read.isOk ↔ (Json.parse? row.payloadText).isSome := by
  obtain ⟨status, code⟩ := sound.status
  rw [read, code, Status.ofText?_code]
  cases Json.parse? row.payloadText with
  | none => exact iff_of_false Bool.false_ne_true Bool.false_ne_true
  | some payload => exact iff_of_true rfl rfl

theorem hasStatus_iff {stored : Status} (code : row.statusText = stored.code) {status : Option Status} :
    row.hasStatus status ↔ status = none ∨ status = some stored := by
  rw [hasStatus, code]
  cases status with
  | none => exact ⟨fun _ => .inl rfl, fun _ => rfl⟩
  | some wanted => cases wanted <;> cases stored <;> decide

theorem Sound.hasStatus_iff (sound : row.Sound) {status : Option Status} :
    row.hasStatus status ↔ status = none ∨ status = some row.shown.status := by
  obtain ⟨stored, code⟩ := sound.status
  have same : row.shown.status = stored := by
    rw [shown, code, Status.ofText?_code]
    rfl
  rw [same]
  exact StoredRow.hasStatus_iff code

end StoredRow

theorem mapM_read {rows : List StoredRow} (readable : ∀ row ∈ rows, row.read.isOk) :
    rows.mapM StoredRow.read = .ok (rows.map StoredRow.shown) := by
  induction rows with
  | nil => rfl
  | cons row rows ih =>
    obtain ⟨first, others⟩ := List.forall_mem_cons.mp readable
    rw [List.mapM_cons, StoredRow.read_eq_ok_iff.mpr ⟨first, rfl⟩, ih others]
    rfl

theorem mapM_read_eq_ok_iff {rows : List StoredRow} {again : List SubmissionRow} :
    rows.mapM StoredRow.read = .ok again ↔ (∀ row ∈ rows, row.read.isOk) ∧ again = rows.map StoredRow.shown := by
  constructor
  · intro answer
    have readable := isOk_mapM_iff.mp (show (rows.mapM StoredRow.read).isOk by rw [answer]; rfl)
    rw [mapM_read readable] at answer
    exact ⟨readable, (Except.ok.inj answer).symm⟩
  · rintro ⟨readable, rfl⟩
    exact mapM_read readable

namespace Store

/-- The pages that are read one after the other, each behind the one before, until there comes an empty one. -/
inductive Pages (store : Store) (status : Option Status) (limit : Nat) : Nat → List (List SubmissionRow) → Prop
  | last {offset : Nat} : store.list status limit offset = .ok [] → Pages store status limit offset []
  | next {offset : Nat} {page : List SubmissionRow} {rest : List (List SubmissionRow)} :
      store.list status limit offset = .ok page → page ≠ [] → Pages store status limit (offset + limit) rest →
      Pages store status limit offset (page :: rest)

variable {store : Store} {table : SubmissionTable} {status : Option Status} {limit offset : Nat}

theorem list_of_large (large : 0x8000000000000000 ≤ offset) (status : Option Status) (limit : Nat) :
    store.list status limit offset = .error .numericOverflow := by
  rw [list, if_pos large]
  rfl

theorem inRange_of_list {rows : List SubmissionRow} (answer : store.list status limit offset = .ok rows) :
    offset < 0x8000000000000000 := by
  by_contra beyond
  rw [list_of_large (by omega)] at answer
  cases answer

theorem list_eq_ok_iff (present : store.table = some table) (inRange : offset < 0x8000000000000000)
    {rows : List SubmissionRow} : store.list status limit offset = .ok rows ↔
      (∀ row ∈ page table status limit offset, row.read.isOk) ∧
        rows = (page table status limit offset).map StoredRow.shown := by
  rw [list_of_table present status limit inRange, mapM_read_eq_ok_iff]

/-- A page is a piece of the listing, if no limit is above the greatest one. -/
theorem rows_of_list (present : store.table = some table) (atMost : limit ≤ maxPage) {rows : List SubmissionRow}
    (answer : store.list status limit offset = .ok rows) :
    (∀ row ∈ ((table.listing status).drop offset).take limit, row.read.isOk) ∧
    rows = (((table.listing status).drop offset).take limit).map StoredRow.shown := by
  have listed := (list_eq_ok_iff present (inRange_of_list answer)).mp answer
  rwa [SubmissionTable.page_eq, Nat.min_eq_left atMost] at listed

/-- Pages leave nothing out and show nothing twice, and all that they show can be read. -/
theorem Pages.flatten_eq {pages : List (List SubmissionRow)} (read : store.Pages status limit offset pages)
    (present : store.table = some table) (atLeast : 1 ≤ limit) (atMost : limit ≤ maxPage) :
    (∀ row ∈ (table.listing status).drop offset, row.read.isOk) ∧
    pages.flatten = ((table.listing status).drop offset).map StoredRow.shown := by
  induction read with
  | @last offset answer =>
    obtain ⟨-, nothing⟩ := rows_of_list present atMost answer
    have rest : (table.listing status).drop offset = [] := by
      rw [eq_comm, List.map_eq_nil_iff, List.take_eq_nil_iff] at nothing
      exact nothing.resolve_left (by omega)
    rw [rest]
    exact ⟨fun _ member => (nomatch member), rfl⟩
  | @next offset page rest answer _ _ ih =>
    obtain ⟨readable, rfl⟩ := rows_of_list present atMost answer
    obtain ⟨others, flat⟩ := ih
    have split : (table.listing status).drop offset =
        ((table.listing status).drop offset).take limit ++ (table.listing status).drop (offset + limit) := by
      rw [← List.drop_drop, List.take_append_drop]
    refine ⟨?_, ?_⟩
    · rw [split]
      exact List.forall_mem_append.mpr ⟨readable, others⟩
    · rw [List.flatten_cons, flat, ← List.map_append, ← split]

/-- Only the last page can have fewer rows than asked for. -/
theorem Pages.length_eq {pages : List (List SubmissionRow)} (read : store.Pages status limit offset pages)
    (present : store.table = some table) (atMost : limit ≤ maxPage) :
    ∀ page ∈ pages.dropLast, page.length = limit := by
  induction read with
  | last => exact fun _ member => nomatch member
  | @next offset page rest answer _ later ih =>
    cases later with
    | last => exact fun _ member => nomatch member
    | @next _ following _ answerNext nonempty =>
      refine List.forall_mem_cons.mpr ⟨?_, ih⟩
      -- There are rows behind this page, so it is full.
      obtain ⟨-, rfl⟩ := rows_of_list present atMost answer
      obtain ⟨-, rfl⟩ := rows_of_list present atMost answerNext
      have behind : offset + limit < (table.listing status).length := by
        by_contra beyond
        rw [List.drop_eq_nil_of_le (by omega), List.take_nil] at nonempty
        exact nonempty rfl
      rw [List.length_map, List.length_take, List.length_drop]
      omega

/-- The first offset behind all rows is in range. -/
theorem Pages.inRange {pages : List (List SubmissionRow)} (read : store.Pages status limit offset pages)
    (present : store.table = some table) (atLeast : 1 ≤ limit) (atMost : limit ≤ maxPage) :
    (table.listing status).length ≤ offset + pages.length * limit ∧
    offset + pages.length * limit < 0x8000000000000000 := by
  induction read with
  | @last offset answer =>
    obtain ⟨-, nothing⟩ := rows_of_list present atMost answer
    rw [eq_comm, List.map_eq_nil_iff, List.take_eq_nil_iff, List.drop_eq_nil_iff] at nothing
    have behind := nothing.resolve_left (by omega)
    have inRange := inRange_of_list answer
    rw [List.length_nil, Nat.zero_mul]
    exact ⟨behind, inRange⟩
  | @next offset page rest _ _ _ ih =>
    rw [List.length_cons, Nat.succ_mul]
    omega

theorem exists_pages (present : store.table = some table) (readable : ∀ row ∈ table.rows, row.read.isOk)
    (atLeast : 1 ≤ limit) (atMost : limit ≤ maxPage) (k : Nat) (offset : Nat)
    (behind : (table.listing status).length ≤ offset + k * limit)
    (inRange : offset + k * limit < 0x8000000000000000) : ∃ pages, store.Pages status limit offset pages := by
  have answer : store.list status limit offset =
      .ok (((table.listing status).drop offset).take limit |>.map StoredRow.shown) := by
    refine (list_eq_ok_iff present (by omega)).mpr ⟨fun row member => readable row (mem_of_mem_page member), ?_⟩
    rw [SubmissionTable.page_eq, Nat.min_eq_left atMost]
  by_cases nothing : (table.listing status).length ≤ offset
  · rw [List.drop_eq_nil_of_le nothing, List.take_nil] at answer
    exact ⟨[], .last answer⟩
  · cases k with
    | zero => omega
    | succ k =>
      rw [Nat.succ_mul] at behind inRange
      obtain ⟨pages, later⟩ := exists_pages present readable atLeast atMost k (offset + limit) (by omega) (by omega)
      refine ⟨_, .next answer (fun empty => nothing ?_) later⟩
      rw [List.map_eq_nil_iff, List.take_eq_nil_iff, List.drop_eq_nil_iff] at empty
      exact empty.resolve_left (by omega)

theorem isOk_get?_iff (present : store.table = some table) (sound : table.Sound) :
    (∀ id, (store.get? id).isOk) ↔ ∀ row ∈ table.rows, row.read.isOk := by
  constructor
  · intro found row member
    have read := found row.id
    rw [HasRow.get?_eq ⟨table, present, sound, member⟩] at read
    cases answer : row.read with
    | ok again => rfl
    | error cause =>
      rw [answer] at read
      cases read
  · intro readable id
    rw [get?_of_table present]
    cases found : table.row? id with
    | none => rfl
    | some row =>
      have read := readable row (SubmissionTable.row?_mem found).1
      dsimp only
      rw [StoredRow.read_eq_ok_iff.mpr ⟨read, rfl⟩]
      rfl

/-- The rows that are shown are those that can be read by their ids. -/
theorem mem_shown_iff (present : store.table = some table) (sound : table.Sound)
    (readable : ∀ row ∈ table.rows, row.read.isOk) {row : SubmissionRow} :
    row ∈ (table.listing status).map StoredRow.shown ↔
      store.get? row.id = .ok (some row) ∧ (status = none ∨ status = some row.status) := by
  rw [List.mem_map]
  constructor
  · rintro ⟨stored, listed, rfl⟩
    obtain ⟨member, matched⟩ := SubmissionTable.mem_listing.mp listed
    refine ⟨?_, (sound.rows member).hasStatus_iff.mp matched⟩
    have found : store.get? stored.id = stored.read.map some := HasRow.get?_eq ⟨table, present, sound, member⟩
    rw [StoredRow.read_eq_ok_iff.mpr ⟨readable stored member, rfl⟩] at found
    exact found
  · rintro ⟨found, matched⟩
    rw [get?_of_table present] at found
    cases atId : table.row? row.id with
    | none =>
      rw [atId] at found
      cases found
    | some stored =>
      rw [atId, map_some_eq_ok_iff, StoredRow.read_eq_ok_iff] at found
      obtain ⟨-, rfl⟩ := found
      have member := (SubmissionTable.row?_mem atId).1
      exact ⟨stored, SubmissionTable.mem_listing.mpr ⟨member, (sound.rows member).hasStatus_iff.mpr matched⟩, rfl⟩

/-- After an insertion the listing shows one more row, if that has the status asked for, and no other change. -/
theorem Pages.flatten_insert {record : SubmissionRecord} {pages : List (List SubmissionRow)}
    (read : (store.insert record).2.Pages status limit 0 pages) (present : store.table = some table)
    (sound : table.Sound) (atLeast : 1 ≤ limit) (atMost : limit ≤ maxPage) :
    match (store.insert record).1 with
    | .error _ => pages.flatten = (table.listing status).map StoredRow.shown
    | .ok inserted =>
      if status = none ∨ status = some record.status then
        ∃ newer row older, (table.listing status).map StoredRow.shown = newer ++ older ∧
          (store.insert record).2.get? inserted.id = .ok (some row) ∧ pages.flatten = newer ++ row :: older
      else pages.flatten = (table.listing status).map StoredRow.shown := by
  by_cases ordered : record.createdAt ≤ record.updatedAt
  · have added := hasRow_insert present sound ordered
    rw [insert_of_table present ordered] at read added ⊢
    obtain ⟨newer, older, before, after⟩ := sound.listing_push ordered status
    obtain ⟨readable, flat⟩ := read.flatten_eq rfl atLeast atMost
    rw [List.drop_zero, after] at readable flat
    have wanted : (StoredRow.ofRecord ↑(table.lastId + 1) record).hasStatus status ↔
        status = none ∨ status = some record.status := StoredRow.hasStatus_iff rfl
    by_cases matched : status = none ∨ status = some record.status
    · rw [if_pos (wanted.mpr matched)] at readable flat
      rw [before]
      dsimp only
      rw [if_pos matched]
      have shown := readable _ (List.mem_append_left older (List.mem_append_right newer (List.mem_singleton_self _)))
      have found := added.get?_eq
      rw [StoredRow.read_eq_ok_iff.mpr ⟨shown, rfl⟩] at found
      refine ⟨newer.map StoredRow.shown, _, older.map StoredRow.shown, List.map_append, found, ?_⟩
      rw [flat, List.map_append, List.map_append, List.append_assoc]
      rfl
    · rw [if_neg (mt wanted.mp matched), List.append_nil] at flat
      rw [before]
      dsimp only
      rw [if_neg matched]
      exact flat
  · rw [insert_of_unordered (by omega)] at read ⊢
    exact (read.flatten_eq present atLeast atMost).2

/-- What a change of status leaves of the table: all rows are where they were and can be read as before. -/
theorem table_setStatus (present : store.table = some table) (sound : table.Sound) (id : Int) (newStatus : Status)
    (updatedAt : Int) : ∃ later, (store.setStatus id newStatus updatedAt).2.table = some later ∧ later.Sound ∧
      (later.listing none).map StoredRow.id = (table.listing none).map StoredRow.id ∧
      ((∀ row ∈ table.rows, row.read.isOk) → ∀ row ∈ later.rows, row.read.isOk) := by
  rcases setStatus_cases present id newStatus updatedAt with same | ⟨⟨found, atId, inTime⟩, changed⟩
  · exact ⟨table, by rw [same, present], sound, rfl, fun readable => readable⟩
  · have restated : (table.restate id newStatus updatedAt).Sound := sound.step (.restate atId inTime)
    refine ⟨_, by rw [changed], restated, ?_, fun readable row member => ?_⟩
    · rw [SubmissionTable.listing_restate, List.map_map]
      exact List.map_congr_left fun row _ => (StoredRow.keeps_restate id newStatus updatedAt row).id
    · obtain ⟨old, oldMember, rfl⟩ := List.mem_map.mp member
      have text := (StoredRow.keeps_restate id newStatus updatedAt old).payloadText
      rw [(restated.rows member).isOk_read_iff, text, ← (sound.rows oldMember).isOk_read_iff]
      exact readable old oldMember

/-- Paging through a store of which every row can be read. The pages show each row with the status asked for once, the
latest creation first, and only the last one may be short. They come to an end if some offset behind all rows is in
range. No limit shows more than the greatest one, and an insertion or a change of status moves no other row. -/
theorem paging (reach : Store.empty.Reach store) (readable : ∀ id, (store.get? id).isOk) (status : Option Status)
    (atLeast : 1 ≤ limit) (atMost : limit ≤ maxPage) :
    ∃ full : List SubmissionRow,
      (full.Pairwise fun a b => b.createdAt < a.createdAt ∨ a.createdAt = b.createdAt ∧ b.id < a.id) ∧
      (∀ row, row ∈ full ↔ store.get? row.id = .ok (some row) ∧ (status = none ∨ status = some row.status)) ∧
      ((∃ pages, store.Pages status limit 0 pages) ↔
        ∃ k, full.length ≤ k * limit ∧ k * limit < 0x8000000000000000) ∧
      (∀ pages, store.Pages status limit 0 pages →
        pages.flatten = full ∧ ∀ page ∈ pages.dropLast, page.length = limit) ∧
      (∀ offset, offset < 0x8000000000000000 → store.list status 0 offset = .ok [] ∧
        ∀ more, maxPage < more → store.list status more offset = store.list status maxPage offset) ∧
      (∀ offset, 0x8000000000000000 ≤ offset → ∀ any, store.list status any offset = .error .numericOverflow) ∧
      (∀ record pages, (store.insert record).2.Pages status limit 0 pages →
        match (store.insert record).1 with
        | .error _ => pages.flatten = full
        | .ok inserted =>
          if status = none ∨ status = some record.status then
            ∃ newer row older, full = newer ++ older ∧
              (store.insert record).2.get? inserted.id = .ok (some row) ∧ pages.flatten = newer ++ row :: older
          else pages.flatten = full) ∧
      ∀ id newStatus updatedAt, let after := (store.setStatus id newStatus updatedAt).2
        (∀ other, (after.get? other).isOk) ∧
        ∀ before pages, store.Pages none limit 0 before → after.Pages none limit 0 pages →
          pages.flatten.map SubmissionRow.id = before.flatten.map SubmissionRow.id := by
  obtain ⟨table, present, sound⟩ := reach.sound
  have rowsRead := (isOk_get?_iff present sound).mp readable
  refine ⟨(table.listing status).map StoredRow.shown, ?ordered, fun row => mem_shown_iff present sound rowsRead, ?ends,
    fun pages read => ?pages, fun offset inRange => ⟨?nothing, fun more above => ?capped⟩,
    fun offset large any => list_of_large large status any,
    fun record pages read => read.flatten_insert present sound atLeast atMost, fun id newStatus updatedAt => ?changed⟩
  case ordered => exact List.pairwise_map.mpr (sound.pairwise_listing status)
  case ends =>
    rw [List.length_map]
    constructor
    · rintro ⟨pages, read⟩
      obtain ⟨behind, inRange⟩ := read.inRange present atLeast atMost
      rw [Nat.zero_add] at behind inRange
      exact ⟨pages.length, behind, inRange⟩
    · rintro ⟨k, behind, inRange⟩
      exact exists_pages present rowsRead atLeast atMost k 0 (by omega) (by omega)
  case pages =>
    have flat := (read.flatten_eq present atLeast atMost).2
    exact ⟨flat, read.length_eq present atMost⟩
  case nothing =>
    rw [list_of_table present status 0 inRange, SubmissionTable.page_eq, Nat.zero_min, List.take_zero]
    rfl
  case capped =>
    have same : min more maxPage = min maxPage maxPage := by omega
    rw [list_of_table present status more inRange, list_of_table present status maxPage inRange,
      SubmissionTable.page_eq, SubmissionTable.page_eq, same]
  case changed =>
    obtain ⟨later, stands, soundLater, ids, kept⟩ := table_setStatus present sound id newStatus updatedAt
    refine ⟨(isOk_get?_iff stands soundLater).mpr (kept rowsRead), fun before pages readBefore read => ?_⟩
    rw [(read.flatten_eq stands atLeast atMost).2, (readBefore.flatten_eq present atLeast atMost).2, List.drop_zero,
      List.drop_zero, List.map_map, List.map_map]
    exact ids

/-- Two rows with one time of creation around an older one. -/
def twinTimes : Store :=
  (((Store.empty.insert ⟨"F", .null, .draft, 5, 5⟩).2.insert ⟨"F", .null, .synced, -7, -7⟩).2.insert
    ⟨"G", .null, .pendingSync, 5, 6⟩).2

/-- In pages of two rows the second page shows the row that is left. -/
theorem paging_twinTimes :
    Store.empty.Reach twinTimes ∧ (∀ id, (twinTimes.get? id).isOk) ∧
    ∃ pages, twinTimes.Pages none 2 0 pages ∧ pages.flatten.map SubmissionRow.id = [3, 1, 2] ∧
      (∀ page ∈ pages.dropLast, page.length = 2) ∧ twinTimes.list none 501 1 = twinTimes.list none 500 1 := by
  have reach : Store.empty.Reach twinTimes := .insert _ (.insert _ (.insert _ .start))
  obtain ⟨table, present, sound⟩ := reach.sound
  let a : StoredRow := .ofRecord 1 ⟨"F", .null, .draft, 5, 5⟩
  let b : StoredRow := .ofRecord 2 ⟨"F", .null, .synced, -7, -7⟩
  let c : StoredRow := .ofRecord 3 ⟨"G", .null, .pendingSync, 5, 6⟩
  have rows : table.rows = [a, b, c] := congrArg SubmissionTable.rows (Option.some.inj present).symm
  have rowsRead : ∀ row ∈ table.rows, row.read.isOk := by
    have read (id : Int) {record : SubmissionRecord} (text : record.payload = .null) :
        (StoredRow.ofRecord id record).read.isOk :=
      (StoredRow.isOk_read_iff rfl (rfl : Json.null.IsNormal) (congrArg Json.compact text)).mpr
        ⟨by decide, fun d member => nomatch member⟩
    rw [rows]
    simp only [List.forall_mem_cons]
    exact ⟨read 1 rfl, read 2 rfl, read 3 rfl, fun row member => nomatch member⟩
  have readable := (isOk_get?_iff present sound).mpr rowsRead
  have listed : (table.listing none).map StoredRow.id = [3, 1, 2] := by
    have distinct := sound.nodup_ids
    have perm : [a, b, c].Perm [c, a, b] := List.perm_append_singleton c [a, b]
    have sorted : [c, a, b].Pairwise fun x y => x.newerFirst y := by decide
    rw [rows] at distinct
    rw [SubmissionTable.listing_none, rows, SubmissionTable.mergeSort_eq_of_perm perm distinct,
      List.mergeSort_of_pairwise sorted]
    rfl
  have size : (table.listing none).length = 3 := (List.length_map _).symm.trans (congrArg List.length listed)
  obtain ⟨full, -, -, -, pagesOf, limits, -⟩ := paging reach readable none (by decide : 1 ≤ 2) (by decide)
  obtain ⟨pages, read⟩ : ∃ pages, twinTimes.Pages none 2 0 pages :=
    exists_pages present rowsRead (by decide) (by decide) 2 0 (by omega) (by decide)
  have flat := (read.flatten_eq present (by decide) (by decide)).2
  refine ⟨reach, readable, pages, read, ?_, (pagesOf pages read).2, (limits 1 (by decide)).2 501 (by decide)⟩
  rw [flat, List.drop_zero, List.map_map]
  exact listed

end Store

end InspectionForms
