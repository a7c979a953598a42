import InspectionForms.Proofs.Paging
import InspectionForms.Proofs.RowChanges

namespace InspectionForms

namespace SubmissionRow

/-- Each row has one of the three statuses. -/
theorem length_eq_sum_statuses (rows : List SubmissionRow) :
    rows.length = (rows.filter fun row => row.status = .draft).length +
      (rows.filter fun row => row.status = .pendingSync).length +
      (rows.filter fun row => row.status = .synced).length := by
  induction rows with
  | nil => rfl
  | cons row rest ih =>
    simp only [List.filter_cons, List.length_cons]
    cases row.status <;> simp only [reduceCtorEq, decide_true, decide_false, if_true, Bool.false_eq_true, if_false,
      List.length_cons] <;> omega

end SubmissionRow

namespace SubmissionTable

variable {table : SubmissionTable}

/-- A filter keeps the rows that are shown with the status asked for, in their order. A stored text that some other
status could be read from never comes about. -/
theorem Sound.shown_listing (sound : table.Sound) (status : Status) :
    (table.listing (some status)).map StoredRow.shown =
      ((table.listing none).map StoredRow.shown).filter fun row => row.status = status := by
  rw [List.filter_map, listing_none, listing]
  refine congrArg _ (List.filter_congr fun row member => ?_)
  have written := sound.rows (List.mem_mergeSort.mp member)
  have same : row.hasStatus (some status) ↔ row.shown.status = status := by
    rw [written.hasStatus_iff]
    simp [eq_comm]
  exact Bool.eq_iff_iff.mpr (by simpa using same)

theorem length_listing (status : Option Status) :
    (table.listing status).length = table.rows.countP (StoredRow.hasStatus status) := by
  rw [listing, ← List.countP_eq_length_filter, (List.mergeSort_perm _ _).countP_eq]

end SubmissionTable

namespace Store

variable {store : Store} {table : SubmissionTable} {status : Option Status} {limit offset : Nat}

theorem count_eq_length_listing (present : store.table = some table) (status : Option Status) :
    store.count status = .ok ((table.listing status).map StoredRow.shown).length := by
  rw [count_of_table present, List.length_map, SubmissionTable.length_listing]

theorem list_of_readable (present : store.table = some table) (readable : ∀ row ∈ table.rows, row.read.isOk)
    (inRange : offset < 0x8000000000000000) :
    store.list status limit offset =
      .ok ((((table.listing status).map StoredRow.shown).drop offset).take (min limit maxPage)) := by
  rw [list_eq_ok_iff present inRange, SubmissionTable.page_eq, List.map_take, List.map_drop]
  exact ⟨fun row member => readable row (mem_of_mem_page member), rfl⟩

/-- Paging comes to an end before the offsets do, unless there are nearly as many rows as offsets. -/
theorem exists_pages_of_length (present : store.table = some table) (readable : ∀ row ∈ table.rows, row.read.isOk)
    (atLeast : 1 ≤ limit) (atMost : limit ≤ maxPage)
    (room : (table.listing status).length + limit ≤ 0x8000000000000000) :
    ∃ pages, store.Pages status limit 0 pages := by
  obtain ⟨k, behind, near⟩ : ∃ k, (table.listing status).length ≤ k * limit ∧
      k * limit ≤ (table.listing status).length + (limit - 1) := by
    have split := Nat.div_add_mod ((table.listing status).length + (limit - 1)) limit
    have small := Nat.mod_lt ((table.listing status).length + (limit - 1)) (show 0 < limit by omega)
    rw [Nat.mul_comm] at split
    exact ⟨((table.listing status).length + (limit - 1)) / limit, by omega, by omega⟩
  exact exists_pages present readable atLeast atMost k 0 (by omega) (by omega)

/-- Filters, counts and readers agree on statuses in a store of which every row can be read. A filtered listing is what
the whole listing shows with this status, page by page and from the first page to the last, and the counts are the
lengths of these listings. -/
theorem listings_agree_on_status (reach : Store.empty.Reach store) (readable : ∀ id, (store.get? id).isOk) :
    ∃ full : List SubmissionRow,
      let shownWith (status : Status) := full.filter fun row => row.status = status
      (∀ limit offset, offset < 0x8000000000000000 →
        store.list none limit offset = .ok ((full.drop offset).take (min limit maxPage)) ∧
        ∀ status, store.list (some status) limit offset =
          .ok (((shownWith status).drop offset).take (min limit maxPage))) ∧
      (∀ limit, 1 ≤ limit → limit ≤ maxPage →
        (∀ pages, store.Pages none limit 0 pages → pages.flatten = full) ∧
        (∀ status pages, store.Pages (some status) limit 0 pages → pages.flatten = shownWith status) ∧
        (full.length + limit ≤ 0x8000000000000000 → ∀ asked, ∃ pages, store.Pages asked limit 0 pages)) ∧
      (∀ status, store.count (some status) = .ok (shownWith status).length) ∧
      store.count none = .ok full.length ∧
      full.length = (shownWith .draft).length + (shownWith .pendingSync).length + (shownWith .synced).length := by
  obtain ⟨table, present, sound⟩ := reach.sound
  have rowsRead := (isOk_get?_iff present sound).mp readable
  refine ⟨(table.listing none).map StoredRow.shown, fun limit offset inRange => ⟨?_, fun status => ?_⟩,
    fun limit atLeast atMost => ⟨fun pages read => ?_, fun status pages read => ?_, fun room asked => ?_⟩,
    fun status => ?_, count_eq_length_listing present none, SubmissionRow.length_eq_sum_statuses _⟩
  · exact list_of_readable present rowsRead inRange
  · dsimp only
    rw [← sound.shown_listing]
    exact list_of_readable present rowsRead inRange
  · exact (read.flatten_eq present atLeast atMost).2
  · dsimp only
    rw [← sound.shown_listing]
    exact (read.flatten_eq present atLeast atMost).2
  · refine exists_pages_of_length present rowsRead atLeast atMost ?_
    have fewer : (table.listing asked).length ≤ (table.listing none).length := by
      rw [SubmissionTable.length_listing, SubmissionTable.length_listing]
      exact List.countP_mono_left fun _ _ _ => rfl
    rw [List.length_map] at room
    omega
  · dsimp only
    rw [← sound.shown_listing]
    exact count_eq_length_listing present (some status)

/-- Three rows that have come in on three ways: by an insertion, from a session, and by an insertion and a change of
status, after which the store has been opened again. -/
def threeWays : Store :=
  let inserted := (Store.empty.insert ⟨"F", .null, .draft, 5, 5⟩).2
  let submitted := ((Session.new singleRowSchema).submit Store.add inserted 7).2.2
  (((submitted.insert ⟨"G", .null, .draft, 6, 6⟩).2.setStatus 3 .synced 9).2).reopen

/-- The statuses are draft, waiting and synced, and each is found by its filter and its count. -/
theorem listings_agree_on_status_threeWays :
    Store.empty.Reach threeWays ∧ (∀ id, (threeWays.get? id).isOk) ∧
    ∃ full : List SubmissionRow, full.length = 3 ∧ threeWays.count (some .pendingSync) = .ok 1 ∧
      (∀ pages, threeWays.Pages none 2 0 pages → pages.flatten = full) ∧
      ∀ pages, threeWays.Pages (some .synced) 1 0 pages →
        pages.flatten = full.filter fun row => row.status = .synced := by
  have reach : Store.empty.Reach threeWays :=
    .reopen (.setStatus 3 .synced 9 (.insert _ (.submit (.insert _ .start) (Session.new singleRowSchema) 7)))
  obtain ⟨table, present, sound⟩ := reach.sound
  let drafted : StoredRow := .ofRecord 1 ⟨"F", .null, .draft, 5, 5⟩
  let submitted : StoredRow := .ofRecord 2 ((Session.new singleRowSchema).pendingRecord 7)
  let synced : StoredRow := (StoredRow.ofRecord 3 ⟨"G", .null, .draft, 6, 6⟩).withStatus .synced 9
  have rows : table.rows = [drafted, submitted, synced] :=
    congrArg SubmissionTable.rows (Option.some.inj present).symm
  have rowsRead : ∀ row ∈ table.rows, row.read.isOk := by
    have read {row : StoredRow} (status : Status) (code : row.statusText = status.code) {payload : Json}
        (text : row.payloadText = payload.compact) (isNormal : payload.IsNormal) (flat : payload.numbers = [])
        (shallow : payload.depth ≤ Json.nestingLimit) : row.read.isOk :=
      (StoredRow.isOk_read_iff code isNormal text).mpr ⟨shallow, fun d member => by simp [flat] at member⟩
    rw [rows]
    simp only [List.forall_mem_cons]
    exact ⟨read .draft rfl (rfl : _ = Json.null.compact) rfl rfl (by decide),
      read .pendingSync rfl (rfl : _ = (Json.object []).compact) rfl rfl (by decide),
      read .synced rfl (rfl : _ = Json.null.compact) rfl rfl (by decide), fun row member => nomatch member⟩
  have readable := (isOk_get?_iff present sound).mpr rowsRead
  obtain ⟨full, -, pages, counts, all, -⟩ := listings_agree_on_status reach readable
  have size : 3 = full.length := Except.ok.inj all
  exact ⟨reach, readable, full, size.symm, rfl, (pages 2 (by decide) (by decide)).1,
    (pages 1 (by decide) (by decide)).2.1 .synced⟩

end Store

end InspectionForms
