import InspectionForms.Proofs.TableSteps

namespace InspectionForms

namespace StoredRow

/-- The strict order of listings: the later creation comes first, and of equal ones the greater id. -/
def ListsBefore (a b : StoredRow) : Prop := b.createdAt < a.createdAt ∨ a.createdAt = b.createdAt ∧ b.id < a.id

variable {a b : StoredRow}

theorem newerFirst_iff : a.newerFirst b ↔ b.createdAt < a.createdAt ∨ a.createdAt = b.createdAt ∧ b.id ≤ a.id := by
  simp only [newerFirst, Bool.or_eq_true, Bool.and_eq_true, decide_eq_true_eq, beq_iff_eq]

theorem newerFirst_trans (a b c : StoredRow) (first : a.newerFirst b) (second : b.newerFirst c) :
    a.newerFirst c := by
  rw [newerFirst_iff] at *
  omega

theorem newerFirst_total (a b : StoredRow) : a.newerFirst b || b.newerFirst a := by
  rw [Bool.or_eq_true, newerFirst_iff, newerFirst_iff]
  omega

theorem newerFirst_restate (id : Int) (status : Status) (updatedAt : Int) (a b : StoredRow) :
    (a.restate id status updatedAt).newerFirst (b.restate id status updatedAt) = a.newerFirst b := by
  have ofA := keeps_restate id status updatedAt a
  have ofB := keeps_restate id status updatedAt b
  rw [newerFirst, newerFirst, ofA.id, ofA.createdAt, ofB.id, ofB.createdAt]

theorem ListsBefore.of_newerFirst (first : a.newerFirst b) (distinct : a.id ≠ b.id) : a.ListsBefore b := by
  rw [newerFirst_iff] at first
  unfold ListsBefore
  omega

theorem ListsBefore.asymm (first : a.ListsBefore b) : ¬ b.ListsBefore a := by
  unfold ListsBefore at *
  omega

end StoredRow

namespace SubmissionTable

/-- All rows of a table with a status, in the order of listings. -/
def listing (table : SubmissionTable) (status : Option Status) : List StoredRow :=
  (table.rows.mergeSort StoredRow.newerFirst).filter (StoredRow.hasStatus status)

variable {table : SubmissionTable} {status : Option Status} {row : StoredRow}

theorem page_eq (limit offset : Nat) :
    Store.page table status limit offset = ((table.listing status).drop offset).take (min limit Store.maxPage) := rfl

theorem mem_listing : row ∈ table.listing status ↔ row ∈ table.rows ∧ row.hasStatus status := by
  rw [listing, List.mem_filter, List.mem_mergeSort]

theorem listing_none : table.listing none = table.rows.mergeSort StoredRow.newerFirst :=
  List.filter_eq_self.mpr fun _ _ => rfl

/-- With distinct ids no two rows stand in the same place. -/
theorem pairwise_listsBefore {rows : List StoredRow} (distinct : (rows.map StoredRow.id).Nodup) :
    (rows.mergeSort StoredRow.newerFirst).Pairwise StoredRow.ListsBefore := by
  have sorted := List.pairwise_mergeSort StoredRow.newerFirst_trans StoredRow.newerFirst_total rows
  have same := ((List.mergeSort_perm rows StoredRow.newerFirst).map StoredRow.id).nodup_iff
  have apart := List.pairwise_map.mp (same.mpr distinct)
  exact (sorted.and apart).imp fun ⟨first, differ⟩ => .of_newerFirst first differ

/-- The order of listings does not depend on where the rows stand in the table. -/
theorem mergeSort_eq_of_perm {rows others : List StoredRow} (perm : rows.Perm others)
    (distinct : (rows.map StoredRow.id).Nodup) :
    rows.mergeSort StoredRow.newerFirst = others.mergeSort StoredRow.newerFirst := by
  have sorted := pairwise_listsBefore distinct
  have sortedOthers := pairwise_listsBefore ((perm.map StoredRow.id).nodup_iff.mp distinct)
  refine List.Perm.eq_of_pairwise (fun a b _ _ first second => absurd second first.asymm) sorted sortedOthers ?_
  exact (List.mergeSort_perm _ _).trans (perm.trans (List.mergeSort_perm _ _).symm)

theorem Sound.pairwise_listing (sound : table.Sound) (status : Option Status) :
    (table.listing status).Pairwise StoredRow.ListsBefore :=
  (pairwise_listsBefore sound.nodup_ids).filter _

/-- A further row goes between two others, and all others stay as they are. -/
theorem Sound.listing_push (sound : table.Sound) {record : SubmissionRecord}
    (ordered : record.createdAt ≤ record.updatedAt) (status : Option Status) :
    let row := StoredRow.ofRecord ↑(table.lastId + 1) record
    ∃ newer older, table.listing status = newer ++ older ∧
      (table.push record).listing status = newer ++ (if row.hasStatus status then [row] else []) ++ older := by
  intro row
  have perm : (row :: table.rows).Perm (table.rows ++ [row]) := (List.perm_append_singleton row table.rows).symm
  have distinct := (sound.step (.push ordered)).nodup_ids
  obtain ⟨newer, older, withRow, without, -⟩ :=
    List.mergeSort_cons StoredRow.newerFirst_trans StoredRow.newerFirst_total row table.rows
  have pushed : (table.push record).rows.mergeSort StoredRow.newerFirst = newer ++ row :: older := by
    rw [← withRow]
    exact mergeSort_eq_of_perm perm.symm distinct
  refine ⟨newer.filter (StoredRow.hasStatus status), older.filter (StoredRow.hasStatus status), ?_, ?_⟩
  · rw [listing, without, List.filter_append]
  · rw [listing, pushed, List.filter_append, List.filter_cons]
    split <;> simp

/-- A change of status does not move any row. -/
theorem listing_restate (id : Int) (status : Status) (updatedAt : Int) :
    (table.restate id status updatedAt).listing none =
      (table.listing none).map (StoredRow.restate id status updatedAt) := by
  rw [listing_none, listing_none, restate]
  exact (List.map_mergeSort fun a _ b _ => (StoredRow.newerFirst_restate id status updatedAt a b).symm).symm

end SubmissionTable

end InspectionForms
