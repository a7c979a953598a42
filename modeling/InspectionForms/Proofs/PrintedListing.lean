import InspectionForms.CommandLine.Run
import InspectionForms.Proofs.StatusListing

namespace InspectionForms

/-- A text without the characters that end columns and lines. -/
def IsPlain (cs : List Char) : Prop := '\t' ∉ cs ∧ '\n' ∉ cs

instance (cs : List Char) : Decidable (IsPlain cs) := inferInstanceAs (Decidable (_ ∧ _))

section Plain

variable {cs ds : List Char} {c : Char}

theorem isPlain_nil : IsPlain [] := ⟨List.not_mem_nil, List.not_mem_nil⟩

theorem isPlain_cons_iff : IsPlain (c :: cs) ↔ (c ≠ '\t' ∧ c ≠ '\n') ∧ IsPlain cs := by
  simp only [IsPlain, List.mem_cons, not_or, ne_eq, eq_comm]
  tauto

theorem isPlain_append_iff : IsPlain (cs ++ ds) ↔ IsPlain cs ∧ IsPlain ds := by
  simp only [IsPlain, List.mem_append, not_or]
  tauto

theorem isPlain_of_isDigit (h : ∀ c ∈ cs, c.isDigit) : IsPlain cs :=
  ⟨fun member => absurd (h _ member) (by decide), fun member => absurd (h _ member) (by decide)⟩

theorem isPlain_paddedDigits (width n : Nat) : IsPlain (paddedDigits width n) :=
  isPlain_of_isDigit fun _ => isDigit_of_mem_paddedDigits

theorem isPlain_intText (i : Int) : IsPlain (intText i).toList := by
  have digits : IsPlain (decimalDigits i.natAbs) := isPlain_of_isDigit fun _ => isDigit_of_mem_decimalDigits
  rw [intText, String.toList_ofList, intDigits]
  split
  · exact isPlain_cons_iff.mpr ⟨by decide, digits⟩
  · exact digits

theorem isPlain_timeOfDayText (ns : Nat) : IsPlain (timeOfDayText ns) := by
  have fraction : IsPlain ((paddedDigits 9 (ns % 1000000000)).reverse.dropWhile (· == '0')).reverse := by
    refine isPlain_of_isDigit fun c member => ?_
    have inside := (List.dropWhile_sublist _).mem (List.mem_reverse.mp member)
    exact isDigit_of_mem_paddedDigits (List.mem_reverse.mp inside)
  simp only [timeOfDayText, isPlain_append_iff, isPlain_cons_iff, isPlain_paddedDigits, true_and, and_true]
  refine ⟨⟨by decide, by decide⟩, ?_⟩
  split
  · exact isPlain_nil
  · exact isPlain_cons_iff.mpr ⟨by decide, fraction⟩

theorem isPlain_timestampText (ms : Int) : IsPlain (timestampText ms).toList := by
  rw [timestampText]
  split
  · simp only [String.toList_ofList, Date.text, isPlain_append_iff, isPlain_cons_iff, isPlain_paddedDigits,
      isPlain_timeOfDayText, isPlain_nil, true_and, and_true]
    decide
  · decide

theorem isPlain_label (status : Status) : IsPlain status.label.toList := by cases status <;> decide

end Plain

/-- A list has one piece more than separators. -/
theorem length_splitOn {α : Type} [BEq α] [LawfulBEq α] (separator : α) (xs : List α) :
    (xs.splitOn separator).length = xs.count separator + 1 := by
  induction xs with
  | nil => rfl
  | cons x xs ih =>
    rw [List.splitOn_cons_eq_if_modifyHead, List.count_cons]
    split
    · rw [List.length_cons, ih]
    · rw [List.length_modifyHead, ih]

/-- The lines of a text that have come to an end, each split into its columns. -/
def readListing (text : String) : List (List String) :=
  (text.toList.splitOn '\n').dropLast.map fun line => (line.splitOn '\t').map String.ofList

namespace SubmissionRow

/-- What is printed of a row. -/
def columns (row : SubmissionRow) : List String :=
  [intText row.id, row.formId, row.status.label, timestampText row.createdAt, timestampText row.updatedAt]

/-- The line of a row without its end. -/
def line (row : SubmissionRow) : List Char := ['\t'].intercalate (row.columns.map String.toList)

/-- What is printed of rows, one after the other. -/
def listing (rows : List SubmissionRow) : String := String.join (rows.map listingLine)

variable {row : SubmissionRow} {rows : List SubmissionRow}

theorem toList_listing_cons (row : SubmissionRow) (rows : List SubmissionRow) :
    (listing (row :: rows)).toList = row.line ++ '\n' :: (listing rows).toList := by
  simp [listing, String.toList_join, listingLine, line, columns]

/-- All columns but the form id are plain whatever the row. -/
theorem isPlain_columns (plain : IsPlain row.formId.toList) {column : String} (member : column ∈ row.columns) :
    IsPlain column.toList := by
  simp only [columns, List.mem_cons, List.not_mem_nil, or_false] at member
  rcases member with rfl | rfl | rfl | rfl | rfl
  · exact isPlain_intText _
  · exact plain
  · exact isPlain_label _
  · exact isPlain_timestampText _
  · exact isPlain_timestampText _

theorem count_line (row : SubmissionRow) :
    row.line.count '\t' = row.formId.toList.count '\t' + 4 ∧ row.line.count '\n' = row.formId.toList.count '\n' := by
  have id := isPlain_intText row.id
  have label := isPlain_label row.status
  have created := isPlain_timestampText row.createdAt
  have updated := isPlain_timestampText row.updatedAt
  simp only [IsPlain, ← List.count_eq_zero] at id label created updated
  simp only [line, columns, List.map_cons, List.map_nil, List.intercalate_cons_cons, List.intercalate_singleton,
    List.count_append, List.count_cons, List.count_nil, id, label, created, updated]
  constructor
  · simp only [beq_self_eq_true, if_true]
    omega
  · simp

/-- There is a line for each row, and one more for each end of a line in a form id. -/
theorem length_readListing (rows : List SubmissionRow) :
    (readListing (listing rows)).length =
      rows.length + (rows.flatMap fun row => row.formId.toList).count '\n' := by
  have count : (listing rows).toList.count '\n' =
      rows.length + (rows.flatMap fun row => row.formId.toList).count '\n' := by
    induction rows with
    | nil => rfl
    | cons row rows ih =>
      rw [toList_listing_cons, List.count_append, List.count_cons, ih, row.count_line.2, List.flatMap_cons,
        List.count_append, List.length_cons]
      simp only [beq_self_eq_true, if_true]
      omega
  rw [readListing, List.length_map, List.length_dropLast, length_splitOn, count]
  rfl

theorem readListing_of_no_newline (h : ∀ row ∈ rows, '\n' ∉ row.formId.toList) :
    readListing (listing rows) = rows.map fun row => (row.line.splitOn '\t').map String.ofList := by
  induction rows with
  | nil => rfl
  | cons row rows ih =>
    rw [List.forall_mem_cons] at h
    have noEnd : '\n' ∉ row.line := by
      rw [← List.count_eq_zero, row.count_line.2, List.count_eq_zero]
      exact h.1
    rw [List.map_cons, ← ih h.2, readListing, toList_listing_cons,
      List.splitOn_append_cons_self_of_not_mem noEnd, List.dropLast_cons_of_ne_nil (List.splitOn_ne_nil _ _)]
    rfl

/-- A listing is read back exactly if no form id holds an end of a column or of a line. -/
theorem readListing_listing_iff :
    readListing (listing rows) = rows.map columns ↔ ∀ row ∈ rows, IsPlain row.formId.toList := by
  constructor
  · intro readBack
    have lines := congrArg List.length readBack
    rw [length_readListing, List.length_map] at lines
    have noEnds : ∀ row ∈ rows, '\n' ∉ row.formId.toList := by
      intro row member inside
      have none : (rows.flatMap fun row => row.formId.toList).count '\n' = 0 := by omega
      exact List.count_eq_zero.mp none (List.mem_flatMap.mpr ⟨row, member, inside⟩)
    rw [readListing_of_no_newline noEnds, List.map_inj_left] at readBack
    intro row member
    refine ⟨?_, noEnds row member⟩
    have width := congrArg List.length (readBack row member)
    rw [List.length_map, length_splitOn, row.count_line.1] at width
    rw [← List.count_eq_zero]
    exact Nat.add_right_cancel (m := 5) width
  · intro plain
    rw [readListing_of_no_newline fun row member => (plain row member).2, List.map_inj_left]
    intro row member
    have noTabs : ∀ column ∈ row.columns.map String.toList, '\t' ∉ column := by
      intro cs inColumns
      obtain ⟨column, inside, rfl⟩ := List.mem_map.mp inColumns
      exact (isPlain_columns (plain row member) inside).1
    rw [line, List.splitOn_intercalate _ noTabs (by simp [columns])]
    simp [Function.comp_def]

end SubmissionRow

namespace Store

variable {store : Store} {status : Option Status} {limit : Nat} {rows : List SubmissionRow}

theorem run_list (listed : store.list status limit 0 = .ok rows) (now : Int) :
    (StoreTask.list status limit).run now (.own store) = (.ok (SubmissionRow.listing rows), .own store) := by
  rw [StoreTask.run, StoreContent.list, listed]
  rfl

theorem exists_listed (reach : Store.empty.Reach store) (readable : ∀ id, (store.get? id).isOk)
    (status : Option Status) (limit : Nat) : ∃ rows, store.list status limit 0 = .ok rows := by
  obtain ⟨table, present, sound⟩ := reach.sound
  exact ⟨_, list_of_readable present ((isOk_get?_iff present sound).mp readable) (by decide)⟩

/-- What a program prints that lists a store which it has opened. -/
theorem execute_list {tree later : FileTree} {cwd : Path} {clock : Int} {config : Config} {opened : OpenedStore}
    (command : config.command = .list status limit)
    (ran : (FileTree.openStore cwd clock (tree.storageDirectory cwd config)).run tree = (.ok opened, later))
    (own : opened.content = .own store) (listed : store.list status limit 0 = .ok rows) :
    (tree.execute cwd clock config).1 = .success (SubmissionRow.listing rows) := by
  rw [FileTree.execute, command, Command.plan, ran]
  dsimp only
  rw [own, run_list listed]
  simp [Outcome.ofTask]

/-- The printed listing of a store has a line for each row that is listed, and one more for each end of a line in a
form id. It is read back, line by line and column by column, exactly if no form id that is listed holds an end of a
column or of a line. Of such rows, those that differ in what is printed of them are never printed alike. -/
theorem listing_readBack_iff (reach : Store.empty.Reach store) (readable : ∀ id, (store.get? id).isOk)
    (status : Option Status) (limit : Nat) :
    ∃ rows text, store.list status limit 0 = .ok rows ∧
      (∀ now, (StoreTask.list status limit).run now (.own store) = (.ok text, .own store)) ∧
      (∀ (tree later : FileTree) cwd clock config opened, config.command = .list status limit →
        (FileTree.openStore cwd clock (tree.storageDirectory cwd config)).run tree = (.ok opened, later) →
        opened.content = .own store → (tree.execute cwd clock config).1 = .success text) ∧
      (readListing text).length = rows.length + (rows.flatMap fun row => row.formId.toList).count '\n' ∧
      (readListing text = rows.map SubmissionRow.columns ↔ ∀ row ∈ rows, IsPlain row.formId.toList) ∧
      ∀ (other : Store) otherStatus otherLimit others now,
        other.list otherStatus otherLimit 0 = .ok others →
        (∀ row ∈ rows ++ others, IsPlain row.formId.toList) →
        ((StoreTask.list otherStatus otherLimit).run now (.own other)).1 = .ok text →
        others.map SubmissionRow.columns = rows.map SubmissionRow.columns := by
  obtain ⟨rows, listed⟩ := exists_listed reach readable status limit
  refine ⟨rows, SubmissionRow.listing rows, listed, run_list listed,
    fun _ _ _ _ _ _ command ran own => execute_list command ran own listed,
    SubmissionRow.length_readListing rows, SubmissionRow.readListing_listing_iff, ?_⟩
  intro other otherStatus otherLimit others now otherListed plain printed
  simp only [List.mem_append] at plain
  rw [run_list otherListed] at printed
  have ofRows := SubmissionRow.readListing_listing_iff.mpr fun row member => plain row (.inl member)
  have ofOthers := SubmissionRow.readListing_listing_iff.mpr fun row member => plain row (.inr member)
  rw [← ofRows, ← ofOthers, Except.ok.inj printed]

def draftRecord (formId : String) : SubmissionRecord := ⟨formId, .null, .draft, 0, 0⟩

/-- Two drafts that have been made at the same time, of which the second one is listed first. -/
def twoDrafts (first second : String) : Store :=
  ((Store.empty.insert (draftRecord first)).2.insert (draftRecord second)).2

theorem reach_twoDrafts (first second : String) : Store.empty.Reach (twoDrafts first second) :=
  .insert _ (.insert _ .start)

theorem read_draftRecord (id : Int) (formId : String) :
    (StoredRow.ofRecord id (draftRecord formId)).read = .ok ⟨id, formId, .null, .draft, 0, 0⟩ := by
  have isNormal : (draftRecord formId).payload.IsNormal := rfl
  exact (StoredRow.read_ofRecord_iff id isNormal).mpr ⟨Nat.zero_le _, fun d member => nomatch member⟩

theorem list_twoDrafts (first second : String) (limit : Nat) (room : 2 ≤ min limit maxPage) :
    (twoDrafts first second).list none limit 0 =
      .ok [⟨2, second, .null, .draft, 0, 0⟩, ⟨1, first, .null, .draft, 0, 0⟩] := by
  obtain ⟨table, present, sound⟩ := (reach_twoDrafts first second).sound
  let older : StoredRow := .ofRecord 1 (draftRecord first)
  let newer : StoredRow := .ofRecord 2 (draftRecord second)
  have rows : table.rows = [older, newer] := congrArg SubmissionTable.rows (Option.some.inj present).symm
  have distinct := sound.nodup_ids
  have sorted : [newer, older].Pairwise fun x y => x.newerFirst y := by
    simp [older, newer, StoredRow.newerFirst, StoredRow.ofRecord, draftRecord]
  have listed : table.listing none = [newer, older] := by
    rw [rows] at distinct
    rw [SubmissionTable.listing_none, rows, SubmissionTable.mergeSort_eq_of_perm (.swap _ _ _) distinct,
      List.mergeSort_of_pairwise sorted]
  rw [list_of_table present none limit (by decide), SubmissionTable.page_eq, listed, List.drop_zero,
    List.take_of_length_le room, List.mapM_cons, List.mapM_cons, read_draftRecord, read_draftRecord]
  rfl

theorem readable_twoDrafts (first second : String) (id : Int) : ((twoDrafts first second).get? id).isOk := by
  obtain ⟨table, present, sound⟩ := (reach_twoDrafts first second).sound
  refine (isOk_get?_iff present sound).mpr ?_ id
  have rows : table.rows = [.ofRecord 1 (draftRecord first), .ofRecord 2 (draftRecord second)] :=
    congrArg SubmissionTable.rows (Option.some.inj present).symm
  rw [rows]
  simp only [List.forall_mem_cons, read_draftRecord]
  exact ⟨rfl, rfl, fun row member => nomatch member⟩

/-- A form id that goes on as its line would, with the line of a draft of another form behind it. -/
def forgedFormId (formId other : String) : String :=
  formId ++ "\tDraft\t1970-01-01T00:00:00Z\t1970-01-01T00:00:00Z\n1\t" ++ other

/-- Plain form ids are read back. A form id that forges a line makes a line more than there are rows, and two stores
with such form ids are printed alike, though none of their form ids are equal. -/
theorem listing_readBack_iff_forged :
    (∃ text, ((StoreTask.list none 50).run 7 (.own (twoDrafts "A" "B"))).1 = .ok text ∧
      readListing text = [["2", "B", "Draft", epochText, epochText], ["1", "A", "Draft", epochText, epochText]]) ∧
    ∃ text, ((StoreTask.list none 50).run 7 (.own (twoDrafts "C" (forgedFormId "A" "B")))).1 = .ok text ∧
      ((StoreTask.list none 50).run 7 (.own (twoDrafts (forgedFormId "B" "C") "A"))).1 = .ok text ∧
      (readListing text).length = 3 := by
  constructor
  · obtain ⟨rows, text, listed, ran, -, -, readBack, -⟩ :=
      listing_readBack_iff (reach_twoDrafts "A" "B") (readable_twoDrafts "A" "B") none 50
    rw [list_twoDrafts "A" "B" 50 (by decide)] at listed
    obtain rfl := Except.ok.inj listed
    exact ⟨text, congrArg Prod.fst (ran 7), readBack.mpr (by decide)⟩
  · obtain ⟨rows, text, listed, ran, -, lines, -⟩ :=
      listing_readBack_iff (reach_twoDrafts "C" (forgedFormId "A" "B")) (readable_twoDrafts _ _) none 50
    rw [list_twoDrafts _ _ 50 (by decide)] at listed
    obtain rfl := Except.ok.inj listed
    refine ⟨text, congrArg Prod.fst (ran 7), ?_, lines⟩
    have own := congrArg Prod.fst (run_list (list_twoDrafts "C" (forgedFormId "A" "B") 50 (by decide)) 7)
    rw [congrArg Prod.fst (ran 7)] at own
    have same := Except.ok.inj own
    rw [run_list (list_twoDrafts (forgedFormId "B" "C") "A" 50 (by decide)) 7, same]
    rfl

end Store

end InspectionForms
