import InspectionForms.Proofs.CellOrder
import InspectionForms.Proofs.RowPlacement
import InspectionForms.Store.Foreign
import Mathlib.Data.List.Forall2

namespace InspectionForms

theorem mapError_eq_ok_iff {α ε δ : Type} {change : ε → δ} {found : Except ε α} {a : α} :
    found.mapError change = .ok a ↔ found = .ok a := by
  cases found with
  | error error => exact ⟨nofun, nofun⟩
  | ok b =>
    exact ⟨fun same => congrArg Except.ok (Except.ok.inj same), fun same => congrArg Except.ok (Except.ok.inj same)⟩

theorem mapM_eq_ok_iff_forall₂ {α β ε : Type} {read : α → Except ε β} {as : List α} {bs : List β} :
    as.mapM read = .ok bs ↔ List.Forall₂ (fun a b => read a = .ok b) as bs := by
  induction as generalizing bs with
  | nil =>
    rw [List.mapM_nil, List.forall₂_nil_left_iff]
    exact ⟨fun same => (Except.ok.inj same).symm, fun none => congrArg Except.ok none.symm⟩
  | cons a as ih =>
    rw [List.mapM_cons, List.forall₂_cons_left_iff]
    constructor
    · intro all
      obtain ⟨b, first, all⟩ := bind_eq_ok_iff.mp all
      obtain ⟨rest, others, all⟩ := bind_eq_ok_iff.mp all
      exact ⟨b, rest, first, ih.mp others, (Except.ok.inj all).symm⟩
    · rintro ⟨b, rest, first, others, rfl⟩
      rw [first, ih.mpr others]
      rfl

namespace ForeignStore

variable {relation : Relation} {a b c : TableRow}

theorem listsBefore_total (relation : Relation) (a b : TableRow) :
    listsBefore relation a b ∨ listsBefore relation b a := by
  unfold listsBefore
  grind [Cell.precedes_asymm]

theorem listsBefore_trans (first : listsBefore relation a b) (second : listsBefore relation b c) :
    listsBefore relation a c := by
  unfold listsBefore at *
  grind [Cell.precedes_asymm, Cell.precedes_or]

def hasStatus (relation : Relation) (status : Option Status) (row : TableRow) : Bool :=
  status.all fun status => relation.hasValue "status" (.ofString status.code) row

/-- All rows with a status, in the order of listings. -/
def listing (relation : Relation) (status : Option Status) : List TableRow :=
  (relation.rows.mergeSort (listsBefore relation)).filter (hasStatus relation status)

theorem listing_perm (relation : Relation) (status : Option Status) :
    (listing relation status).Perm (relation.rows.filter (hasStatus relation status)) :=
  (List.mergeSort_perm _ _).filter _

theorem pairwise_listing (relation : Relation) (status : Option Status) :
    (listing relation status).Pairwise (fun a b => listsBefore relation a b) := by
  have sorted : (relation.rows.mergeSort (listsBefore relation)).Pairwise (fun a b => listsBefore relation a b) := by
    refine @List.pairwise_mergeSort _ (listsBefore relation) (fun a b c => listsBefore_trans) (fun a b => ?_) _
    rw [Bool.or_eq_true]
    exact listsBefore_total relation a b
  exact sorted.filter _

theorem requireTable_eq_ok_iff {store : ForeignStore} {relation : Relation} :
    store.requireTable = .ok relation ↔ store.submissions? = some relation := by
  rw [requireTable]
  cases store.submissions? <;> simp

theorem requireIndex_eq_ok_iff {store : ForeignStore} {name : String} {done : Unit} :
    store.requireIndex name = .ok done ↔ name ∉ store.damaged := by
  rw [requireIndex]
  split <;> simp_all

/-- A store of another program is listed as one of our own: the rows with a status in the order of their times, at most
as many as asked for and never more than a page has, and none if one of them cannot be read. That takes a table with all
of the columns that the statement names, and its index for times. -/
theorem list_eq_ok_iff {store : ForeignStore} {status : Option Status} {limit : Nat} {rows : List SubmissionRow} :
    store.list status limit = .ok rows ↔ ∃ relation, store.submissions? = some relation ∧
      relation.definition.require listStatement = .ok () ∧ "idx_submissions_created" ∉ store.damaged ∧
      List.Forall₂ (fun row shown => readRow relation row = .ok shown)
        ((listing relation status).take (min limit Store.maxPage)) rows := by
  simp only [list, bind_eq_ok_iff, mapError_eq_ok_iff, ← mapM_eq_ok_iff_forall₂, requireTable_eq_ok_iff,
    requireIndex_eq_ok_iff]
  constructor
  · rintro ⟨relation, found, _, named, _, sound, shown⟩
    exact ⟨relation, found, named, sound, shown⟩
  · rintro ⟨relation, found, named, sound, shown⟩
    exact ⟨relation, found, (), named, (), sound, shown⟩

end ForeignStore

end InspectionForms
