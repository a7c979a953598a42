import InspectionForms.Database.Tables

namespace InspectionForms

namespace Cell

variable {collation : Collation} {a b : Cell}

theorem sortKey_of_number (number : a.kindRank = 1) : a.sortKey collation = [] := by
  cases a <;> first | rfl | cases number

theorem units_of_not_number (noNumber : a.kindRank ≠ 1) : a.units = 0 := by
  cases a <;> first | rfl | exact absurd rfl noNumber

/-- Values are ordered by their kinds, numbers by what they are worth and texts by the bytes that count. -/
theorem precedes_iff : a.precedes collation b ↔ a.kindRank < b.kindRank ∨
    a.kindRank = b.kindRank ∧ (a.units < b.units ∨ a.units = b.units ∧ a.sortKey collation < b.sortKey collation) := by
  unfold precedes
  split
  · next differ => simp [differ]
  · next same =>
    rw [Classical.not_not] at same
    split
    · next number =>
      rw [decide_eq_true_iff, sortKey_of_number number, sortKey_of_number (same ▸ number)]
      simp [same]
    · next noNumber =>
      rw [decide_eq_true_iff, units_of_not_number noNumber, units_of_not_number (same ▸ noNumber)]
      simp [same]

theorem precedes_asymm (first : a.precedes collation b) : ¬ b.precedes collation a := by
  rw [precedes_iff] at *
  grind

theorem precedes_or (first : a.precedes collation b) (other : Cell) :
    a.precedes collation other ∨ other.precedes collation b := by
  rw [precedes_iff] at *
  rw [precedes_iff]
  grind

theorem precedes_integer_iff {i j : Int} : (integer i).precedes collation (integer j) ↔ i < j := by
  have positive : 0 < Double.unitsOfOne := by decide
  simp only [precedes_iff, kindRank, units, sortKey, Nat.lt_irrefl, false_or, true_and, List.lt_irrefl, and_false,
    or_false]
  exact Int.mul_lt_mul_right (Int.natCast_pos.mpr positive)

/-- Values are taken for the same exactly if neither comes before the other one, with null apart. -/
theorem agrees_iff : a.agrees collation b ↔ a ≠ null ∧ ¬ a.precedes collation b ∧ ¬ b.precedes collation a := by
  rw [precedes_iff, precedes_iff, agrees]
  grind

end Cell

namespace SortDirection

variable {direction : SortDirection} {collation : Collation} {a b : Cell}

theorem precedes_iff : direction.precedes collation a b ↔
    a = .null ∧ b ≠ .null ∧ direction.isNullLast = false ∨ a ≠ .null ∧ b = .null ∧ direction.isNullLast = true ∨
    a ≠ .null ∧ b ≠ .null ∧ (if direction.isFalling then b.precedes collation a else a.precedes collation b) := by
  cases a <;> cases b <;> simp [precedes]

theorem precedes_asymm (first : direction.precedes collation a b) : ¬ direction.precedes collation b a := by
  rw [precedes_iff] at *
  grind [Cell.precedes_asymm]

theorem precedes_or (first : direction.precedes collation a b) (other : Cell) :
    direction.precedes collation a other ∨ direction.precedes collation other b := by
  rw [precedes_iff] at *
  rw [precedes_iff]
  grind [Cell.precedes_or]

theorem precedes_integer_iff {i j : Int} :
    (⟨false, false⟩ : SortDirection).precedes collation (.integer i) (.integer j) ↔ i < j :=
  (Cell.precedes_integer_iff : (Cell.integer i).precedes collation (.integer j) ↔ i < j)

end SortDirection

variable {order : List (Collation × SortDirection)} {as bs cs : List Cell}

theorem comesBefore_cons_iff {collation : Collation} {direction : SortDirection} {a b : Cell} :
    comesBefore ((collation, direction) :: order) (a :: as) (b :: bs) ↔ direction.precedes collation a b ∨
      ¬ direction.precedes collation b a ∧ comesBefore order as bs := by
  rw [comesBefore]
  grind

theorem comesBefore_total (order : List (Collation × SortDirection)) (as bs : List Cell) :
    comesBefore order as bs ∨ comesBefore order bs as := by
  induction order generalizing as bs with
  | nil => exact .inl rfl
  | cons part order ih =>
    match as, bs with
    | [], _ => exact .inl rfl
    | _ :: _, [] => exact .inl rfl
    | a :: as, b :: bs =>
      rw [comesBefore_cons_iff, comesBefore_cons_iff]
      grind

/-- Values that miss a part of the order come before all others and behind them, so there must be as many of them. -/
theorem comesBefore_trans (ofAs : as.length = order.length) (ofBs : bs.length = order.length)
    (ofCs : cs.length = order.length) (first : comesBefore order as bs) (second : comesBefore order bs cs) :
    comesBefore order as cs := by
  induction order generalizing as bs cs with
  | nil => rfl
  | cons part order ih =>
    match as, bs, cs, ofAs, ofBs, ofCs with
    | a :: as, b :: bs, c :: cs, ofAs, ofBs, ofCs =>
      rw [comesBefore_cons_iff] at *
      have later := ih (Nat.succ.inj ofAs) (Nat.succ.inj ofBs) (Nat.succ.inj ofCs)
      grind [SortDirection.precedes_asymm, SortDirection.precedes_or]

namespace Relation

variable {relation : Relation}

theorem length_place (row : TableRow) : (relation.place row).length = relation.placeOrder.length := by
  rw [place, placeOrder]
  split <;> simp

theorem orderedRows_perm (relation : Relation) : relation.orderedRows.Perm relation.rows :=
  List.mergeSort_perm _ _

theorem pairwise_orderedRows (relation : Relation) : relation.orderedRows.Pairwise fun a b =>
    comesBefore relation.placeOrder (relation.place a) (relation.place b) := by
  refine List.pairwise_mergeSort (fun a b c => ?_) (fun a b => ?_) relation.rows
  · exact comesBefore_trans (length_place a) (length_place b) (length_place c)
  · rw [Bool.or_eq_true]
    exact comesBefore_total relation.placeOrder (relation.place a) (relation.place b)

/-- Rows that have numbers stand in the order of these. -/
theorem pairwise_id_orderedRows (numbered : relation.definition.hasRowNumbers = true) :
    relation.orderedRows.Pairwise fun a b => a.id ≤ b.id := by
  refine relation.pairwise_orderedRows.imp fun {a b} first => ?_
  rw [place, place, placeOrder, if_pos numbered, if_pos numbered, if_pos numbered, List.map_singleton,
    comesBefore_cons_iff, SortDirection.precedes_integer_iff, SortDirection.precedes_integer_iff] at first
  omega

end Relation

end InspectionForms
