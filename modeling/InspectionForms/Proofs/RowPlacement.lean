import InspectionForms.Database.Relation

namespace InspectionForms

theorem bind_eq_ok_iff {α β ε : Type} {found : Except ε α} {next : α → Except ε β} {b : β} :
    (found >>= next) = .ok b ↔ ∃ a, found = .ok a ∧ next a = .ok b := by
  cases found with
  | error error => exact ⟨nofun, fun ⟨_, absurd, _⟩ => nomatch absurd⟩
  | ok a => exact ⟨fun later => ⟨a, rfl, later⟩, fun ⟨_, same, later⟩ => Except.ok.inj same ▸ later⟩

theorem foldlM_invariant {α β ε : Type} {step : β → α → Except ε β} (kept : List α → β → Prop)
    (each : ∀ a rest b next, kept (a :: rest) b → step b a = .ok next → kept rest next) {as : List α} {b last : β}
    (start : kept as b) (ran : as.foldlM step b = .ok last) : kept [] last := by
  induction as generalizing b with
  | nil => exact Except.ok.inj ran ▸ start
  | cons a as ih =>
    rw [List.foldlM_cons] at ran
    obtain ⟨next, first, ran⟩ := bind_eq_ok_iff.mp ran
    exact ih (each a as b next start first) ran

namespace TableDefinition

variable {definition : TableDefinition} {policy : Option Remedy} {changed : Changed} {row placed : TableRow}
  {others kept : List TableRow}

/-- A row can stand beside those that stay: it shares neither its number nor a key that has been changed with any of
them, and no condition about what has been changed is false. -/
structure Fits (definition : TableDefinition) (changed : Changed) (others : List TableRow) (row : TableRow)
    (kept : List TableRow) : Prop where
  sublist : kept.Sublist others
  number : ∀ other ∈ kept, other.id ≠ row.id
  keys : ∀ key ∈ definition.uniqueKeys, definition.keyMentionsChange changed key →
    ∀ other ∈ kept, ¬ definition.sharesKey key row other
  conditions : ∀ rule ∈ definition.conditions, definition.mentionsChange changed rule.condition →
    ∀ cell, rule.condition.value (definition.scope row) = .ok cell → cell.truth ≠ some false

theorem id_compute (row : TableRow) : (definition.compute row).id = row.id := by
  unfold compute
  generalize definition.columns.filter _ = columns
  induction columns generalizing row with
  | nil => rfl
  | cons column columns ih =>
    rw [List.foldl_cons, ih]

theorem id_newRow (definition : TableDefinition) (id : Int) (values : List (String × Cell)) :
    (definition.newRow id values).id = id :=
  id_compute _

theorem id_of_fillColumn {k : Nat} {column : TableColumn}
    (filled : definition.fillColumn policy row k column = .ok (some placed)) : placed.id = row.id := by
  unfold fillColumn at filled
  split at filled
  · obtain rfl := Option.some.inj (Except.ok.inj filled)
    rfl
  · split at filled
    · obtain rfl := Option.some.inj (Except.ok.inj filled)
      rfl
    · split at filled
      · cases filled
      · split at filled
        · cases filled
        · obtain rfl := Option.some.inj (Except.ok.inj filled)
          exact id_compute _
      · cases filled

theorem id_of_fill (filled : definition.fill policy changed row = .ok (some placed)) : placed.id = row.id := by
  unfold fill at filled
  refine foldlM_invariant (fun _ row? => ∀ placed, row? = some placed → placed.id = row.id) ?_ ?_ filled placed rfl
  · intro (column, k) rest row? next same made placed found
    subst found
    cases row? with
    | none => cases made
    | some before => exact (id_of_fillColumn made).trans (same before rfl)
  · exact fun placed found => congrArg TableRow.id (Option.some.inj found).symm

theorem makeRoomForId_apart (made : definition.makeRoomForId policy others row = .ok (some kept)) :
    kept.Sublist others ∧ ∀ other ∈ kept, other.id ≠ row.id := by
  unfold makeRoomForId at made
  split at made
  · next free =>
    obtain rfl := Option.some.inj (Except.ok.inj made)
    refine ⟨List.Sublist.refl _, fun other member same => ?_⟩
    simp only [Bool.not_eq_true', List.any_eq_false, beq_iff_eq] at free
    exact free other member same
  · split at made
    · cases made
    · obtain rfl := Option.some.inj (Except.ok.inj made)
      exact ⟨List.filter_sublist, fun other member => by simpa using (List.mem_filter.mp member).2⟩
    · cases made

theorem mem_partition_iff {α : Type} {p : α → Bool} {as : List α} {a : α} :
    a ∈ (as.partition p).2 ++ (as.partition p).1 ↔ a ∈ as := by
  rw [List.partition_eq_filter_filter, List.mem_append, List.mem_filter, List.mem_filter, ← and_or_left]
  cases same : p a <;> simp [same]

theorem makeRoom_apart (made : definition.makeRoom policy changed others row = .ok (some kept)) :
    kept.Sublist others ∧ ∀ key ∈ definition.uniqueKeys, definition.keyMentionsChange changed key →
      ∀ other ∈ kept, ¬ definition.sharesKey key row other := by
  unfold makeRoom at made
  -- The keys that have been looked at are those that no longer stand in the rest.
  have apart := foldlM_invariant (fun rest kept? => ∀ kept, kept? = some kept → kept.Sublist others ∧
    ∀ key ∈ definition.uniqueKeys, definition.keyMentionsChange changed key → key ∉ rest →
      ∀ other ∈ kept, ¬ definition.sharesKey key row other) ?_ ?_ made kept rfl
  · exact ⟨apart.1, fun key member concerned => apart.2 key member concerned List.not_mem_nil⟩
  · intro key rest rows? next sofar step kept found
    subst found
    cases rows? with
    | none => cases step
    | some rows =>
      obtain ⟨fewer, apart⟩ := sofar rows rfl
      have extended {kept : List TableRow} (fewest : kept.Sublist rows)
          (free : ∀ other ∈ kept, ¬ definition.sharesKey key row other) : kept.Sublist others ∧
          ∀ key ∈ definition.uniqueKeys, definition.keyMentionsChange changed key → key ∉ rest →
            ∀ other ∈ kept, ¬ definition.sharesKey key row other := by
        refine ⟨fewest.trans fewer, fun looked member concerned done other stays => ?_⟩
        by_cases same : looked = key
        · exact same ▸ free other stays
        · exact apart looked member concerned (List.not_mem_cons_of_ne_of_not_mem same done) other (fewest.subset stays)
      dsimp only at step
      split at step
      · next free =>
        obtain rfl := Option.some.inj (Except.ok.inj step)
        simp only [Bool.not_eq_true', List.any_eq_false] at free
        exact extended (List.Sublist.refl _) free
      · split at step
        · cases step
        · obtain rfl := Option.some.inj (Except.ok.inj step)
          exact extended List.filter_sublist fun other stays => by simpa using (List.mem_filter.mp stays).2
        · cases step
  · intro kept same
    obtain rfl := Option.some.inj same
    refine ⟨List.Sublist.refl _, fun key member concerned missing => absurd (mem_partition_iff.mpr ?_) missing⟩
    exact List.mem_filter.mpr ⟨List.mem_reverse.mpr member, concerned⟩

theorem conditions_of_failedCondition? {rules : List RowCondition}
    (met : definition.failedCondition? changed row rules = .ok none) :
    ∀ rule ∈ rules, definition.mentionsChange changed rule.condition →
      ∀ cell, rule.condition.value (definition.scope row) = .ok cell → cell.truth ≠ some false := by
  induction rules with
  | nil => exact nofun
  | cons rule rules ih =>
    unfold failedCondition? at met
    dsimp only at met
    split at met
    · next apart =>
      refine List.forall_mem_cons.mpr ⟨fun concerned => ?_, ih met⟩
      simp [concerned] at apart
    · split at met
      · cases met
      · split at met
        · cases met
        · next true =>
          refine List.forall_mem_cons.mpr ⟨fun _ cell computed isFalse => true ?_, ih met⟩
          simp [computed, isFalse, Except.toOption]

/-- Where a place has been found for a row, it fits there. -/
theorem fits_of_settle (settled : definition.settle policy changed others row = .ok (some (placed, kept))) :
    placed.id = row.id ∧ definition.Fits changed others placed kept := by
  unfold settle at settled
  obtain ⟨-, -, settled⟩ := bind_eq_ok_iff.mp settled
  obtain ⟨filled?, filled, settled⟩ := bind_eq_ok_iff.mp settled
  cases filled? with
  | none => cases settled
  | some filledRow =>
    have sameId := id_of_fill filled
    dsimp only at settled
    split at settled
    · cases settled
    · obtain ⟨rule?, met, settled⟩ := bind_eq_ok_iff.mp settled
      cases rule? with
      | some rule =>
        dsimp only at settled
        split at settled <;> cases settled
      | none =>
        have met := conditions_of_failedCondition? met
        dsimp only at settled
        -- Room for the number of the row is made before that for its keys, or behind it.
        split at settled
        · rw [pure_bind] at settled
          obtain ⟨-, -, settled⟩ := bind_eq_ok_iff.mp settled
          obtain ⟨left?, left, settled⟩ := bind_eq_ok_iff.mp settled
          cases left? with
          | none => cases settled
          | some left =>
            obtain ⟨last?, last, settled⟩ := bind_eq_ok_iff.mp settled
            cases last? with
            | none => cases settled
            | some last =>
              obtain ⟨rfl, rfl⟩ := Prod.mk.inj (Option.some.inj (Except.ok.inj settled))
              obtain ⟨fewer, apart⟩ := makeRoom_apart left
              obtain ⟨fewest, numbers⟩ := makeRoomForId_apart last
              exact ⟨sameId, fewest.trans fewer, numbers,
                fun key member concerned other stays => apart key member concerned other (fewest.subset stays), met⟩
        · obtain ⟨left?, left, settled⟩ := bind_eq_ok_iff.mp settled
          cases left? with
          | none => cases settled
          | some left =>
            obtain ⟨-, -, settled⟩ := bind_eq_ok_iff.mp settled
            obtain ⟨last?, last, settled⟩ := bind_eq_ok_iff.mp settled
            cases last? with
            | none => cases settled
            | some last =>
              obtain ⟨rfl, rfl⟩ := Prod.mk.inj (Option.some.inj (Except.ok.inj settled))
              obtain ⟨fewer, numbers⟩ := makeRoomForId_apart left
              obtain ⟨fewest, apart⟩ := makeRoom_apart last
              exact ⟨sameId, fewest.trans fewer, fun other stays => numbers other (fewest.subset stays), apart, met⟩

end TableDefinition

end InspectionForms
