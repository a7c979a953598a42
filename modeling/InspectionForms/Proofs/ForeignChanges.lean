import InspectionForms.Proofs.ForeignListing
import InspectionForms.Proofs.TableShapes

namespace InspectionForms

open Std.Do

namespace ForeignStore

variable {α : Type} (store : ForeignStore)

theorem change_refused (policy : Option Remedy) (event : TriggerEvent) (name : String) (columns : List String)
    (change : Change α) {error : RelationError}
    (refused : (store.change policy event name columns change).1 = .error error) (undone : error.keepsChanges = false) : (store.change policy event name columns change).2 = store := by
  unfold ForeignStore.change at refused ⊢
  split
  · rfl
  · next required =>
    rw [required] at refused
    change { store with tables := (store.tables.run change).2 } = store
    rw [store.tables.run_refused change refused undone]

theorem shapes_change (policy : Option Remedy) (event : TriggerEvent) (name : String) (columns : List String)
    {change : Change α} (keeps : ∀ shapes : TableShapes, ⦃shapes.held⦄ change ⦃shapes.kept⦄) :
    (store.change policy event name columns change).2.tables.shapes = store.tables.shapes := by
  unfold ForeignStore.change
  split
  · rfl
  · exact store.tables.shapes_run keeps

/-- A record that is refused leaves a store of another program as it was, unless a trigger or a rule of that store says
that the changes before it stay. -/
theorem insert_refused {record : SubmissionRecord} {error : StoreError}
    (refused : (store.insert record).1 = .error error)
    (undone : ∀ cause, error = .relation cause → cause.keepsChanges = false) : (store.insert record).2 = store := by
  unfold insert at refused ⊢
  split
  · rfl
  · next ordered =>
    rw [if_neg ordered] at refused
    dsimp only at refused ⊢
    split
    · next cause changed ran =>
      rw [ran] at refused
      obtain rfl := Except.error.inj refused
      have first := congrArg Prod.fst ran
      have kept := store.change_refused _ _ _ _ _ first (undone cause rfl)
      rwa [ran] at kept
    · next changed ran =>
      rw [ran] at refused
      dsimp only at refused ⊢
      split
      · rfl
      · next sound =>
        rw [if_neg sound] at refused
        cases refused

/-- Whatever a store of another program makes of a new record, with all of its triggers and references, no table, view
or trigger comes, goes or becomes another one. -/
theorem shapes_insert (record : SubmissionRecord) :
    (store.insert record).2.tables.shapes = store.tables.shapes := by
  have kept (names : List String) (values : List (String × Cell)) :=
    store.shapes_change none .insertion tableName names fun shapes =>
      Change.insert_keeps (store.tables.reaction_keeps shapes) tableName none [] [] values
  unfold insert
  split
  · rfl
  · dsimp only
    split
    · next cause changed ran => exact (congrArg (·.2.tables.shapes) ran).symm.trans (kept _ _)
    · next changed ran =>
      split
      · rfl
      · exact (congrArg (·.2.tables.shapes) ran).symm.trans (kept _ _)

/-- The status of a row changes where the table, the row and its first time are found, the new time does not come before
that, and the change itself and its index are right. -/
theorem changeStatus_cases {store changed : ForeignStore} {id : Int} {status : Status} {updatedAt : Int}
    (ran : store.changeStatus id status updatedAt = .ok changed) :
    ∃ relation row createdAt, store.submissions? = some relation ∧ firstCreated? relation id = some row ∧
      integer relation row 0 "created_at_ms" = .ok createdAt ∧ createdAt ≤ updatedAt ∧
      ∃ done, store.change none (.change (some ["status", "updated_at_ms"])) tableName ["status", "updated_at_ms"]
        (Change.update store.tables.reaction tableName none
          (fun _ _ => return .ok [("status", Cell.ofString status.code), ("updated_at_ms", .integer updatedAt)])
          (relation.orderedRows.filter (relation.hasValue "id" (.integer id)))) = (.ok done, changed) := by
  rw [changeStatus] at ran
  obtain ⟨relation, found, ran⟩ := bind_eq_ok_iff.mp ran
  obtain ⟨-, -, ran⟩ := bind_eq_ok_iff.mp ran
  cases known : firstCreated? relation id with
  | none =>
    rw [known] at ran
    cases ran
  | some row =>
    rw [known] at ran
    obtain ⟨createdAt, first, ran⟩ := bind_eq_ok_iff.mp ran
    split at ran
    · cases ran
    · next ordered =>
      dsimp only [List.map_cons, List.map_nil] at ran
      generalize carried : store.change _ _ _ _ _ = outcome at ran
      obtain ⟨result, after⟩ := outcome
      obtain ⟨_, succeeded, ran⟩ := bind_eq_ok_iff.mp ran
      obtain ⟨-, -, ran⟩ := bind_eq_ok_iff.mp ran
      cases result with
      | error error => cases succeeded
      | ok done =>
        obtain rfl := Except.ok.inj ran
        exact ⟨relation, row, createdAt, requireTable_eq_ok_iff.mp found, known, mapError_eq_ok_iff.mp first,
          Int.not_lt.mp ordered, done, carried⟩

theorem shapes_changeStatus {store changed : ForeignStore} {id : Int} {status : Status} {updatedAt : Int}
    (ran : store.changeStatus id status updatedAt = .ok changed) : changed.tables.shapes = store.tables.shapes := by
  obtain ⟨relation, -, -, -, -, -, -, done, ran⟩ := changeStatus_cases ran
  have kept := store.shapes_change none (.change (some ["status", "updated_at_ms"])) tableName
    ["status", "updated_at_ms"] fun shapes => Change.update_keeps (store.tables.reaction_keeps shapes) tableName none
      (fun _ _ => pure (.ok [("status", Cell.ofString status.code), ("updated_at_ms", .integer updatedAt)]))
      (fun _ _ tables same => same) (relation.orderedRows.filter (relation.hasValue "id" (.integer id)))
  exact (congrArg (·.2.tables.shapes) ran).symm.trans kept

theorem shapes_setStatus (id : Int) (status : Status) (updatedAt : Int) :
    (store.setStatus id status updatedAt).2.tables.shapes = store.tables.shapes := by
  unfold setStatus
  split
  · rfl
  · next changed ran => exact shapes_changeStatus ran

end ForeignStore

end InspectionForms
