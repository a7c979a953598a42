import Mathlib
import InspectionForms.Database.Change

set_option mvcgen.warning false

namespace InspectionForms

open Std.Do

namespace Relation

/-- A table apart from its rows and the numbers that have been given out. The columns of a view are found anew each
time. -/
def shape (relation : Relation) : Relation :=
  let definition := relation.definition
  let columns := if relation.view.isSome then [] else definition.columns
  { relation with definition := { definition with columns }, rows := [], lastId := 0 }

theorem hasName_congr {a b : String} (same : isSameName a b) : hasName a = hasName b := by
  funext relation
  have lowered : lowerAscii a = lowerAscii b := beq_iff_eq.mp same
  rw [hasName, hasName, isSameName, isSameName, lowered]

theorem isSameName_of_find? {relations : List Relation} {name : String} {relation : Relation}
    (found : relations.find? (hasName name) = some relation) : isSameName relation.definition.name name := by
  have named := List.find?_some found
  exact named

theorem shape_withColumns {relation : Relation} {view : ViewStatement} (isView : relation.view = some view)
    (columns : List TableColumn) :
    ({ relation with definition := { relation.definition with columns } } : Relation).shape = relation.shape := by
  simp [shape, isView]

end Relation

/-- What changes leave as it is: everything but rows and numbers. -/
structure TableShapes where
  catalog : List CatalogEntry
  present : Option Cell
  count : Nat
  relation? : String → Option Relation

def Tables.shapes (tables : Tables) : TableShapes :=
  ⟨tables.catalog, tables.present, tables.relations.length,
    fun name => (tables.relations.find? (Relation.hasName name)).map Relation.shape⟩

namespace TableShapes

/-- A table is one of these, with any rows. -/
def Has (shapes : TableShapes) (relation : Relation) : Prop :=
  shapes.relation? relation.definition.name = some relation.shape

/-- The tables have these shapes. -/
def held (shapes : TableShapes) : Assertion (.arg Tables .pure) := fun tables => ⌜tables.shapes = shapes⌝

/-- They have, and one of them has been found. -/
def heldWith (shapes : TableShapes) (relation : Relation) : Assertion (.arg Tables .pure) :=
  fun tables => ⌜tables.shapes = shapes ∧ shapes.Has relation⌝

abbrev kept (shapes : TableShapes) {α : Type} : PostCond α (.except RelationError (.arg Tables .pure)) :=
  post⟨fun _ => shapes.held, fun _ => shapes.held⟩

variable {shapes : TableShapes} {tables : Tables} {relation : Relation}

@[grind =]
theorem held_down_iff : (shapes.held tables).down ↔ tables.shapes = shapes := Iff.rfl

@[grind =]
theorem heldWith_down_iff :
    (shapes.heldWith relation tables).down ↔ tables.shapes = shapes ∧ shapes.Has relation := Iff.rfl

@[grind ←]
theorem Has.withRows (known : shapes.Has relation) (rows : List TableRow) (lastId : Int) :
    shapes.Has { relation with rows, lastId } := known

end TableShapes

namespace Tables

theorem has_of_relation? {tables : Tables} {name : String} {relation : Relation}
    (found : tables.relation? name = some relation) : tables.shapes.Has relation := by
  rw [relation?, Option.map_eq_some_iff] at found
  obtain ⟨stored, found, same⟩ := found
  have named : isSameName stored.definition.name name := Relation.isSameName_of_find? found
  have shapes : relation.shape = stored.shape ∧ relation.definition.name = stored.definition.name := by
    subst same
    split
    · next view layout isView _ => exact ⟨Relation.shape_withColumns isView _, rfl⟩
    · exact ⟨rfl, rfl⟩
  rw [TableShapes.Has, shapes.1, shapes.2]
  exact congrArg (Option.map Relation.shape) ((Relation.hasName_congr named).symm ▸ found)

/-- A name stands for the same table after one has been put back. -/
theorem hasName_replaced {relation : Relation} (name : String) (other : Relation) :
    (if other.hasName relation.definition.name then relation else other).hasName name = other.hasName name := by
  split
  · next replaced =>
    have lowered : lowerAscii other.definition.name = lowerAscii relation.definition.name := beq_iff_eq.mp replaced
    rw [Relation.hasName, Relation.hasName, isSameName, isSameName, lowered]
  · rfl

theorem shapes_put {tables : Tables} {relation : Relation} (known : tables.shapes.Has relation) :
    (tables.put relation).shapes = tables.shapes := by
  have names (name : String) : (Relation.hasName name ∘ fun other =>
      if other.hasName relation.definition.name then relation else other) = Relation.hasName name :=
    funext (hasName_replaced name)
  have found (name : String) : ((tables.put relation).relations.find? (Relation.hasName name)).map Relation.shape =
      (tables.relations.find? (Relation.hasName name)).map Relation.shape := by
    rw [put, List.find?_map, names]
    cases there : tables.relations.find? (Relation.hasName name) with
    | none => rfl
    | some other =>
      rw [Option.map_some, Option.map_some, Option.map_some]
      split
      · next replaced =>
        have named : isSameName other.definition.name name := Relation.isSameName_of_find? there
        have same : Relation.hasName relation.definition.name = Relation.hasName name :=
          (Relation.hasName_congr replaced).symm.trans (Relation.hasName_congr named)
        have known : (tables.relations.find? (Relation.hasName relation.definition.name)).map Relation.shape =
          some relation.shape := known
        rw [← known, same, there, Option.map_some]
      · rfl
  exact TableShapes.mk.injEq .. ▸ ⟨rfl, rfl, List.length_map _, funext found⟩

end Tables

/-- Whatever else happens leaves the shapes of tables. -/
structure Reaction.Keeps (react : Reaction) (shapes : TableShapes) : Prop where
  act (policy : Option Remedy) (name : String) (isEarly : Bool) (event : TriggerEvent) (former next : Option TableRow) :
    ⦃shapes.held⦄ react.act policy name isEarly event former next ⦃shapes.kept⦄
  follow (name : String) (values? : Option (List (String × Cell))) (rows : List TableRow) :
    ⦃shapes.held⦄ react.follow name values? rows ⦃shapes.kept⦄

attribute [spec] Reaction.Keeps.act Reaction.Keeps.follow

namespace Change

variable {shapes : TableShapes}

theorem discard_eq_bind {α : Type} (change : Change α) : discard change = change >>= fun _ => pure () :=
  map_eq_pure_bind _ change

@[spec]
theorem lift_keeps {α : Type} (result : Except RelationError α) :
    ⦃shapes.held⦄ (MonadLift.monadLift result : Change α) ⦃shapes.kept⦄ := by
  intro tables same
  cases result <;> exact same

@[spec]
theorem relation_keeps (name : String) :
    ⦃shapes.held⦄ relation name ⦃post⟨fun found => shapes.heldWith found, fun _ => shapes.held⟩⦄ := by
  mvcgen [relation] with grind [Tables.has_of_relation?]

@[spec]
theorem put_keeps (relation : Relation) (known : shapes.Has relation) : ⦃shapes.held⦄ put relation ⦃shapes.kept⦄ := by
  mvcgen [put] with grind [Tables.shapes_put]

@[spec]
theorem countRow_keeps : ⦃shapes.held⦄ countRow ⦃shapes.kept⦄ := by
  mvcgen [countRow]

@[spec]
theorem countDebts_keeps (name : String) (changed : Changed) (isNew : Bool) (row : TableRow) :
    ⦃shapes.held⦄ countDebts name changed isNew row ⦃shapes.kept⦄ := by
  mvcgen [countDebts] invariants
  · post⟨fun _ => shapes.held, fun _ => shapes.held⟩
  · post⟨fun _ => shapes.held, fun _ => shapes.held⟩
  with grind

@[spec]
theorem concernsReferences_keeps (name : String) (changed : Changed) :
    ⦃shapes.held⦄ concernsReferences name changed ⦃shapes.kept⦄ := by
  mvcgen [concernsReferences] with grind

@[spec]
theorem heed_keeps (obstacle : Obstacle) : ⦃shapes.held⦄ heed obstacle ⦃shapes.kept⦄ := by
  mvcgen [heed]

@[spec]
theorem computed_keeps {α : Type} (result : Except Obstacle α) : ⦃shapes.held⦄ computed result ⦃shapes.kept⦄ := by
  mvcgen [computed]

@[spec]
theorem rowsOf_keeps (relation : Relation) : ⦃shapes.held⦄ rowsOf relation ⦃shapes.kept⦄ := by
  mvcgen [rowsOf]

@[spec]
theorem asked_keeps (table : String) (outer : List QueryRow) (condition : Option Expression) :
    ⦃shapes.held⦄ asked table outer condition ⦃shapes.kept⦄ := by
  mvcgen [asked] with grind

@[spec]
theorem assigned_keeps (before : Tables) (table : String) (outer : List QueryRow) (assignments : List Assignment)
    (row : TableRow) : ⦃shapes.held⦄ assigned before table outer assignments row ⦃shapes.kept⦄ := by
  mvcgen [assigned] with grind

@[spec]
theorem matched_keeps (table : String) (outer : List QueryRow) (assignments : List Assignment) (source : Source)
    (condition : Option Expression) :
    ⦃shapes.held⦄ matched table outer assignments source condition ⦃shapes.kept⦄ := by
  mvcgen [matched] with grind

variable {react : Reaction} (reacts : react.Keeps shapes)

include reacts

@[spec]
theorem release_keeps (name : String) (former : TableRow) (next : Option TableRow) :
    ⦃shapes.held⦄ release react name former next ⦃shapes.kept⦄ := by
  cases next <;> mvcgen [release] invariants
  · post⟨fun _ => shapes.held, fun _ => shapes.held⟩
  with grind

@[spec]
theorem replaceRows_keeps (name : String) (kept : List TableRow) :
    ⦃shapes.held⦄ replaceRows react name kept ⦃shapes.kept⦄ := by
  mvcgen [replaceRows] invariants
  · post⟨fun _ => shapes.held, fun _ => shapes.held⟩
  with grind

@[spec]
theorem updateRow_keeps (name : String) (policy : Option Remedy) (values : List (String × Cell))
    (row : TableRow) : ⦃shapes.held⦄ updateRow react name policy values row ⦃shapes.kept⦄ := by
  mvcgen [updateRow, discard_eq_bind] with grind

@[spec]
theorem update_keeps (name : String) (policy : Option Remedy)
    (values : Nat → TableRow → Change (Except Bool (List (String × Cell))))
    (found : ∀ k row, ⦃shapes.held⦄ values k row ⦃shapes.kept⦄) (rows : List TableRow) :
    ⦃shapes.held⦄ update react name policy values rows ⦃shapes.kept⦄ := by
  mvcgen [update, discard_eq_bind, found] invariants
  · post⟨fun _ => shapes.held, fun _ => shapes.held⟩
  with grind

@[spec]
theorem delete_keeps (name : String) (rows : List TableRow) :
    ⦃shapes.held⦄ delete react name rows ⦃shapes.kept⦄ := by
  mvcgen [delete, discard_eq_bind] invariants
  · post⟨fun _ => shapes.held, fun _ => shapes.held⟩
  with grind

@[spec]
theorem insert_keeps (name : String) (policy : Option Remedy) (outer : List QueryRow) (upserts : List Upsert)
    (values : List (String × Cell)) : ⦃shapes.held⦄ insert react name policy outer upserts values ⦃shapes.kept⦄ := by
  mvcgen [insert, discard_eq_bind] with grind

@[spec]
theorem runStep_keeps (outer : List QueryRow) (policy : Option Remedy) (step : TriggerStep) :
    ⦃shapes.held⦄ runStep react outer policy step ⦃shapes.kept⦄ := by
  cases step
  case look query => mvcgen [runStep]
  case insert table columns query remedy upserts =>
    mvcgen [runStep, discard_eq_bind] invariants
    · post⟨fun _ => shapes.held, fun _ => shapes.held⟩
  case update table assignments source condition remedy => cases source <;> mvcgen [runStep] with grind
  case delete table condition => mvcgen [runStep]

@[spec]
theorem runSteps_keeps (layout : Layout) (outer : QueryRow) (policy : Option Remedy) (steps : List TriggerStep) :
    ⦃shapes.held⦄ runSteps react layout outer policy steps ⦃shapes.kept⦄ := by
  induction steps with
  | nil => mvcgen [runSteps]
  | cons step rest later => mvcgen [runSteps, later]

@[spec]
theorem runTrigger_keeps (layout : Layout) (outer : QueryRow) (policy : Option Remedy)
    (statement : TriggerStatement) : ⦃shapes.held⦄ runTrigger react layout outer policy statement ⦃shapes.kept⦄ := by
  mvcgen [runTrigger]

omit reacts in
theorem reaction_keeps (bound : Nat) (busy : List String) : (reaction bound busy).Keeps shapes := by
  induction bound generalizing busy with
  | zero => exact ⟨fun _ _ _ _ _ _ tables same => same, fun _ _ _ tables same => same⟩
  | succ bound deeper =>
    refine ⟨fun policy name isEarly event former next => ?_, fun name values? rows => ?_⟩
    · rw [reaction]
      mvcgen invariants
      · post⟨fun _ => shapes.held, fun _ => shapes.held⟩
      all_goals grind
    · rw [reaction]
      cases values? with
      | none => exact delete_keeps (deeper busy) name rows
      | some values => mvcgen [discard_eq_bind] with grind

end Change

namespace Tables

theorem reaction_keeps (tables : Tables) (shapes : TableShapes) : tables.reaction.Keeps shapes :=
  Change.reaction_keeps _ _

theorem shapes_withSequences (tables : Tables) : tables.withSequences.shapes = tables.shapes := by
  have names (name : String) (relation : Relation) (lastId : Int) :
      Relation.hasName name { relation with lastId } = Relation.hasName name relation := rfl
  rw [shapes, withSequences]
  simp only [List.length_map, List.find?_map, Option.map_map, shapes]
  rfl

theorem shapes_setSequence (tables : Tables) (name : String) (number : Int) :
    (tables.setSequence name number).shapes = tables.shapes := by
  unfold setSequence
  split
  · rfl
  · next relation found =>
    have known := has_of_relation? found
    dsimp only
    split <;> exact shapes_put (known.withRows _ _)

theorem shapes_keepSequences (before tables : Tables) : (before.keepSequences tables).shapes = tables.shapes := by
  have each (relations : List Relation) (now : Tables) : (relations.foldl (fun tables relation =>
      let name := relation.definition.name
      if relation.definition.countsIds && decide (before.sequence name < relation.lastId) then
        tables.setSequence name relation.lastId
      else tables) now).shapes = now.shapes := by
    induction relations generalizing now with
    | nil => rfl
    | cons relation rest later =>
      rw [List.foldl_cons, later]
      dsimp only
      split
      · exact shapes_setSequence now _ _
      · rfl
  exact each tables.relations tables

/-- Where a change starts. -/
def beforeChange (tables : Tables) : Tables := { tables.withSequences with counted := 0, debts := 0 }

/-- A change leaves everything as it was, or it is kept, be it because it has succeeded or because its error says so.
What is kept owes nothing: every row has the values that it refers to. -/
theorem run_cases {α : Type} (tables : Tables) (change : Change α) :
    (∃ error, tables.run change = (.error error, tables)) ∨
    ∃ result changed, change tables.beforeChange = (result, changed) ∧ changed.debts ≤ 0 ∧
      (∀ error, result = .error error → error.keepsChanges = true) ∧
      tables.run change = (result, { tables.keepSequences changed with
        changes := changed.counted, totalChanges := changed.totalChanges + changed.counted }) := by
  unfold run
  generalize ended : change { tables.withSequences with counted := 0, debts := 0 } = outcome
  obtain ⟨result, changed⟩ := outcome
  cases result with
  | ok value =>
    by_cases owes : 0 < changed.debts
    · exact .inl ⟨.noParent, if_pos owes⟩
    · exact .inr ⟨.ok value, changed, ended, not_lt.mp owes, nofun, if_neg owes⟩
  | error cause =>
    by_cases keeps : cause.keepsChanges = true
    · by_cases owes : 0 < changed.debts
      · exact .inl ⟨.noParent, by simp [keeps, owes]⟩
      · refine .inr ⟨.error cause, changed, ended, not_lt.mp owes, fun error same => ?_, by simp [keeps, owes]⟩
        rwa [← Except.error.inj same]
    · exact .inl ⟨cause, by simp [keeps]⟩

theorem run_refused {α : Type} (tables : Tables) (change : Change α) {error : RelationError}
    (refused : (tables.run change).1 = .error error) (undone : error.keepsChanges = false) :
    (tables.run change).2 = tables := by
  rcases tables.run_cases change with ⟨cause, ran⟩ | ⟨result, changed, -, -, kept, ran⟩
  · rw [ran]
  · rw [ran] at refused
    cases undone.symm.trans (kept error refused)

theorem shapes_run {α : Type} (tables : Tables) {change : Change α}
    (keeps : ∀ shapes : TableShapes, ⦃shapes.held⦄ change ⦃shapes.kept⦄) :
    (tables.run change).2.shapes = tables.shapes := by
  rcases tables.run_cases change with ⟨cause, ran⟩ | ⟨result, changed, ended, -, -, ran⟩
  · rw [ran]
  · have kept := keeps tables.shapes tables.beforeChange (shapes_withSequences tables)
    simp only [wp, PredTrans.apply_pushExcept, PredTrans.apply_pushArg] at kept
    rw [StateT.run, ExceptT.run, ended] at kept
    have same : changed.shapes = tables.shapes := by cases result <;> exact kept
    rw [ran]
    exact (shapes_keepSequences tables changed).trans same

end Tables

end InspectionForms
