import InspectionForms.Proofs.RowPlacement
import InspectionForms.Proofs.TableShapes
import InspectionForms.Store.Foreign

namespace InspectionForms

/-- A table where nothing else happens in the course of a change: it has no triggers, and no reference concerns it. -/
structure Tables.Quiet (tables : Tables) (name : String) (relation : Relation) : Prop where
  found : tables.relations.find? (Relation.hasName name) = some relation
  view : relation.view = none
  triggers : relation.triggers = []
  references : relation.definition.references = []
  unreferenced : tables.referencesTo name = []

namespace Change

variable {α β : Type} {tables after : Tables}

theorem bind_of_ok {change : Change α} {next : α → Change β} {a : α} {middle : Tables}
    (ran : change tables = (.ok a, middle)) : (change >>= next) tables = next a middle := by
  have unfolded : (change >>= next) tables = ExceptT.bindCont next (change tables).1 (change tables).2 := rfl
  rw [unfolded, ran]
  rfl

theorem get_run : (get : Change Tables) tables = (.ok tables, tables) := rfl

theorem lift_bind_of_ok {result : Except RelationError α} {next : α → Change β} {a : α} (found : result = .ok a) :
    ((liftM result : Change α) >>= next) tables = next a tables := by
  rw [found]
  rfl

theorem lift_bind_of_error {result : Except RelationError α} {next : α → Change β} {error : RelationError}
    (refused : result = .error error) : ((liftM result : Change α) >>= next) tables = (.error error, tables) := by
  rw [refused]
  rfl

theorem forIn_runs {rows : List TableRow} {body : TableRow → PUnit → Change (ForInStep PUnit)} {last : Tables → Prop}
    (kept : List TableRow → Tables → Prop) (start : kept rows tables)
    (each : ∀ row rest tables, kept (row :: rest) tables →
      ∃ middle, body row ⟨⟩ tables = (.ok (.yield ⟨⟩), middle) ∧ kept rest middle)
    (ended : ∀ tables, kept [] tables → last tables) :
    ∃ after, forIn rows ⟨⟩ body tables = (.ok ⟨⟩, after) ∧ last after := by
  induction rows generalizing tables with
  | nil => exact ⟨tables, rfl, ended tables start⟩
  | cons row rest ih =>
    obtain ⟨middle, ran, start⟩ := each row rest tables start
    rw [List.forIn_cons, bind_of_ok ran]
    exact ih start

end Change

namespace Tables.Quiet

variable {name : String} {table : Relation} {tables : Tables} {react : Reaction}

theorem put (quiet : tables.Quiet name table) (rows : List TableRow) (lastId : Int) :
    (tables.put { table with rows, lastId }).Quiet name { table with rows, lastId } := by
  obtain ⟨found, view, triggers, references, unreferenced⟩ := quiet
  refine ⟨?_, view, triggers, references, ?_⟩
  · have own : table.hasName table.definition.name = true := by
      rw [Relation.hasName, isSameName, beq_self_eq_true]
    have names : (Relation.hasName name ∘ fun other : Relation =>
        if other.hasName table.definition.name then { table with rows, lastId } else other) = Relation.hasName name :=
      funext (@hasName_replaced { table with rows, lastId } name)
    rw [Tables.put, List.find?_map, names, found, Option.map_some, if_pos own]
  · rw [referencesTo, List.flatMap_eq_nil_iff] at unreferenced ⊢
    intro other member
    obtain ⟨former, isThere, rfl⟩ := List.mem_map.mp member
    split
    · rw [references]
      rfl
    · exact unreferenced former isThere

theorem putRun (quiet : tables.Quiet name table) (rows : List TableRow) (lastId : Int) :
    ∃ after, Change.put { table with rows, lastId } tables = (.ok (), after) ∧
      after.Quiet name { table with rows, lastId } :=
  ⟨_, rfl, quiet.put rows lastId⟩

theorem countRow (quiet : tables.Quiet name table) :
    ∃ after, Change.countRow tables = (.ok (), after) ∧ after.Quiet name table :=
  ⟨_, rfl, quiet.found, quiet.view, quiet.triggers, quiet.references, quiet.unreferenced⟩

theorem noteInserted (quiet : tables.Quiet name table) (lastInserted : Int) :
    ∃ after, (modify fun tables => { tables with lastInserted } : Change Unit) tables = (.ok (), after) ∧
      after.lastInserted = lastInserted ∧ after.Quiet name table :=
  ⟨_, rfl, rfl, quiet.found, quiet.view, quiet.triggers, quiet.references, quiet.unreferenced⟩

theorem relation? (quiet : tables.Quiet name table) : tables.relation? name = some table := by
  rw [Tables.relation?, quiet.found, Option.map_some]
  congr 1
  split
  · next view _ isView _ =>
    rw [quiet.view] at isView
    cases isView
  · rfl

theorem relation (quiet : tables.Quiet name table) : Change.relation name tables = (.ok table, tables) := by
  unfold Change.relation
  rw [Change.bind_of_ok Change.get_run, quiet.relation?]
  rfl

theorem act (quiet : tables.Quiet name table) {bound : Nat} {busy : List String} {policy : Option Remedy}
    {isEarly : Bool} {event : TriggerEvent} {former next : Option TableRow} :
    (Change.reaction (bound + 1) busy).act policy name isEarly event former next tables = (.ok true, tables) := by
  rw [Change.reaction]
  dsimp only
  rw [Change.bind_of_ok quiet.relation, quiet.triggers]
  rfl

theorem discard_act (quiet : tables.Quiet name table) {bound : Nat} {busy : List String} {policy : Option Remedy}
    {isEarly : Bool} {event : TriggerEvent} {former next : Option TableRow} :
    (discard ((Change.reaction (bound + 1) busy).act policy name isEarly event former next) : Change Unit) tables =
      (.ok (), tables) := by
  rw [Change.discard_eq_bind, Change.bind_of_ok quiet.act]
  rfl

theorem countDebts (quiet : tables.Quiet name table) {changed : Changed} {isNew : Bool} {row : TableRow} :
    Change.countDebts name changed isNew row tables = (.ok (), tables) := by
  unfold Change.countDebts
  rw [Change.bind_of_ok quiet.relation, quiet.references, List.forIn_nil, pure_bind,
    Change.bind_of_ok Change.get_run, quiet.unreferenced]
  rfl

theorem release (quiet : tables.Quiet name table) {former : TableRow} {next : Option TableRow} :
    Change.release react name former next tables = (.ok (), tables) := by
  unfold Change.release
  rw [Change.bind_of_ok Change.get_run, quiet.unreferenced]
  rfl

/-- Whether a row stays when some have been looked at, of which the kept ones stay. -/
def isLeft (kept looked : List TableRow) (row : TableRow) : Bool :=
  (kept.any fun other => other.id == row.id) || !looked.any fun other => other.id == row.id

theorem isLeft_concat (kept looked : List TableRow) (row other : TableRow) :
    isLeft kept (looked ++ [row]) other =
      (isLeft kept looked other && ((kept.any fun staying => staying.id == row.id) || other.id != row.id)) := by
  unfold isLeft
  rw [List.any_append, List.any_cons, List.any_nil]
  by_cases same : other.id = row.id
  · rw [same]
    generalize (kept.any fun other => other.id == row.id) = stays
    cases stays <;> simp
  · have different : (row.id == other.id) = false := beq_eq_false_iff_ne.mpr (Ne.symm same)
    simp [different, same]

theorem isLeft_of_mem (kept : List TableRow) {looked : List TableRow} {row : TableRow} (member : row ∈ looked) :
    isLeft kept looked row = kept.any fun other => other.id == row.id := by
  have found : looked.any (fun other => other.id == row.id) = true :=
    List.any_eq_true.mpr ⟨row, member, beq_self_eq_true _⟩
  rw [isLeft, found, Bool.not_true, Bool.or_false]

theorem filter_isLeft_of_gone {kept : List TableRow} {row : TableRow}
    (gone : (kept.any fun staying => staying.id == row.id) = false) (looked rows : List TableRow) :
    rows.filter (isLeft kept (looked ++ [row])) =
      (rows.filter (isLeft kept looked)).filter fun other => other.id != row.id := by
  rw [List.filter_filter]
  refine List.filter_congr fun other _ => ?_
  rw [isLeft_concat, gone, Bool.false_or, Bool.and_comm]

theorem filter_isLeft_of_kept {kept : List TableRow} {row : TableRow}
    (stays : (kept.any fun staying => staying.id == row.id) = true) (looked rows : List TableRow) :
    rows.filter (isLeft kept (looked ++ [row])) = rows.filter (isLeft kept looked) := by
  refine List.filter_congr fun other _ => ?_
  rw [isLeft_concat, stays, Bool.true_or, Bool.and_true]

theorem replaceRows (quiet : tables.Quiet name table) (kept : List TableRow) :
    ∃ after, Change.replaceRows react name kept tables = (.ok (), after) ∧
      after.Quiet name { table with
        rows := table.rows.filter fun row => kept.any fun other => other.id == row.id } := by
  unfold Change.replaceRows
  rw [Change.bind_of_ok quiet.relation, bind_pure_unit]
  refine Change.forIn_runs (fun rest tables => ∃ looked, table.rows = looked ++ rest ∧
    tables.Quiet name { table with rows := table.rows.filter (isLeft kept looked) })
    ⟨[], rfl, ?_⟩ (fun row rest tables state => ?_) (fun tables state => ?_)
  · rw [List.filter_eq_self.mpr fun row _ => by simp [isLeft]]
    exact quiet
  · obtain ⟨looked, all, quiet⟩ := state
    split
    · next gone =>
      obtain ⟨middle, put, fewer⟩ :=
        quiet.putRun ((table.rows.filter (isLeft kept looked)).filter fun other => other.id != row.id) table.lastId
      refine ⟨middle, ?_, looked ++ [row], by rw [all, List.append_cons], ?_⟩
      · rw [Change.bind_of_ok quiet.countDebts, Change.bind_of_ok quiet.relation, Change.bind_of_ok put,
          Change.bind_of_ok fewer.release]
        rfl
      · rw [filter_isLeft_of_gone (Bool.not_eq_true' _ ▸ gone)]
        exact fewer
    · next stays =>
      refine ⟨tables, rfl, looked ++ [row], by rw [all, List.append_cons], ?_⟩
      rw [Bool.not_eq_true', Bool.not_eq_false] at stays
      rw [filter_isLeft_of_kept stays]
      exact quiet
  · obtain ⟨looked, all, quiet⟩ := state
    rw [List.append_nil] at all
    rw [← all] at quiet
    rwa [List.filter_congr fun row member => isLeft_of_mem kept member] at quiet

end Tables.Quiet

namespace Change

variable {name : String} {table : Relation} {tables after : Tables}

/-- What becomes of a quiet table when a row is put into it: the row stands behind the others, of which those are gone
whose place it has taken, or else all rows are as before. -/
inductive Inserted (name : String) (table : Relation) (after : Tables) : Except RelationError (Option Int) → Prop
  | refused {error : RelationError} {lastId : Int} (left : after.Quiet name { table with lastId }) :
    Inserted name table after (.error error)
  | leftOut {lastId : Int} (left : after.Quiet name { table with lastId }) : Inserted name table after (.ok none)
  | placed {id : Int} {row : TableRow} {kept : List TableRow} (numbered : row.id = id) (next : table.nextId = .ok id)
    (fits : table.definition.Fits none table.rows row kept)
    (stands : after.Quiet name { table with
      rows := (table.rows.filter fun other => kept.any fun staying => staying.id == other.id) ++ [row]
      lastId := max table.lastId id })
    (told : table.definition.hasRowNumbers → after.lastInserted = id) : Inserted name table after (.ok (some id))

theorem insert_quiet (quiet : tables.Quiet name table) {bound : Nat} {busy : List String} {policy : Option Remedy}
    {values : List (String × Cell)} {result : Except RelationError (Option Int)}
    (unnumbered : table.definition.givenId? values = none)
    (ran : insert (reaction (bound + 1) busy) name policy [] [] values tables = (result, after)) :
    Inserted name table after result := by
  unfold insert at ran
  rw [bind_of_ok quiet.relation, bind_of_ok quiet.relation] at ran
  dsimp only at ran
  rw [if_neg (by simp [quiet.view])] at ran
  split at ran
  · cases ran
    exact .leftOut quiet
  · rw [unnumbered] at ran
    dsimp only at ran
    rw [pure_bind, bind_of_ok quiet.act, Bool.not_true, if_neg Bool.false_ne_true, bind_of_ok quiet.relation] at ran
    cases next : table.nextId with
    | error error =>
      rw [lift_bind_of_error next] at ran
      cases ran
      exact .refused quiet
    | ok new =>
      rw [lift_bind_of_ok next] at ran
      obtain ⟨middle, put, quiet⟩ := quiet.putRun table.rows (max table.lastId new)
      have alone : sharing? table.definition [] table.rows (table.definition.newRow new values) = none := rfl
      rw [bind_of_ok put, alone] at ran
      dsimp only at ran
      cases settled : table.definition.settle policy none table.rows (table.definition.newRow new values) with
      | error error =>
        rw [lift_bind_of_error settled] at ran
        cases ran
        exact .refused quiet
      | ok placement? =>
        rw [lift_bind_of_ok settled] at ran
        cases placement? with
        | none =>
          cases ran
          exact .leftOut quiet
        | some placement =>
          obtain ⟨row, others⟩ := placement
          obtain ⟨same, fits⟩ := TableDefinition.fits_of_settle settled
          have numbered := same.trans (table.definition.id_newRow new values)
          dsimp only at ran
          obtain ⟨middle, gone, quiet⟩ := quiet.replaceRows others
          rw [bind_of_ok gone, bind_of_ok quiet.countDebts, bind_of_ok quiet.relation] at ran
          obtain ⟨middle, put, quiet⟩ := quiet.putRun
            ((table.rows.filter fun other => others.any fun staying => staying.id == other.id) ++ [row])
            (max table.lastId new)
          rw [bind_of_ok put] at ran
          obtain ⟨middle, counted, quiet⟩ := quiet.countRow
          rw [bind_of_ok counted] at ran
          split at ran
          · obtain ⟨middle, noted, told, quiet⟩ := quiet.noteInserted new
            rw [bind_of_ok noted, bind_of_ok quiet.discard_act] at ran
            cases ran
            exact .placed numbered next fits quiet fun _ => told
          · next unnumbered =>
            rw [bind_of_ok quiet.discard_act] at ran
            cases ran
            exact .placed numbered next fits quiet fun hasNumbers => absurd hasNumbers unnumbered

/-- Numbers of rows stay distinct. -/
theorem Inserted.nodup_ids {result : Except RelationError (Option Int)} (inserted : Inserted name table after result)
    (distinct : (table.rows.map TableRow.id).Nodup) :
    ∃ next, after.Quiet name next ∧ next.definition = table.definition ∧ (next.rows.map TableRow.id).Nodup := by
  cases inserted with
  | refused left => exact ⟨_, left, rfl, distinct⟩
  | leftOut left => exact ⟨_, left, rfl, distinct⟩
  | @placed id row kept numbered next fits stands told =>
    refine ⟨_, stands, rfl, ?_⟩
    rw [List.map_append, List.map_singleton, List.nodup_append]
    refine ⟨distinct.sublist (List.filter_sublist.map _), List.nodup_singleton _, ?_⟩
    intro one member other same
    obtain ⟨former, isLeft, rfl⟩ := List.mem_map.mp member
    obtain ⟨staying, isKept, sameId⟩ := List.any_eq_true.mp (List.mem_filter.mp isLeft).2
    rw [List.mem_singleton.mp same, ← beq_iff_eq.mp sameId]
    exact fits.number staying isKept

end Change

namespace Tables

/-- A table at the start of a change: counting goes on from the number that has been written down for it. -/
def numbered (tables : Tables) (table : Relation) : Relation :=
  { table with lastId := if table.definition.countsIds then tables.sequence table.definition.name else 0 }

namespace Quiet

variable {name : String} {table : Relation} {tables : Tables}

theorem beforeChange (quiet : tables.Quiet name table) : tables.beforeChange.Quiet name (tables.numbered table) := by
  obtain ⟨found, view, triggers, references, unreferenced⟩ := quiet
  refine ⟨?_, view, triggers, references, ?_⟩
  · have names : (Relation.hasName name ∘ tables.numbered) = Relation.hasName name := rfl
    have mapped : (tables.relations.map tables.numbered).find? (Relation.hasName name) =
        some (tables.numbered table) := by
      rw [List.find?_map, names, found, Option.map_some]
    exact mapped
  · rw [referencesTo, List.flatMap_eq_nil_iff] at unreferenced ⊢
    intro other member
    obtain ⟨former, isThere, rfl⟩ := List.mem_map.mp member
    have none := unreferenced former isThere
    rw [List.map_eq_nil_iff] at none ⊢
    exact none

theorem putOther (quiet : tables.Quiet name table) {otherName : String} {other : Relation}
    (apart : isSameName name otherName = false) (known : tables.relation? otherName = some other)
    (rows : List TableRow) : (tables.put { other with rows }).Quiet name table := by
  obtain ⟨found, view, triggers, references, unreferenced⟩ := quiet
  rw [Tables.relation?, Option.map_eq_some_iff] at known
  obtain ⟨stored, isStored, same⟩ := known
  have shapes : other.definition.name = stored.definition.name ∧
      other.definition.references = stored.definition.references := by
    subst same
    split <;> exact ⟨rfl, rfl⟩
  have different : table.hasName other.definition.name = false := by
    have own : isSameName table.definition.name name := Relation.isSameName_of_find? found
    have others : isSameName stored.definition.name otherName := Relation.isSameName_of_find? isStored
    rw [Relation.hasName, shapes.1]
    simp only [isSameName, beq_iff_eq, beq_eq_false_iff_ne] at own others apart ⊢
    rwa [own, others]
  refine ⟨?_, view, triggers, references, ?_⟩
  · have names : (Relation.hasName name ∘ fun former : Relation =>
        if former.hasName other.definition.name then { other with rows } else former) = Relation.hasName name :=
      funext (@hasName_replaced { other with rows } name)
    rw [Tables.put, List.find?_map, names, found, Option.map_some, if_neg (Bool.eq_false_iff.mp different)]
  · rw [referencesTo, List.flatMap_eq_nil_iff] at unreferenced ⊢
    intro relation member
    obtain ⟨former, isThere, rfl⟩ := List.mem_map.mp member
    split
    · have none := unreferenced stored (List.mem_of_find?_eq_some isStored)
      rw [List.map_eq_nil_iff] at none ⊢
      rwa [shapes.2]
    · exact unreferenced former isThere

theorem setSequence (quiet : tables.Quiet name table) (apart : isSameName name sequenceName = false) (counted : String)
    (number : Int) : (tables.setSequence counted number).Quiet name table := by
  unfold Tables.setSequence
  split
  · exact quiet
  · next sequences found =>
    dsimp only
    split
    · exact quiet.putOther apart found _
    · exact quiet.putOther apart found _

theorem keepSequences (quiet : tables.Quiet name table) (apart : isSameName name sequenceName = false)
    (before : Tables) : (before.keepSequences tables).Quiet name table := by
  unfold Tables.keepSequences
  generalize tables.relations = relations
  induction relations generalizing tables with
  | nil => exact quiet
  | cons relation rest ih =>
    rw [List.foldl_cons]
    refine ih ?_
    dsimp only
    split
    · exact quiet.setSequence apart _ _
    · exact quiet

theorem reaction (quiet : tables.Quiet name table) : ∃ bound, tables.reaction = Change.reaction (bound + 1) [] := by
  unfold Tables.reaction
  dsimp only
  rw [← List.sum_eq_foldl]
  cases listed : tables.relations with
  | nil =>
    have found := quiet.found
    rw [listed] at found
    cases found
  | cons relation rest =>
    rw [List.map_cons, List.sum_cons, Nat.add_right_comm]
    exact ⟨_, rfl⟩

end Quiet

theorem lastInserted_setSequence (tables : Tables) (name : String) (number : Int) :
    (tables.setSequence name number).lastInserted = tables.lastInserted := by
  unfold setSequence
  split
  · rfl
  · dsimp only
    split <;> rfl

theorem lastInserted_keepSequences (before tables : Tables) :
    (before.keepSequences tables).lastInserted = tables.lastInserted := by
  unfold keepSequences
  generalize tables.relations = relations
  induction relations generalizing tables with
  | nil => rfl
  | cons relation rest ih =>
    rw [List.foldl_cons, ih]
    dsimp only
    split
    · exact lastInserted_setSequence _ _ _
    · rfl

theorem run_insert_quiet {name : String} {table : Relation} {tables : Tables} (quiet : tables.Quiet name table)
    (apart : isSameName name sequenceName = false) {policy : Option Remedy} {values : List (String × Cell)}
    {result : Except RelationError (Option Int)} {after : Tables}
    (unnumbered : table.definition.givenId? values = none)
    (ran : tables.run (Change.insert tables.reaction name policy [] [] values) = (result, after)) :
    Change.Inserted name (tables.numbered table) after result := by
  obtain ⟨bound, reacts⟩ := quiet.reaction
  rcases tables.run_cases (Change.insert tables.reaction name policy [] [] values) with
    ⟨error, refused⟩ | ⟨result, changed, ended, -, -, kept⟩
  · obtain ⟨rfl, rfl⟩ := Prod.mk.inj (refused.symm.trans ran)
    exact .refused quiet
  · obtain ⟨rfl, rfl⟩ := Prod.mk.inj (kept.symm.trans ran)
    rw [reacts] at ended
    have quietly {table : Relation} (quiet : changed.Quiet name table) : Quiet { tables.keepSequences changed with
        changes := changed.counted, totalChanges := changed.totalChanges + changed.counted } name table :=
      have quiet := quiet.keepSequences apart tables
      ⟨quiet.found, quiet.view, quiet.triggers, quiet.references, quiet.unreferenced⟩
    cases Change.insert_quiet quiet.beforeChange unnumbered ended with
    | refused left => exact .refused (quietly left)
    | leftOut left => exact .leftOut (quietly left)
    | placed numbered next fits stands told =>
      exact .placed numbered next fits (quietly stands) fun hasNumbers =>
        (lastInserted_keepSequences _ _).trans (told hasNumbers)

def runInsert (name : String) (tables : Tables) (insertion : Option Remedy × List (String × Cell)) : Tables :=
  (tables.run (Change.insert tables.reaction name insertion.1 [] [] insertion.2)).2

/-- However many rows are put into a quiet table, each of them has a number of its own. -/
theorem nodup_ids_of_insertions {name : String} {table : Relation} {tables : Tables} (quiet : tables.Quiet name table)
    (apart : isSameName name sequenceName = false) (distinct : (table.rows.map TableRow.id).Nodup)
    {insertions : List (Option Remedy × List (String × Cell))}
    (unnumbered : ∀ insertion ∈ insertions, table.definition.givenId? insertion.2 = none) :
    ∃ last, (insertions.foldl (runInsert name) tables).Quiet name last ∧ (last.rows.map TableRow.id).Nodup := by
  induction insertions generalizing tables table with
  | nil => exact ⟨table, quiet, distinct⟩
  | cons insertion rest ih =>
    obtain ⟨first, others⟩ := List.forall_mem_cons.mp unnumbered
    have inserted : Change.Inserted name (tables.numbered table) (runInsert name tables insertion)
        (tables.run (Change.insert tables.reaction name insertion.1 [] [] insertion.2)).1 :=
      run_insert_quiet quiet apart first rfl
    obtain ⟨next, quiet, same, distinct⟩ := inserted.nodup_ids distinct
    exact ih quiet distinct (same ▸ others)

end Tables

namespace ForeignStore

def recordValues (record : SubmissionRecord) : List (String × Cell) :=
  [("form_id", Cell.ofString record.formId), ("payload_json", .ofString record.payload.compact),
    ("status", .ofString record.status.code), ("created_at_ms", .integer record.createdAt),
    ("updated_at_ms", .integer record.updatedAt)]

/-- Where nothing else happens in a store of another program, a record becomes one row with the number that is given
back, or a key of the table says that it is left out. -/
theorem insert_quiet {store : ForeignStore} {record : SubmissionRecord} {shown : SubmissionRow} {table : Relation}
    (quiet : store.tables.Quiet tableName table) (unnumbered : table.definition.givenId? (recordValues record) = none)
    (inserted : (store.insert record).1 = .ok shown) :
    ∃ id?, Change.Inserted tableName (store.tables.numbered table) (store.insert record).2.tables (.ok id?) ∧
      shown.id = (store.insert record).2.tables.lastInserted := by
  unfold insert at inserted ⊢
  split at inserted
  · cases inserted
  · next ordered =>
    rw [if_neg ordered]
    dsimp only at inserted ⊢
    split at inserted
    · cases inserted
    · next result changed ran =>
      split at inserted
      · cases inserted
      · next sound =>
        rw [if_neg sound]
        obtain rfl := Except.ok.inj inserted
        refine ⟨result, ?_, rfl⟩
        unfold ForeignStore.change at ran
        split at ran
        · cases ran
        · obtain ⟨succeeded, rfl⟩ := Prod.mk.inj ran
          exact Tables.run_insert_quiet quiet (by decide) unnumbered (Prod.ext succeeded rfl)

end ForeignStore

end InspectionForms
