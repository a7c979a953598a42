import InspectionForms.Proofs.RowLifetime

namespace InspectionForms

/-- What can happen at a store that any number of sessions share. A session is known by its place in the order in which
they have been started. -/
inductive SharedCall
  | start (schema : Schema)
  | edit (session : Nat) (edit : Edit)
  | submit (session : Nat) (now : Int)
  | insert (record : SubmissionRecord)
  | setStatus (id : Int) (status : Status) (updatedAt : Int)
  | reopen

inductive SharedAnswer
  | done
  | submitted (session : Nat) (result : Except (SubmitError StoreError) Receipt)
  | inserted (result : Except StoreError SubmissionRow)
  | restated (result : Except StoreError SubmissionRow)

namespace SharedAnswer

/-- The id that has been given to a new row. -/
def newId? : SharedAnswer → Option Int
  | submitted _ (.ok receipt) => some receipt.submissionId
  | inserted (.ok row) => some row.id
  | _ => none

def isInsertion : SharedAnswer → Bool
  | inserted (.ok _) => true
  | _ => false

theorem isInsertion_of_newId?_eq_none {answer : SharedAnswer} (none : answer.newId? = none) :
    answer.isInsertion = false := by
  cases answer with
  | inserted result =>
    cases result with
    | ok row => cases none
    | error cause => rfl
  | _ => rfl

end SharedAnswer

/-- A store with the sessions that submit to it. -/
structure SharedStore where
  sessions : List Session
  store : Store

namespace SharedStore

def fresh : SharedStore := ⟨[], .empty⟩

/-- Nothing happens if there is no such session. -/
def call (shared : SharedStore) : SharedCall → SharedAnswer × SharedStore
  | .start schema => (.done, { shared with sessions := shared.sessions ++ [.new schema] })
  | .edit i edit =>
    match shared.sessions[i]? with
    | none => (.done, shared)
    | some session => (.done, { shared with sessions := shared.sessions.set i (session.applyEdit edit) })
  | .submit i now =>
    match shared.sessions[i]? with
    | none => (.done, shared)
    | some session =>
      let (result, session, store) := session.submit Store.add shared.store now
      (.submitted i result, ⟨shared.sessions.set i session, store⟩)
  | .insert record =>
    let (result, store) := shared.store.insert record
    (.inserted result, { shared with store })
  | .setStatus id status updatedAt =>
    let (result, store) := shared.store.setStatus id status updatedAt
    (.restated result, { shared with store })
  | .reopen => (.done, { shared with store := shared.store.reopen })

def after (shared : SharedStore) (calls : List SharedCall) : SharedStore :=
  calls.foldl (fun shared call => (shared.call call).2) shared

def answers (shared : SharedStore) : List SharedCall → List SharedAnswer
  | [] => []
  | call :: rest => (shared.call call).1 :: (shared.call call).2.answers rest

theorem after_concat (shared : SharedStore) (calls : List SharedCall) (call : SharedCall) :
    shared.after (calls ++ [call]) = ((shared.after calls).call call).2 :=
  List.foldl_append

theorem answers_concat (shared : SharedStore) (calls : List SharedCall) (call : SharedCall) :
    shared.answers (calls ++ [call]) = shared.answers calls ++ [((shared.after calls).call call).1] := by
  induction calls generalizing shared with
  | nil => rfl
  | cons first rest ih => exact congrArg (_ :: ·) (ih _)

/-- The submitted ones among some sessions stay as they are, and no other one is submitted. -/
structure SameSubmitted (sessions later : List Session) : Prop where
  places (i : Nat) (session : Session) (id : Int) : session.phase = .submitted id →
    (later[i]? = some session ↔ sessions[i]? = some session)
  count : later.countP (fun session => !session.isEditing) = sessions.countP fun session => !session.isEditing

theorem SameSubmitted.refl (sessions : List Session) : SameSubmitted sessions sessions :=
  ⟨fun _ _ _ _ => Iff.rfl, rfl⟩

theorem isEditing_eq_false {session : Session} {id : Int} (phase : session.phase = .submitted id) :
    session.isEditing = false := by
  rw [Session.isEditing, phase]
  rfl

theorem sameSubmitted_start (sessions : List Session) (schema : Schema) :
    SameSubmitted sessions (sessions ++ [.new schema]) := by
  refine ⟨fun i session id phase => ?_, ?_⟩
  · rw [List.getElem?_append]
    split
    · rfl
    · next beyond =>
      rw [List.getElem?_eq_none (by omega : sessions.length ≤ i), List.getElem?_singleton]
      split
      · refine ⟨fun same => ?_, fun same => nomatch same⟩
        obtain rfl := Option.some.inj same
        cases phase
      · rfl
  · rw [List.countP_append]
    rfl

theorem sameSubmitted_edit {sessions : List Session} {i : Nat} {session : Session}
    (atPlace : sessions[i]? = some session) (edit : Edit) :
    SameSubmitted sessions (sessions.set i (session.applyEdit edit)) := by
  obtain ⟨inList, same⟩ := List.getElem?_eq_some_iff.mp atPlace
  have unchanged : (session.applyEdit edit).isEditing = session.isEditing := session.isEditing_applyEdit edit
  refine ⟨fun j other id submitted => ?_, ?_⟩
  · rw [List.getElem?_set]
    split
    · next place =>
      subst place
      rw [atPlace]
      cases editing : session.isEditing with
      | true =>
        -- Neither the session nor the edited one is submitted, so none of them is the other one.
        have differs {found : Session} (isOpen : found.isEditing) : some found ≠ some other := by
          rintro same
          obtain rfl := Option.some.inj same
          rw [isEditing_eq_false submitted] at isOpen
          cases isOpen
        exact iff_of_false (differs (unchanged.trans editing)) (differs editing)
      | false => rw [Session.applyEdit_eq, editing, if_neg (by simp)]
    · rfl
  · have counted :
        (if (!session.isEditing) = true then 1 else 0) ≤ sessions.countP fun session => !session.isEditing := by
      split
      · next closed => exact List.countP_pos_iff.mpr ⟨session, List.mem_of_getElem? atPlace, closed⟩
      · exact Nat.zero_le _
    rw [List.countP_set inList, same, unchanged]
    omega

/-- All that a call can do. It stores nothing, or it stores one row under the next id, for itself or for a session that
has not been submitted before. -/
inductive Effect (shared : SharedStore) (table : SubmissionTable) (call : SharedCall) : Prop
  | quiet (later : SubmissionTable) : (shared.call call).1.newId? = none →
      (shared.call call).2.store.table = some later → table.Step later → later.lastId = table.lastId →
      SameSubmitted shared.sessions (shared.call call).2.sessions → Effect shared table call
  | inserted (record : SubmissionRecord) : call = .insert record → record.createdAt ≤ record.updatedAt →
      shared.call call =
        (.inserted (.ok ⟨↑(table.lastId + 1), record.formId, record.payload, record.status, record.createdAt,
            record.updatedAt⟩),
          { shared with store := { shared.store with table := some (table.push record) } }) →
      Effect shared table call
  | submitted (i : Nat) (session : Session) (now : Int) : call = .submit i now → shared.sessions[i]? = some session →
      session.isEditing →
      shared.call call =
        (.submitted i (.ok ⟨↑(table.lastId + 1), session.schema.formIdOrUnknown⟩),
          ⟨shared.sessions.set i { session with phase := .submitted ↑(table.lastId + 1) },
            { shared.store with table := some (table.push (session.pendingRecord now)) }⟩) →
      Effect shared table call

variable {shared : SharedStore} {table : SubmissionTable}

/-- A call that changes nothing. -/
theorem Effect.unchanged (present : shared.store.table = some table) {call : SharedCall} {answer : SharedAnswer}
    (same : shared.call call = (answer, shared)) (noId : answer.newId? = none) : shared.Effect table call := by
  refine .quiet table ?_ ?_ .same rfl ?_ <;> rw [same]
  · exact noId
  · exact present
  · exact .refl _

theorem call_insert_of_unordered {record : SubmissionRecord} (unordered : record.updatedAt < record.createdAt) :
    shared.call (.insert record) = (.inserted (.error .updatedBeforeCreated), shared) := by
  rw [call, Store.insert_of_unordered unordered]

theorem effect_insert (present : shared.store.table = some table) (record : SubmissionRecord) :
    shared.Effect table (.insert record) := by
  by_cases ordered : record.createdAt ≤ record.updatedAt
  · refine .inserted record rfl ordered ?_
    rw [call, Store.insert_of_table present ordered]
  · exact .unchanged present (call_insert_of_unordered (by omega)) rfl

theorem effect_submit (present : shared.store.table = some table) (i : Nat) (now : Int) :
    shared.Effect table (.submit i now) := by
  cases atPlace : shared.sessions[i]? with
  | none =>
    have nothing : shared.call (.submit i now) = (.done, shared) := by rw [call, atPlace]
    exact .unchanged present nothing rfl
  | some session =>
    cases editing : session.isEditing with
    | true =>
      refine .submitted i session now rfl atPlace editing ?_
      rw [call, atPlace]
      dsimp only
      rw [Session.submit_add editing present]
    | false =>
      obtain ⟨inList, same⟩ := List.getElem?_eq_some_iff.mp atPlace
      have refused : shared.call (.submit i now) = (.submitted i (.error .alreadySubmitted), shared) := by
        rw [call, atPlace]
        dsimp only
        rw [Session.submit, editing, if_neg (by decide)]
        dsimp only
        rw [← same, List.set_getElem_self]
      exact .unchanged present refused rfl

theorem effect_edit (present : shared.store.table = some table) (i : Nat) (edit : Edit) :
    shared.Effect table (.edit i edit) := by
  cases atPlace : shared.sessions[i]? with
  | none =>
    have nothing : shared.call (.edit i edit) = (.done, shared) := by rw [call, atPlace]
    exact .unchanged present nothing rfl
  | some session =>
    have edited : shared.call (.edit i edit) =
        (.done, { shared with sessions := shared.sessions.set i (session.applyEdit edit) }) := by
      rw [call, atPlace]
    refine .quiet table ?_ ?_ .same rfl ?_ <;> rw [edited]
    · rfl
    · exact present
    · exact sameSubmitted_edit atPlace edit

theorem call_effect (present : shared.store.table = some table) (call : SharedCall) : shared.Effect table call := by
  cases call with
  | insert record => exact effect_insert present record
  | submit i now => exact effect_submit present i now
  | edit i edit => exact effect_edit present i edit
  | start schema => exact .quiet table rfl present .same rfl (sameSubmitted_start _ schema)
  | setStatus id status updatedAt =>
    rcases Store.setStatus_cases present id status updatedAt with same | ⟨⟨row, found, inTime⟩, changed⟩
    · exact .quiet table rfl ((congrArg Store.table same).trans present) .same rfl (.refl _)
    · exact .quiet _ rfl (congrArg Store.table changed) (.restate found inTime) rfl (.refl _)
  | reopen => exact .quiet table rfl (Store.reopen_table present) .same rfl (.refl _)

/-- The session in some place has been submitted under an id by one of the calls, and its row is still in the table. -/
def SubmittedBy (calls : List SharedCall) (table : SubmissionTable) (i : Nat) (session : Session) (id : Int) : Prop :=
  ∃ before now later earlier, calls = before ++ .submit i now :: later ∧
    (fresh.after before).sessions[i]? = some earlier ∧ earlier.isEditing ∧
    session = { earlier with phase := .submitted id } ∧
    ∃ row ∈ table.rows, (StoredRow.ofRecord id (earlier.pendingRecord now)).Keeps row

theorem SubmittedBy.next {calls : List SharedCall} {later : SubmissionTable} {i : Nat} {session : Session} {id : Int}
    (submitted : SubmittedBy calls table i session id) (call : SharedCall) (step : table.Step later) :
    SubmittedBy (calls ++ [call]) later i session id := by
  obtain ⟨before, now, rest, earlier, rfl, atPlace, editing, same, row, member, keeps⟩ := submitted
  obtain ⟨kept, inLater, stays⟩ := step.kept member
  refine ⟨before, now, rest ++ [call], earlier, ?_, atPlace, editing, same, kept, inLater, keeps.trans stays⟩
  rw [List.append_assoc]
  rfl

theorem SubmittedBy.id_le {calls : List SharedCall} {i : Nat} {session : Session} {id : Int}
    (submitted : SubmittedBy calls table i session id) (sound : table.Sound) : id ≤ table.lastId := by
  obtain ⟨_, _, _, _, _, _, _, _, row, member, keeps⟩ := submitted
  calc
    id = row.id := keeps.id.symm
    _ ≤ table.lastId := sound.id_le_lastId member

/-- What holds of a store and its sessions after some calls with their answers. -/
structure Kept (calls : List SharedCall) (answers : List SharedAnswer) (shared : SharedStore)
    (table : SubmissionTable) : Prop where
  present : shared.store.table = some table
  sound : table.Sound
  ids : answers.filterMap SharedAnswer.newId? = table.rows.map StoredRow.id
  count : table.rows.length =
    shared.sessions.countP (fun session => !session.isEditing) + answers.countP SharedAnswer.isInsertion
  origins (i : Nat) (session : Session) (id : Int) : shared.sessions[i]? = some session →
    session.phase = .submitted id → SubmittedBy calls table i session id
  apart (i j : Nat) (session other : Session) (id : Int) : shared.sessions[i]? = some session →
    shared.sessions[j]? = some other → session.phase = .submitted id → other.phase = .submitted id → i = j

theorem kept_fresh : Kept [] [] fresh .empty :=
  ⟨rfl, SubmissionTable.sound_empty, rfl, rfl, fun _ _ _ found => (nomatch found),
    fun _ _ _ _ _ found => (nomatch found)⟩

variable {calls : List SharedCall} {answers : List SharedAnswer}

/-- A call that stores nothing. -/
theorem Kept.quiet (kept : Kept calls answers shared table) {call : SharedCall} {later : SubmissionTable}
    (noId : (shared.call call).1.newId? = none) (present : (shared.call call).2.store.table = some later)
    (step : table.Step later) (lastId : later.lastId = table.lastId)
    (same : SameSubmitted shared.sessions (shared.call call).2.sessions) :
    Kept (calls ++ [call]) (answers ++ [(shared.call call).1]) (shared.call call).2 later := by
  have sound := kept.sound.step step
  refine ⟨present, sound, ?ids, ?count, fun i session id atPlace phase => ?origins,
    fun i j session other id atPlace atOther phase phaseOther => ?apart⟩
  case ids =>
    rw [List.filterMap_append, List.filterMap_cons_none noId, List.filterMap_nil, List.append_nil, kept.ids, sound.ids,
      kept.sound.ids, lastId]
  case count =>
    have none := SharedAnswer.isInsertion_of_newId?_eq_none noId
    have before := kept.count
    rw [kept.sound.length_rows] at before
    rw [sound.length_rows, lastId, same.count, List.countP_append, List.countP_singleton, none, before]
    rfl
  case origins =>
    exact (kept.origins i session id ((same.places i session id phase).mp atPlace) phase).next call step
  case apart =>
    exact kept.apart i j session other id ((same.places i session id phase).mp atPlace)
      ((same.places j other id phaseOther).mp atOther) phase phaseOther

theorem filterMap_newId?_concat (answers : List SharedAnswer) {answer : SharedAnswer} {id : Int}
    (new : answer.newId? = some id) :
    (answers ++ [answer]).filterMap SharedAnswer.newId? = answers.filterMap SharedAnswer.newId? ++ [id] := by
  rw [List.filterMap_append, List.filterMap_cons_some new, List.filterMap_nil]

theorem Kept.inserted (kept : Kept calls answers shared table) {call : SharedCall} {record : SubmissionRecord}
    (ordered : record.createdAt ≤ record.updatedAt)
    (stored : shared.call call =
      (.inserted (.ok ⟨↑(table.lastId + 1), record.formId, record.payload, record.status, record.createdAt,
          record.updatedAt⟩),
        { shared with store := { shared.store with table := some (table.push record) } })) :
    Kept (calls ++ [call]) (answers ++ [(shared.call call).1]) (shared.call call).2 (table.push record) := by
  have step : table.Step (table.push record) := .push ordered
  rw [stored]
  refine ⟨rfl, kept.sound.step step, ?ids, ?count,
    fun i session id atPlace phase => (kept.origins i session id atPlace phase).next call step, kept.apart⟩
  case ids =>
    rw [filterMap_newId?_concat answers rfl, kept.ids, SubmissionTable.push, List.map_append]
    rfl
  case count =>
    rw [SubmissionTable.push, List.length_append, kept.count, List.countP_append]
    rfl

theorem Kept.submitted (kept : Kept calls answers (fresh.after calls) table) {i : Nat} {session : Session} {now : Int}
    (atPlace : (fresh.after calls).sessions[i]? = some session) (editing : session.isEditing)
    (stored : (fresh.after calls).call (.submit i now) =
      (.submitted i (.ok ⟨↑(table.lastId + 1), session.schema.formIdOrUnknown⟩),
        ⟨(fresh.after calls).sessions.set i { session with phase := .submitted ↑(table.lastId + 1) },
          { (fresh.after calls).store with table := some (table.push (session.pendingRecord now)) }⟩)) :
    Kept (calls ++ [.submit i now]) (answers ++ [((fresh.after calls).call (.submit i now)).1])
      ((fresh.after calls).call (.submit i now)).2 (table.push (session.pendingRecord now)) := by
  obtain ⟨inList, same⟩ := List.getElem?_eq_some_iff.mp atPlace
  have step : table.Step (table.push (session.pendingRecord now)) := .push (Int.le_refl now)
  -- A submitted session is the one of this call, or it has been submitted before under an id that was given out before.
  have places (j : Nat) (other : Session) (id : Int)
      (found : ((fresh.after calls).sessions.set i { session with phase := .submitted ↑(table.lastId + 1) })[j]? =
        some other) (phase : other.phase = .submitted id) :
      j = i ∧ other = { session with phase := .submitted ↑(table.lastId + 1) } ∧ id = ↑(table.lastId + 1) ∨
      (fresh.after calls).sessions[j]? = some other ∧ id ≤ table.lastId := by
    rw [List.getElem?_set] at found
    split at found
    · next place =>
      obtain rfl := Option.some.inj found
      exact .inl ⟨place.symm, rfl, (Phase.submitted.inj phase).symm⟩
    · exact .inr ⟨found, (kept.origins j other id found phase).id_le kept.sound⟩
  rw [stored]
  refine ⟨rfl, kept.sound.step step, ?ids, ?count, fun j other id found phase => ?origins,
    fun j k one other id found foundOther phase phaseOther => ?apart⟩
  case ids =>
    rw [filterMap_newId?_concat answers rfl, kept.ids, SubmissionTable.push, List.map_append]
    rfl
  case count =>
    have before := kept.count
    have closed : (!({ session with phase := .submitted ↑(table.lastId + 1) } : Session).isEditing) = true := rfl
    rw [SubmissionTable.push, List.length_append, before, List.countP_append, List.countP_set inList, same, editing,
      closed]
    simp only [Bool.not_true, Bool.false_eq_true, if_false, if_true, List.length_singleton]
    have none : [SharedAnswer.submitted i (.ok ⟨↑(table.lastId + 1), session.schema.formIdOrUnknown⟩)].countP
      SharedAnswer.isInsertion = 0 := rfl
    omega
  case origins =>
    rcases places j other id found phase with ⟨rfl, rfl, rfl⟩ | ⟨old, _⟩
    · refine ⟨calls, now, [], session, rfl, atPlace, editing, rfl, _, ?_, .refl _⟩
      exact List.mem_append_right _ (List.mem_singleton_self _)
    · exact (kept.origins j other id old phase).next (.submit i now) step
  case apart =>
    rcases places j one id found phase with ⟨rfl, -, new⟩ | ⟨old, bound⟩
    · rcases places k other id foundOther phaseOther with ⟨rfl, -⟩ | ⟨_, boundOther⟩
      · rfl
      · omega
    · rcases places k other id foundOther phaseOther with ⟨rfl, -, new⟩ | ⟨oldOther, _⟩
      · omega
      · exact kept.apart j k one other id old oldOther phase phaseOther

/-- What a store and its sessions keep, whatever is called. -/
theorem exists_kept (calls : List SharedCall) :
    ∃ table, Kept calls (fresh.answers calls) (fresh.after calls) table := by
  induction calls using List.reverseRecOn with
  | nil => exact ⟨_, kept_fresh⟩
  | append_singleton calls call ih =>
    obtain ⟨table, kept⟩ := ih
    rw [after_concat, answers_concat]
    cases call_effect kept.present call with
    | quiet later noId present step lastId same => exact ⟨later, kept.quiet noId present step lastId same⟩
    | inserted record _ ordered stored => exact ⟨_, kept.inserted ordered stored⟩
    | submitted i session now called atPlace editing stored =>
      subst called
      exact ⟨_, kept.submitted atPlace editing stored⟩

theorem Kept.count_none (kept : Kept calls answers shared table) :
    shared.store.count none = .ok table.rows.length := Store.count_none_of_table kept.present

theorem Kept.length_ids (kept : Kept calls answers shared table) :
    (answers.filterMap SharedAnswer.newId?).length = table.lastId := by
  rw [kept.ids, List.length_map, kept.sound.length_rows]

theorem Kept.count_id (kept : Kept calls answers shared table) {row : StoredRow} (member : row ∈ table.rows) :
    (table.rows.map StoredRow.id).count row.id = 1 :=
  List.count_eq_one_of_mem kept.sound.nodup_ids (List.mem_map_of_mem member)

/-- No submission is lost, and none is stored twice, whatever the sessions of a store do in between. The ids count the
rows, a session that has been submitted keeps the id of its own row, and every row is there for one submission. -/
theorem submissions_kept (calls : List SharedCall) :
    let shared := fresh.after calls
    let ids := (fresh.answers calls).filterMap SharedAnswer.newId?
    ids = (List.range ids.length).map (fun n => ((n + 1 : Nat) : Int)) ∧
    (∀ record : SubmissionRecord, record.createdAt ≤ record.updatedAt →
      (shared.call (.insert record)).1.newId? = some ↑(ids.length + 1)) ∧
    (∀ record : SubmissionRecord, record.updatedAt < record.createdAt →
      shared.call (.insert record) = (.inserted (.error .updatedBeforeCreated), shared)) ∧
    (∀ (i : Nat) (session : Session) (now : Int), shared.sessions[i]? = some session → session.isEditing →
      (shared.call (.submit i now)).1.newId? = some ↑(ids.length + 1)) ∧
    (∀ (i j : Nat) (session other : Session) (id : Int), shared.sessions[i]? = some session →
      shared.sessions[j]? = some other → session.phase = .submitted id → other.phase = .submitted id → i = j) ∧
    (∃ table, shared.store.table = some table ∧ table.rows.map StoredRow.id = ids ∧
      ∀ (i : Nat) (session : Session) (id : Int), shared.sessions[i]? = some session → session.phase = .submitted id →
        ∃ before now later earlier, calls = before ++ .submit i now :: later ∧
          (fresh.after before).sessions[i]? = some earlier ∧ earlier.isEditing ∧
          session = { earlier with phase := .submitted id } ∧
          (table.rows.map StoredRow.id).count id = 1 ∧
          ∃ row ∈ table.rows, row.id = id ∧ row.formId = earlier.schema.formIdOrUnknown ∧ row.createdAt = now ∧
            row.payloadText = earlier.answers.snapshot.compact) ∧
    shared.store.count none = .ok (shared.sessions.countP (fun session => !session.isEditing) +
      (fresh.answers calls).countP SharedAnswer.isInsertion) := by
  intro shared ids
  obtain ⟨table, kept⟩ := exists_kept calls
  have present : shared.store.table = some table := kept.present
  have length : ids.length = table.lastId := kept.length_ids
  refine ⟨?ids, fun record ordered => ?inserted, fun record unordered => call_insert_of_unordered unordered,
    fun i session now atPlace editing => ?submitted, kept.apart, ⟨table, present, kept.ids.symm, ?rows⟩, ?count⟩
  case ids =>
    rw [length]
    exact kept.ids.trans kept.sound.ids
  case inserted =>
    rw [call, Store.insert_of_table present ordered, length]
    rfl
  case submitted =>
    rw [call, atPlace, length]
    dsimp only
    rw [Session.submit_add editing present]
    rfl
  case rows =>
    intro i session id atPlace phase
    obtain ⟨before, now, later, earlier, split, found, editing, same, row, member, keeps⟩ :=
      kept.origins i session id atPlace phase
    have rowId : row.id = id := keeps.id
    refine ⟨before, now, later, earlier, split, found, editing, same, ?_, row, member, rowId, keeps.formId,
      keeps.createdAt, keeps.payloadText⟩
    rw [← rowId]
    exact kept.count_id member
  case count => rw [kept.count_none, kept.count]

/-- A refused record takes no id away from the session that comes after it. -/
example :
    (fresh.answers [.start ⟨none, none, []⟩, .insert ⟨"f", .null, .draft, 2, 1⟩, .submit 0 5, .reopen,
      .insert ⟨"f", .null, .draft, 1, 2⟩]).filterMap SharedAnswer.newId? = [1, 2] := rfl

end SharedStore

end InspectionForms
