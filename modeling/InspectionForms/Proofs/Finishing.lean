import InspectionForms.CommandLine.Run
import InspectionForms.Proofs.StoreOpening
import InspectionForms.Proofs.SubmittedRows

namespace InspectionForms

/-- The status that a form is stored with in the end. -/
def Finish.status? : Finish → Option Status
  | none => .none
  | submit => some .pendingSync
  | draft => some .draft

def StoreContent.isOwn : StoreContent → Bool
  | own _ => true
  | foreign _ => false

theorem StoreContent.exists_own {content : StoreContent} (isOwn : content.isOwn) : ∃ store, content = own store := by
  cases content with
  | own store => exact ⟨store, rfl⟩
  | foreign store => cases isOwn

theorem isEditing_of_loadSession {read : FileReader} {schemaPath : String} {editsPath : Option String}
    {session : Session} (loaded : loadSession read schemaPath editsPath = .ok session) : session.isEditing := by
  simp only [loadSession, bind, Except.bind] at loaded
  split at loaded
  · cases loaded
  · split at loaded
    · cases loaded
    · split at loaded
      · obtain rfl := Except.ok.inj loaded
        rfl
      · split at loaded
        · cases loaded
        · split at loaded
          · cases loaded
          · obtain rfl := Except.ok.inj loaded
            rw [Session.isEditing, Session.phase_applyEdits]
            rfl

/-- What is printed before a form is finished. -/
def Session.renderOutput (session : Session) (render : Bool) : String :=
  if render then (session.schema.renderJson session.answers).pretty ++ "\n" else ""

/-- Both ways to finish a form add the same record to a store, but for its status. -/
theorem Session.run_finishTask {session : Session} (editing : session.isEditing) {store : Store}
    {table : SubmissionTable} (present : store.table = some table) {finish : Finish} {status : Status}
    (stored : finish.status? = some status) (now : Int) :
    ∃ task, session.finishTask? finish = some task ∧
      task.run now (.own store) =
        (.ok (confirmation ↑(table.lastId + 1) session.schema.formIdOrUnknown status),
          .own { store with table := some (table.push (session.submission.record status now)) }) := by
  cases finish with
  | none => cases stored
  | submit =>
    obtain rfl := Option.some.inj stored
    refine ⟨_, rfl, ?_⟩
    rw [StoreTask.run, Session.submit, if_pos editing, StoreContent.add, Store.add,
      Store.insert_of_table present (Int.le_refl now)]
    rfl
  | draft =>
    obtain rfl := Option.some.inj stored
    refine ⟨_, rfl, ?_⟩
    rw [StoreTask.run, StoreContent.insert, Store.insert_of_table present (Int.le_refl now)]
    rfl

namespace FileTree

variable {tree : FileTree} {path : Path}

theorem storedRows_remove_all {leftovers : List Path} (outside : ∀ leftover ∈ leftovers, ¬ leftover <+: path) :
    (leftovers.foldl remove tree).storedRows path = tree.storedRows path := by
  induction leftovers generalizing tree with
  | nil => rfl
  | cons leftover rest ih =>
    obtain ⟨first, others⟩ := List.forall_mem_cons.mp outside
    exact (ih others).trans (sameLeaf_remove first).storedRows

/-- The rows of a store that is put back are those that are read from where it is kept. -/
theorem storedRows_keep {first : FileTree} {opened : OpenedStore} (continues : opened.Continues first tree)
    {home : StoreHome} (kept : opened.home = some home) (content : StoreContent) :
    (tree.keep opened content).storedRows home.path = content.ownRows := by
  rw [keep, kept]
  exact (storedRows_remove_all (continues.leftovers home kept)).trans
    ((continues.place home kept).storedRows_put (.database content home.hasLog))

/-- Fills a form and finishes it, by a configuration that says the rest. -/
def fill (tree : FileTree) (cwd : Path) (clock : Int) (config : Config) (schemaPath : String)
    (editsPath : Option String) (render : Bool) (finish : Finish) : Outcome × FileTree :=
  tree.execute cwd clock { config with command := .fill schemaPath editsPath render finish }

/-- The store of a configuration is one of our own, if it can be opened at all. The tables of another program can
refuse a draft and take a submission. -/
def HasIntactStore (tree : FileTree) (cwd : Path) (clock : Int) (config : Config) : Prop :=
  ∀ opened later, (openStore cwd clock (tree.storageDirectory cwd config)).run tree = (.ok opened, later) →
    opened.content.isOwn

variable {cwd : Path} {clock : Int} {config : Config} {schemaPath : String} {editsPath : Option String} {render : Bool}

theorem fill_of_load_error {error : RunError}
    (rejected : loadSession (tree.readText cwd) schemaPath editsPath = .error error) (finish : Finish) :
    tree.fill cwd clock config schemaPath editsPath render finish = (.failure "" error, tree) := by
  rw [fill, execute, Command.plan, rejected]
  rfl

variable {session : Session} {later : FileTree}

theorem fill_of_load (loaded : loadSession (tree.readText cwd) schemaPath editsPath = .ok session) {finish : Finish}
    {task : StoreTask} (same : session.finishTask? finish = some task) :
    tree.fill cwd clock config schemaPath editsPath render finish =
      match (openStore cwd clock (tree.storageDirectory cwd config)).run tree with
      | (.error error, later) => (.failure (session.renderOutput render) (.store error), later)
      | (.ok opened, later) =>
        let (result, content) := task.run (config.nowMs.getD clock) opened.content
        (.ofTask (session.renderOutput render) result, later.keep opened content) := by
  rw [fill, execute, Command.plan, loaded]
  simp only [bind, Except.bind, pure, Except.pure, same]
  rfl

theorem fill_of_open_error (loaded : loadSession (tree.readText cwd) schemaPath editsPath = .ok session)
    {error : StoreError} (failed : (openStore cwd clock (tree.storageDirectory cwd config)).run tree = (.error error, later))
    (finish : Finish) {status : Status} (stored : finish.status? = some status) :
    tree.fill cwd clock config schemaPath editsPath render finish =
      (.failure (session.renderOutput render) (.store error), later) := by
  cases finish with
  | none => cases stored
  | submit => rw [fill_of_load loaded rfl, failed]
  | draft => rw [fill_of_load loaded rfl, failed]

theorem fill_of_opened (loaded : loadSession (tree.readText cwd) schemaPath editsPath = .ok session)
    {opened : OpenedStore} (ran : (openStore cwd clock (tree.storageDirectory cwd config)).run tree = (.ok opened, later))
    {store : Store} (own : opened.content = .own store) {table : SubmissionTable} (present : store.table = some table)
    (finish : Finish) {status : Status} (stored : finish.status? = some status) :
    tree.fill cwd clock config schemaPath editsPath render finish =
      (.success (session.renderOutput render ++
          confirmation ↑(table.lastId + 1) session.schema.formIdOrUnknown status),
        later.keep opened (.own { store with
          table := some (table.push (session.submission.record status (config.nowMs.getD clock))) })) := by
  obtain ⟨task, same, done⟩ :=
    Session.run_finishTask (isEditing_of_loadSession loaded) present stored (config.nowMs.getD clock)
  rw [fill_of_load loaded same, ran]
  dsimp only
  rw [own, done]
  rfl

/-- An intact store has a table, and what has been stored before and after can be read from its file. -/
theorem HasIntactStore.exists_table (intact : tree.HasIntactStore cwd clock config) {opened : OpenedStore}
    (ran : (openStore cwd clock (tree.storageDirectory cwd config)).run tree = (.ok opened, later)) :
    ∃ table versionText, opened.content = .own ⟨some table, versionText⟩ ∧
      ∀ home, opened.home = some home → tree.storedRows home.path = table.rows ∧
        ∀ content, (later.keep opened content).storedRows home.path = content.ownRows := by
  obtain ⟨⟨table?, versionText⟩, own⟩ := StoreContent.exists_own (intact opened later ran)
  have continues := continues_of_openStore ran
  obtain ⟨table, rfl, rows⟩ := continues.table _ own
  exact ⟨table, versionText, own, fun home kept => ⟨(rows home kept).symm, storedRows_keep continues kept⟩⟩

theorem exitCode_fill (intact : tree.HasIntactStore cwd clock config) :
    (tree.fill cwd clock config schemaPath editsPath render .draft).1.exitCode =
      (tree.fill cwd clock config schemaPath editsPath render .submit).1.exitCode := by
  cases loaded : loadSession (tree.readText cwd) schemaPath editsPath with
  | error error => rw [fill_of_load_error loaded, fill_of_load_error loaded]
  | ok session =>
    cases ran : (openStore cwd clock (tree.storageDirectory cwd config)).run tree with
    | mk result later =>
      cases result with
      | error error => rw [fill_of_open_error loaded ran .draft rfl, fill_of_open_error loaded ran .submit rfl]
      | ok opened =>
        obtain ⟨table, versionText, own, _⟩ := intact.exists_table ran
        have asDraft : (tree.fill cwd clock config schemaPath editsPath render .draft).1.exitCode = 0 :=
          congrArg (·.1.exitCode) (fill_of_opened loaded ran own rfl .draft rfl)
        have asSubmit : (tree.fill cwd clock config schemaPath editsPath render .submit).1.exitCode = 0 :=
          congrArg (·.1.exitCode) (fill_of_opened loaded ran own rfl .submit rfl)
        exact asDraft.trans asSubmit.symm

/-- A form that is finished as a draft is stored as if it were submitted, but for the status. Nothing is stored if the
form or the script cannot be read. -/
theorem fill_draft_submit (tree : FileTree) (cwd : Path) (clock : Int) (config : Config) (schemaPath : String)
    (editsPath : Option String) (render : Bool) (intact : tree.HasIntactStore cwd clock config) :
    let draft := tree.fill cwd clock config schemaPath editsPath render .draft
    let submit := tree.fill cwd clock config schemaPath editsPath render .submit
    let loading := loadSession (tree.readText cwd) schemaPath editsPath
    let opening := (openStore cwd clock (tree.storageDirectory cwd config)).run tree
    let now := config.nowMs.getD clock
    draft.1.exitCode = submit.1.exitCode ∧
    (∀ error, loading = .error error → draft = (.failure "" error, tree) ∧ submit = (.failure "" error, tree)) ∧
    (∀ session error later, loading = .ok session → opening = (.error error, later) →
      draft = (.failure (session.renderOutput render) (.store error), later) ∧ submit = draft) ∧
    ∀ session opened later, loading = .ok session → opening = (.ok opened, later) →
      draft.1.exitCode = 0 ∧
      ∃ table versionText, opened.content = .own ⟨some table, versionText⟩ ∧
        let row (status : Status) : StoredRow :=
          ⟨↑(table.lastId + 1), session.schema.formIdOrUnknown, session.answers.snapshot.compact, status.code, now, now⟩
        let store (status : Status) : Store := ⟨some ⟨table.rows ++ [row status], table.lastId + 1⟩, versionText⟩
        draft.2 = later.keep opened (.own (store .draft)) ∧ submit.2 = later.keep opened (.own (store .pendingSync)) ∧
        ∀ home, opened.home = some home → tree.storedRows home.path = table.rows ∧
          draft.2.storedRows home.path = table.rows ++ [row .draft] ∧
          submit.2.storedRows home.path = table.rows ++ [row .pendingSync] := by
  intro draft submit loading opening now
  refine ⟨exitCode_fill intact,
    fun error rejected => ⟨fill_of_load_error rejected .draft, fill_of_load_error rejected .submit⟩,
    fun session error later loaded failed => ?closed, fun session opened later loaded ran => ?stored⟩
  case closed =>
    have asDraft : draft = _ := fill_of_open_error loaded failed .draft rfl
    have asSubmit : submit = _ := fill_of_open_error loaded failed .submit rfl
    exact ⟨asDraft, asSubmit.trans asDraft.symm⟩
  case stored =>
    obtain ⟨table, versionText, own, rows⟩ := intact.exists_table ran
    have asDraft : draft = _ := fill_of_opened loaded ran own rfl .draft rfl
    have asSubmit : submit = _ := fill_of_opened loaded ran own rfl .submit rfl
    refine ⟨congrArg (·.1.exitCode) asDraft, table, versionText, own, congrArg Prod.snd asDraft,
      congrArg Prod.snd asSubmit, fun home kept => ⟨(rows home kept).1, ?_, ?_⟩⟩
    · rw [asDraft]
      exact (rows home kept).2 _
    · rw [asSubmit]
      exact (rows home kept).2 _

/-- A form without sections beside a store with one draft. -/
def oneDraft : FileTree :=
  ⟨[(utf8 "form.json", .file (utf8 "\x7b\x7d")),
    (utf8 "store", .directory
      [(utf8 databaseName, .database (.own ⟨some ⟨[⟨1, "f", "null", "draft", 3, 4⟩], 1⟩, "1"⟩) true)])]⟩

def storeAtSeven : Config := ⟨some "store", "warn", some 7, .list none 50⟩

theorem hasIntactStore_oneDraft : oneDraft.HasIntactStore [] 0 storeAtSeven := by
  intro opened later ran
  have own : ((openStore [] 0 "store").run oneDraft).1.toOption.all fun opened => opened.content.isOwn := by
    decide +kernel
  have same : oneDraft.storageDirectory [] storeAtSeven = "store" := rfl
  rw [← same, ran] at own
  exact own

theorem fill_draft_submit_oneDraft :
    let draft := oneDraft.fill [] 0 storeAtSeven "form.json" none true .draft
    let submit := oneDraft.fill [] 0 storeAtSeven "form.json" none true .submit
    oneDraft.HasIntactStore [] 0 storeAtSeven ∧ draft.1.exitCode = submit.1.exitCode ∧ draft.1.exitCode = 0 ∧
      draft.2.storedRows [utf8 "store", utf8 databaseName] =
        [⟨1, "f", "null", "draft", 3, 4⟩, ⟨2, "unknown", "\x7b\x7d", "draft", 7, 7⟩] ∧
      submit.2.storedRows [utf8 "store", utf8 databaseName] =
        [⟨1, "f", "null", "draft", 3, 4⟩, ⟨2, "unknown", "\x7b\x7d", "pending_sync", 7, 7⟩] :=
  ⟨hasIntactStore_oneDraft,
    (fill_draft_submit oneDraft [] 0 storeAtSeven "form.json" none true hasIntactStore_oneDraft).1,
    by decide +kernel, by decide +kernel, by decide +kernel⟩

end FileTree

end InspectionForms
