import InspectionForms.CommandLine.Arguments
import InspectionForms.CommandLine.StorageDirectory
import InspectionForms.CommandLine.StoreFile
import InspectionForms.Edit.Fault
import InspectionForms.Schema.Reader
import InspectionForms.Store.Content
import InspectionForms.Timestamp
import InspectionForms.View.Encoding

namespace InspectionForms

inductive RunError
  | unreadable (path : String) (cause : FileError)
  | invalidSchema (path : String) (cause : SchemaError)
  | invalidScript (scriptText : String)
  | notSubmitted (cause : SubmitError StoreError)
  | store (cause : StoreError)

def RunError.message : RunError → String
  | unreadable path cause => "cannot read " ++ path ++ ": " ++ cause.message
  | invalidSchema path cause => path ++ ": " ++ cause.message
  | invalidScript scriptText => "invalid edit script: " ++ scriptFaultText scriptText
  | notSubmitted cause => cause.message
  | store cause => cause.message

abbrev FileReader := String → Except FileError String

def readFile (read : FileReader) (path : String) : Except RunError String :=
  (read path).mapError (.unreadable path)

/-- A form with the answers of a script, which is read only after the form. -/
def loadSession (read : FileReader) (schemaPath : String) (editsPath : Option String) :
    Except RunError Session := do
  let schema ← (Schema.ofText (← readFile read schemaPath)).mapError (.invalidSchema schemaPath)
  match editsPath with
  | none => return .new schema
  | some path =>
    let scriptText ← readFile read path
    match Edit.readScript? scriptText with
    | none => throw (.invalidScript scriptText)
    | some edits => return (Session.new schema).applyEdits edits

/-- What is left to do once a store is open. -/
inductive StoreTask
  | submit (session : Session)
  | draft (submission : Submission)
  | list (status : Option Status) (limit : Nat)
  | markSynced (id : Int)

/-- What a command prints before it needs a store, and what it needs the store for. -/
structure Plan where
  output : String
  task : Option StoreTask

def Command.inputPaths : Command → List String
  | fill schemaPath editsPath _ _ => schemaPath :: editsPath.toList
  | _ => []

def Session.finishTask? (session : Session) : Finish → Option StoreTask
  | .none => none
  | .submit => some (.submit session)
  | .draft => some (.draft session.submission)

def Command.plan (read : FileReader) : Command → Except RunError Plan
  | fill schemaPath editsPath render finish => do
    let session ← loadSession read schemaPath editsPath
    let output := if render then (session.schema.renderJson session.answers).pretty ++ "\n" else ""
    return ⟨output, session.finishTask? finish⟩
  | list status limit => .ok ⟨"", some (.list status limit)⟩
  | markSynced id => .ok ⟨"", some (.markSynced id)⟩

/-- The line that confirms a stored submission. -/
def confirmation (id : Int) (formId : String) (status : Status) : String :=
  (Json.ofMembers
    [("id", .ofInt id), ("formId", .string formId), ("status", .string status.code)]).compact ++ "\n"

/-- The line of a row: id, form, status and times, with tabs between them. -/
def SubmissionRow.listingLine (row : SubmissionRow) : String :=
  "\t".intercalate [intText row.id, row.formId, row.status.label, timestampText row.createdAt,
    timestampText row.updatedAt] ++ "\n"

def StoreTask.run (now : Int) (content : StoreContent) : StoreTask → Except RunError String × StoreContent
  | submit session =>
    match session.submit StoreContent.add content now with
    | (.ok receipt, _, content) => (.ok (confirmation receipt.submissionId receipt.formId .pendingSync), content)
    | (.error error, _, content) => (.error (.notSubmitted error), content)
  | draft submission =>
    match content.insert (submission.record .draft now) with
    | (.ok row, content) => (.ok (confirmation row.id row.formId row.status), content)
    | (.error error, content) => (.error (.store error), content)
  | list status limit =>
    match content.list status limit with
    | .ok rows => (.ok (String.join (rows.map SubmissionRow.listingLine)), content)
    | .error error => (.error (.store error), content)
  | markSynced id =>
    match content.setStatus id .synced now with
    | (.ok row, content) => (.ok (intText row.id ++ "\t" ++ row.status.label ++ "\n"), content)
    | (.error error, content) => (.error (.store error), content)

/-- How a run ends: success is 0, a failure 1 and a wrong command line 2. -/
structure Outcome where
  exitCode : Nat
  stdout : String
  stderr : String
  deriving DecidableEq, Repr

namespace Outcome

def success (output : String) : Outcome := ⟨0, output, ""⟩

def failure (output : String) (error : RunError) : Outcome := ⟨1, output, error.message ++ "\n"⟩

def ofTask (output : String) : Except RunError String → Outcome
  | .ok text => success (output ++ text)
  | .error error => failure output error

end Outcome

/-- What there is to do for a command line: print something at once, or go by a configuration. -/
def readCommandLine (env : Environment) (arguments : List String) : Except Outcome Config :=
  if arguments.any fun argument => argument == "-h" || argument == "--help" then .error (.success usage)
  else (Config.ofArguments env arguments).mapError fun error => ⟨2, "", error.message ++ "\n"⟩

/-- A variable counts only if it holds something besides blanks, which are cut off. -/
def trimmedEnvironment (env : Environment) : Environment := fun name =>
  ((env name).map trim).filter fun value => !value.isEmpty

namespace FileTree

def storageDirectory (tree : FileTree) (cwd : Path) (config : Config) : String :=
  config.storageDir.getD (pathText (defaultStorageDirectory tree.isCheckout cwd))

/-- Runs a configuration in a working directory. `clock` is the present, to which the configuration may prefer a time
of its own for what is written down. -/
def execute (tree : FileTree) (cwd : Path) (clock : Int) (config : Config) : Outcome × FileTree :=
  match config.command.plan (tree.readText cwd) with
  | .error error => (.failure "" error, tree)
  | .ok ⟨output, none⟩ => (.success output, tree)
  | .ok ⟨output, some task⟩ =>
    match (openStore cwd clock (tree.storageDirectory cwd config)).run tree with
    | (.error error, tree) => (.failure output (.store error), tree)
    | (.ok opened, tree) =>
      let (result, content) := task.run (config.nowMs.getD clock) opened.content
      (.ofTask output result, tree.keep opened content)

def run (tree : FileTree) (cwd : Path) (clock : Int) (env : Environment) (arguments : List String) :
    Outcome × FileTree :=
  match readCommandLine (trimmedEnvironment env) arguments with
  | .error outcome => (outcome, tree)
  | .ok config => tree.execute cwd clock config

end FileTree

end InspectionForms
