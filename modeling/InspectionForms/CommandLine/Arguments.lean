import InspectionForms.Status
import InspectionForms.Text.Digits

namespace InspectionForms

def usage : String :=
  "insp_runner: fill, submit and inspect schema-driven inspection forms headlessly\n\n" ++
  "USAGE:\n" ++
  "insp_runner --schema FILE [--edits FILE] [--render] [--submit | --draft]\n" ++
  "insp_runner --list [--status draft|pending_sync|synced] [--limit N]\n" ++
  "insp_runner --mark-synced ID\n\n" ++
  "COMMON:\n" ++
  "--storage-dir DIR   submission store (env INSP_STORAGE_DIR; default <repo>/.inspection)\n" ++
  "--now-ms MS         fixed clock for scripted runs\n" ++
  "--log FILTER        tracing filter (env INSP_LOG; default warn)\n\n" ++
  "NOTES:\n" ++
  "- `--edits` takes a JSON array of \x7b\"op\":\"field\"|\"cell\"|\"attach\", ...\x7d steps.\n" ++
  "- Without `--submit`/`--draft` the rendered form is printed as JSON.\n" ++
  "- `--submit` queues the raw state as pending_sync; `--draft` stores it as a draft.\n"

/-- A flag that takes the argument behind it, whatever that looks like. -/
inductive ValueFlag
  | storageDir
  | schema
  | edits
  | log
  | nowMs
  | status
  | limit
  | markSynced
  deriving DecidableEq, Repr

/-- A flag that stands alone. -/
inductive Switch
  | render
  | submit
  | draft
  | list
  deriving DecidableEq, Repr

inductive ArgumentError
  | valueMissing (flag : ValueFlag)
  | valueInvalid (flag : ValueFlag)
  | unknownArgument (argument : String)
  | submitAndDraft
  | listAndMarkSynced
  | schemaMissing
  deriving DecidableEq, Repr

namespace ValueFlag

def all : List ValueFlag := [storageDir, schema, edits, log, nowMs, status, limit, markSynced]

def name : ValueFlag → String
  | storageDir => "--storage-dir"
  | schema => "--schema"
  | edits => "--edits"
  | log => "--log"
  | nowMs => "--now-ms"
  | status => "--status"
  | limit => "--limit"
  | markSynced => "--mark-synced"

def placeholder : ValueFlag → String
  | storageDir => "DIR"
  | schema => "FILE"
  | edits => "FILE"
  | log => "FILTER"
  | nowMs => "MS"
  | status => "STATUS"
  | limit => "N"
  | markSynced => "ID"

def ofName? (name : String) : Option ValueFlag := all.find? fun flag => flag.name == name

def Value : ValueFlag → Type
  | storageDir | schema | edits | log => String
  | nowMs | markSynced => Int
  | status => Status
  | limit => Nat

def readValue? : (flag : ValueFlag) → String → Option flag.Value
  | storageDir, text | schema, text | edits, text | log, text => some text
  | nowMs, text | markSynced, text => readInt64? text
  | status, text => Status.ofText? text
  | limit, text => readNat64? text

/-- The complaint about a value that cannot be read. Paths and filters can always be read. -/
def invalidMessage : ValueFlag → String
  | nowMs => "--now-ms must be an integer (epoch ms)"
  | status => "invalid --status (expected draft|pending_sync|synced)"
  | limit => "--limit must be an integer"
  | markSynced => "--mark-synced must be an integer id"
  | flag => flag.name ++ " is invalid"

end ValueFlag

namespace Switch

def all : List Switch := [render, submit, draft, list]

def name : Switch → String
  | render => "--render"
  | submit => "--submit"
  | draft => "--draft"
  | list => "--list"

def ofName? (name : String) : Option Switch := all.find? fun switch => switch.name == name

end Switch

def ArgumentError.message : ArgumentError → String
  | valueMissing flag => flag.name ++ " requires " ++ flag.placeholder
  | valueInvalid flag => flag.invalidMessage
  | unknownArgument argument => "Unknown arg: " ++ argument ++ "\n\n" ++ usage
  | submitAndDraft => "--submit and --draft are mutually exclusive"
  | listAndMarkSynced => "--list and --mark-synced are mutually exclusive"
  | schemaMissing => "--schema is required\n\n" ++ usage

/-- What one flag asks for. -/
inductive Setting
  | value (flag : ValueFlag) (value : flag.Value)
  | switch (switch : Switch)

/-- Reads the flags from left to right, up to the first that is wrong. -/
def readSettings : List String → Except ArgumentError (List Setting)
  | [] => .ok []
  | argument :: rest =>
    match ValueFlag.ofName? argument, Switch.ofName? argument with
    | some flag, _ =>
      match rest with
      | [] => .error (.valueMissing flag)
      | value :: rest =>
        match flag.readValue? value with
        | none => .error (.valueInvalid flag)
        | some value => (readSettings rest).map (.value flag value :: ·)
    | none, some switch => (readSettings rest).map (.switch switch :: ·)
    | none, none => .error (.unknownArgument argument)

inductive Finish
  | none
  | submit
  | draft
  deriving DecidableEq, Repr

inductive Command
  | fill (schemaPath : String) (editsPath : Option String) (render : Bool) (finish : Finish)
  | list (status : Option Status) (limit : Nat)
  | markSynced (id : Int)
  deriving DecidableEq, Repr

structure Config where
  /-- None stands for the default directory. -/
  storageDir : Option String
  logFilter : String
  nowMs : Option Int
  command : Command
  deriving DecidableEq, Repr

abbrev Environment := String → Option String

def defaultLogFilter : String := "warn"

def defaultListLimit : Nat := 50

namespace Setting

def valueOf? (flag : ValueFlag) : Setting → Option flag.Value
  | value other v => if h : other = flag then some (h ▸ v) else none
  | switch _ => none

def isSwitch (wanted : Switch) : Setting → Bool
  | value _ _ => false
  | switch s => s == wanted

end Setting

/-- The value of a flag. If it is given more than once, the last one stands. -/
def lastValue? (settings : List Setting) (flag : ValueFlag) : Option flag.Value :=
  (settings.filterMap (Setting.valueOf? flag)).getLast?

/-- The command that the settings ask for. Listing and marking come before filling. -/
def commandOf (env : Environment) (settings : List Setting) : Except ArgumentError Command :=
  let has (switch : Switch) : Bool := settings.any (Setting.isSwitch switch)
  let markSynced : Option Int := lastValue? settings .markSynced
  if has .submit && has .draft then .error .submitAndDraft
  else if has .list && markSynced.isSome then .error .listAndMarkSynced
  else if has .list then
    let limit : Option Nat := lastValue? settings .limit
    .ok (.list (lastValue? settings .status) (limit.getD defaultListLimit))
  else match markSynced with
    | some id => .ok (.markSynced id)
    | none =>
      let schema : Option String := lastValue? settings .schema
      match schema.or (env "INSP_SCHEMA") with
      | none => .error .schemaMissing
      | some schemaPath =>
        let finish : Finish := if has .submit then .submit else if has .draft then .draft else .none
        .ok (.fill schemaPath (lastValue? settings .edits) (has .render || finish == .none) finish)

/-- A flag overrides its environment variable, which overrides the default. -/
def Config.ofSettings (env : Environment) (settings : List Setting) : Except ArgumentError Config :=
  let storageDir : Option String := lastValue? settings .storageDir
  let log : Option String := lastValue? settings .log
  (commandOf env settings).map fun command =>
    { storageDir := storageDir.or (env "INSP_STORAGE_DIR")
      logFilter := (log.or (env "INSP_LOG")).getD defaultLogFilter
      nowMs := lastValue? settings .nowMs
      command }

def Config.ofArguments (env : Environment) (arguments : List String) : Except ArgumentError Config := do
  Config.ofSettings env (← readSettings arguments)

end InspectionForms
