import InspectionForms.CommandLine.Arguments
import Mathlib.Data.List.Basic

namespace InspectionForms

/-- A flag with all that belongs to it. The argument behind a flag that takes one belongs to it whatever it is. -/
inductive ArgumentGroup
  | value (flag : ValueFlag) (text : String)
  | switch (switch : Switch)
  deriving DecidableEq

theorem ValueFlag.ofName?_name (flag : ValueFlag) : ofName? flag.name = some flag := by cases flag <;> rfl

theorem Switch.ofName?_name (switch : Switch) : ofName? switch.name = some switch := by cases switch <;> rfl

theorem ValueFlag.ofName?_switchName (switch : Switch) : ofName? switch.name = none := by cases switch <;> rfl

theorem ValueFlag.ofName?_eq_none {argument : String} (unknown : ∀ flag, name flag ≠ argument) :
    ofName? argument = none :=
  List.find?_eq_none.mpr fun flag _ => by simpa using unknown flag

theorem Switch.ofName?_eq_none {argument : String} (unknown : ∀ switch, name switch ≠ argument) :
    ofName? argument = none :=
  List.find?_eq_none.mpr fun switch _ => by simpa using unknown switch

section ReadSettings

variable (rest : List String)

theorem readSettings_value (flag : ValueFlag) (text : String) : readSettings (flag.name :: text :: rest) =
    match flag.readValue? text with
    | none => .error (.valueInvalid flag)
    | some v => (readSettings rest).map (.value flag v :: ·) := by
  cases read : flag.readValue? text <;> simp only [readSettings, flag.ofName?_name, read]

theorem readSettings_switch (switch : Switch) :
    readSettings (switch.name :: rest) = (readSettings rest).map (.switch switch :: ·) := by
  rw [readSettings, ValueFlag.ofName?_switchName, switch.ofName?_name]

theorem readSettings_valueMissing (flag : ValueFlag) : readSettings [flag.name] = .error (.valueMissing flag) := by
  rw [readSettings, flag.ofName?_name]

theorem readSettings_unknown {argument : String} (noFlag : ∀ flag, ValueFlag.name flag ≠ argument)
    (noSwitch : ∀ switch, Switch.name switch ≠ argument) :
    readSettings (argument :: rest) = .error (.unknownArgument argument) := by
  rw [readSettings, ValueFlag.ofName?_eq_none noFlag, Switch.ofName?_eq_none noSwitch]

end ReadSettings

namespace ArgumentGroup

def arguments : ArgumentGroup → List String
  | value flag text => [flag.name, text]
  | switch s => [s.name]

def setting? : ArgumentGroup → Option Setting
  | value flag text => (flag.readValue? text).map (.value flag)
  | switch s => some (.switch s)

def textOf? (flag : ValueFlag) : ArgumentGroup → Option String
  | value other text => if other = flag then some text else none
  | switch _ => none

/-- The texts given to a flag, in their order. -/
def texts (groups : List ArgumentGroup) (flag : ValueFlag) : List String := groups.filterMap (textOf? flag)

def lastText? (groups : List ArgumentGroup) (flag : ValueFlag) : Option String := (texts groups flag).getLast?

def has (groups : List ArgumentGroup) (s : Switch) : Bool := decide (.switch s ∈ groups)

/-- Every value can be read, also one that a later one overrides. -/
def Readable (groups : List ArgumentGroup) : Prop :=
  ∀ flag text, .value flag text ∈ groups → (flag.readValue? text).isSome

variable {groups others : List ArgumentGroup}

theorem textOf?_eq_some_iff {flag : ValueFlag} {text : String} {group : ArgumentGroup} :
    group.textOf? flag = some text ↔ group = .value flag text := by
  cases group with
  | switch s => simp [textOf?]
  | value other given =>
    simp only [textOf?, Option.ite_none_right_eq_some, Option.some.injEq, value.injEq]

theorem mem_texts_iff {flag : ValueFlag} {text : String} : text ∈ texts groups flag ↔ .value flag text ∈ groups := by
  simp only [texts, List.mem_filterMap, textOf?_eq_some_iff, exists_eq_right]

theorem readable_cons_iff {group : ArgumentGroup} :
    Readable (group :: groups) ↔ group.setting?.isSome ∧ Readable groups := by
  constructor
  · intro readable
    refine ⟨?_, fun flag text member => readable flag text (List.mem_cons_of_mem _ member)⟩
    cases group with
    | value flag text =>
      rw [setting?, Option.isSome_map]
      exact readable flag text (List.mem_cons_self ..)
    | switch s => rfl
  · rintro ⟨first, readable⟩ flag text member
    rcases List.mem_cons.mp member with rfl | later
    · rwa [setting?, Option.isSome_map] at first
    · exact readable flag text later

theorem readSettings_cons (group : ArgumentGroup) (rest : List String) {settings : List Setting} :
    readSettings (group.arguments ++ rest) = .ok settings ↔
      ∃ first others, group.setting? = some first ∧ readSettings rest = .ok others ∧ settings = first :: others := by
  cases group with
  | value flag text =>
    rw [arguments, List.cons_append, List.cons_append, List.nil_append, readSettings_value, setting?]
    cases flag.readValue? text with
    | none => simp
    | some v => cases readSettings rest <;> simp [Except.map, eq_comm]
  | switch s =>
    rw [arguments, List.cons_append, List.nil_append, readSettings_switch, setting?]
    cases readSettings rest <;> simp [Except.map, eq_comm]

/-- Groups are read one after the other, all of them or none. -/
theorem readSettings_append {rest : List String} {settings : List Setting} :
    readSettings (groups.flatMap arguments ++ rest) = .ok settings ↔ Readable groups ∧
      ∃ others, readSettings rest = .ok others ∧ settings = groups.filterMap setting? ++ others := by
  induction groups generalizing settings with
  | nil => simp [Readable]
  | cons group groups ih =>
    rw [List.flatMap_cons, List.append_assoc, readSettings_cons, readable_cons_iff]
    constructor
    · rintro ⟨first, later, read, atRest, rfl⟩
      obtain ⟨readable, others, atOthers, rfl⟩ := ih.mp atRest
      refine ⟨⟨by rw [read]; rfl, readable⟩, others, atOthers, ?_⟩
      rw [List.filterMap_cons_some read, List.cons_append]
    · rintro ⟨⟨first, readable⟩, others, atOthers, rfl⟩
      obtain ⟨setting, read⟩ := Option.isSome_iff_exists.mp first
      refine ⟨setting, groups.filterMap setting? ++ others, read, ih.mpr ⟨readable, others, atOthers, rfl⟩, ?_⟩
      rw [List.filterMap_cons_some read, List.cons_append]

theorem Readable.of_lastText? (readable : Readable groups) (flag : ValueFlag) (text : String)
    (last : lastText? groups flag = some text) : (flag.readValue? text).isSome :=
  readable flag text (mem_texts_iff.mp (List.mem_of_getLast? last))

theorem bind_valueOf?_setting? (group : ArgumentGroup) (flag : ValueFlag) :
    group.setting?.bind (Setting.valueOf? flag) = (group.textOf? flag).bind flag.readValue? := by
  cases group with
  | switch s => rfl
  | value other text =>
    by_cases same : other = flag
    · subst same
      rw [setting?, textOf?, if_pos rfl, Option.bind_some]
      cases other.readValue? text with
      | none => rfl
      | some v => exact dif_pos rfl
    · rw [setting?, textOf?, if_neg same, Option.bind_none]
      cases other.readValue? text with
      | none => rfl
      | some v => exact dif_neg same

/-- The last value of a flag is that of the last text given to it. -/
theorem lastValue?_filterMap (readable : Readable groups) (flag : ValueFlag) :
    lastValue? (groups.filterMap setting?) flag = (lastText? groups flag).bind flag.readValue? := by
  have values : (groups.filterMap setting?).filterMap (Setting.valueOf? flag) =
      (texts groups flag).filterMap flag.readValue? := by
    rw [texts, List.filterMap_filterMap, List.filterMap_filterMap]
    exact List.filterMap_congr fun group _ => group.bind_valueOf?_setting? flag
  rw [lastValue?, values, lastText?]
  rcases List.eq_nil_or_concat (texts groups flag) with none | ⟨earlier, text, given⟩
  · rw [none]
    rfl
  · have member : text ∈ texts groups flag := by
      rw [given, List.concat_eq_append]
      exact List.mem_concat_self
    obtain ⟨v, read⟩ := Option.isSome_iff_exists.mp (readable flag text (mem_texts_iff.mp member))
    rw [given, List.concat_eq_append, List.filterMap_append, List.filterMap_cons_some read]
    simp [read]

theorem any_isSwitch_filterMap (groups : List ArgumentGroup) (s : Switch) :
    (groups.filterMap setting?).any (Setting.isSwitch s) = has groups s := by
  have isSwitch {setting : Setting} : setting.isSwitch s = true ↔ setting = .switch s := by
    cases setting <;> simp [Setting.isSwitch]
  have found {group : ArgumentGroup} : group.setting? = some (.switch s) ↔ group = .switch s := by
    cases group <;> simp [setting?]
  rw [Bool.eq_iff_iff, List.any_eq_true, has, decide_eq_true_iff]
  simp only [isSwitch, exists_eq_right, List.mem_filterMap, found]

end ArgumentGroup

section Asked

variable (env : Environment) (last : ValueFlag → Option String) (given : Switch → Bool)

/-- The command that the last text of each flag, the switches and the environment ask for. -/
inductive Command.IsAsked : Command → Prop
  | list : given .list → IsAsked (.list ((last .status).bind Status.ofText?) (((last .limit).bind readNat64?).getD 50))
  | markSynced {text : String} {id : Int} : given .list = false → last .markSynced = some text →
      readInt64? text = some id → IsAsked (.markSynced id)
  | submit {path : String} : given .list = false → last .markSynced = none →
      (last .schema).or (env "INSP_SCHEMA") = some path → given .submit →
      IsAsked (.fill path (last .edits) (given .render) .submit)
  | draft {path : String} : given .list = false → last .markSynced = none →
      (last .schema).or (env "INSP_SCHEMA") = some path → given .submit = false → given .draft →
      IsAsked (.fill path (last .edits) (given .render) .draft)
  | show {path : String} : given .list = false → last .markSynced = none →
      (last .schema).or (env "INSP_SCHEMA") = some path → given .submit = false → given .draft = false →
      IsAsked (.fill path (last .edits) true .none)

structure Config.IsAsked (config : Config) : Prop where
  storageDir : config.storageDir = (last .storageDir).or (env "INSP_STORAGE_DIR")
  logFilter : config.logFilter = ((last .log).or (env "INSP_LOG")).getD "warn"
  nowMs : config.nowMs = (last .nowMs).bind readInt64?
  command : config.command.IsAsked env last given

/-- No two flags contradict each other, and a form that is to be filled is known. -/
structure IsConsistent : Prop where
  finish : ¬ (given .submit ∧ given .draft)
  command : ¬ (given .list ∧ (last .markSynced).isSome)
  schema : given .list ∨ (last .markSynced).isSome ∨ (last .schema).isSome ∨ (env "INSP_SCHEMA").isSome

end Asked

section Settings

variable {env : Environment} {last : ValueFlag → Option String} {given : Switch → Bool} {settings : List Setting}

theorem Command.IsAsked.unique {a b : Command} (left : a.IsAsked env last given) (right : b.IsAsked env last given) :
    a = b := by
  cases left <;> cases right <;> simp_all

theorem Config.IsAsked.unique {a b : Config} (left : a.IsAsked env last given) (right : b.IsAsked env last given) :
    a = b :=
  (Config.mk.injEq ..).mpr ⟨left.storageDir.trans right.storageDir.symm, left.logFilter.trans right.logFilter.symm,
    left.nowMs.trans right.nowMs.symm, left.command.unique right.command⟩

variable (values : ∀ flag, lastValue? settings flag = (last flag).bind flag.readValue?)
  (readable : ∀ flag text, last flag = some text → (flag.readValue? text).isSome)
  (switches : ∀ s, settings.any (Setting.isSwitch s) = given s)

include values switches in
theorem commandOf_eq_of_values : commandOf env settings =
    if given .submit && given .draft then .error .submitAndDraft
    else if given .list && ((last .markSynced).bind readInt64?).isSome then .error .listAndMarkSynced
    else if given .list then .ok (.list ((last .status).bind Status.ofText?) (((last .limit).bind readNat64?).getD 50))
    else match (last .markSynced).bind readInt64? with
      | some id => .ok (.markSynced id)
      | none => match (last .schema).or (env "INSP_SCHEMA") with
        | none => .error .schemaMissing
        | some path =>
          let finish : Finish := if given .submit then .submit else if given .draft then .draft else .none
          .ok (.fill path (last .edits) (given .render || finish == .none) finish) := by
  have atSchema : lastValue? settings .schema = last .schema := by rw [values]; cases last .schema <;> rfl
  have atEdits : lastValue? settings .edits = last .edits := by rw [values]; cases last .edits <;> rfl
  have atMarked : lastValue? settings .markSynced = (last .markSynced).bind readInt64? := values .markSynced
  have atStatus : lastValue? settings .status = (last .status).bind Status.ofText? := values .status
  have atLimit : lastValue? settings .limit = (last .limit).bind readNat64? := values .limit
  unfold commandOf
  simp only [switches, atSchema, atEdits, atMarked, atStatus, atLimit]
  rfl

include values readable switches in
theorem isAsked_of_commandOf {command : Command} (ran : commandOf env settings = .ok command) :
    IsConsistent env last given ∧ command.IsAsked env last given := by
  rw [commandOf_eq_of_values values switches] at ran
  split at ran
  · cases ran
  next noFinish =>
  split at ran
  · cases ran
  next noCommand =>
  have finish : ¬ (given .submit ∧ given .draft) := by simpa using noFinish
  cases marked : last .markSynced with
  | some text =>
    have isId : (readInt64? text).isSome := readable .markSynced text marked
    obtain ⟨id, read⟩ := Option.isSome_iff_exists.mp isId
    have notListed : given .list = false := by simpa [marked, read] using noCommand
    simp only [notListed, marked, Option.bind_some, read, Bool.false_eq_true, if_false] at ran
    cases ran
    exact ⟨⟨finish, by simp [notListed], .inr (.inl (by rw [marked]; rfl))⟩, .markSynced notListed marked read⟩
  | none =>
    split at ran
    · next listed =>
      cases ran
      exact ⟨⟨finish, by simp [marked], .inl listed⟩, .list listed⟩
    · next notListed =>
      have notListed : given .list = false := by simpa using notListed
      cases known : (last .schema).or (env "INSP_SCHEMA") with
      | none =>
        simp only [marked, known, Option.bind_none] at ran
        cases ran
      | some path =>
        have schema : (last .schema).isSome ∨ (env "INSP_SCHEMA").isSome := by
          rw [← Bool.or_eq_true, ← Option.isSome_or, known]
          rfl
        refine ⟨⟨finish, by simp [notListed], .inr (.inr schema)⟩, ?_⟩
        simp only [marked, known, Option.bind_none] at ran
        cases ran
        have finishing (finish : Finish) : (finish == .none) = decide (finish = .none) := by cases finish <;> rfl
        cases submit : given .submit with
        | true => simpa [submit, finishing] using Command.IsAsked.submit notListed marked known submit
        | false =>
          cases draft : given .draft with
          | true => simpa [submit, draft, finishing] using Command.IsAsked.draft notListed marked known submit draft
          | false => simpa [submit, draft] using Command.IsAsked.show notListed marked known submit draft

include values readable switches in
theorem IsConsistent.exists_commandOf (consistent : IsConsistent env last given) :
    ∃ command, commandOf env settings = .ok command := by
  have finish : ¬ (given .submit && given .draft) = true := by simpa using consistent.finish
  have command : ¬ (given .list && ((last .markSynced).bind readInt64?).isSome) = true := by
    intro both
    obtain ⟨listed, marked⟩ := (Bool.and_eq_true _ _).mp both
    exact consistent.command ⟨listed, Option.isSome_of_isSome_bind marked⟩
  rw [commandOf_eq_of_values values switches, if_neg finish, if_neg command]
  split
  · exact ⟨_, rfl⟩
  next notListed =>
  split
  · exact ⟨_, rfl⟩
  next notMarked =>
  split
  · next unknown =>
    obtain ⟨noFlag, noVariable⟩ := Option.or_eq_none_iff.mp unknown
    rcases consistent.schema with listed | marked | flag | environment
    · exact absurd listed notListed
    · obtain ⟨text, marked⟩ := Option.isSome_iff_exists.mp marked
      have isId : (readInt64? text).isSome := readable .markSynced text marked
      rw [marked, Option.bind_some] at notMarked
      rw [notMarked] at isId
      cases isId
    · rw [noFlag] at flag
      cases flag
    · rw [noVariable] at environment
      cases environment
  · exact ⟨_, rfl⟩

include values readable switches in
theorem Config.isAsked_of_ofSettings {config : Config} (ran : Config.ofSettings env settings = .ok config) :
    IsConsistent env last given ∧ config.IsAsked env last given := by
  have atStorageDir : lastValue? settings .storageDir = last .storageDir := by
    rw [values]; cases last .storageDir <;> rfl
  have atLog : lastValue? settings .log = last .log := by rw [values]; cases last .log <;> rfl
  rw [Config.ofSettings] at ran
  cases found : commandOf env settings with
  | error error =>
    rw [found] at ran
    cases ran
  | ok command =>
    obtain ⟨consistent, asked⟩ := isAsked_of_commandOf values readable switches found
    rw [found] at ran
    cases ran
    exact ⟨consistent, congrArg (Option.or · _) atStorageDir,
      congrArg (fun log => (Option.or log (env "INSP_LOG")).getD "warn") atLog, values .nowMs, asked⟩

include values readable switches in
theorem IsConsistent.exists_ofSettings (consistent : IsConsistent env last given) :
    ∃ config, Config.ofSettings env settings = .ok config := by
  obtain ⟨command, found⟩ := consistent.exists_commandOf values readable switches
  rw [Config.ofSettings, found]
  exact ⟨_, rfl⟩

end Settings

namespace ArgumentGroup

variable {env : Environment} {groups others : List ArgumentGroup}

/-- What groups must meet to be accepted. All of it is about which groups there are and not about their order. -/
structure Acceptable (env : Environment) (groups : List ArgumentGroup) : Prop where
  readable : ∀ flag text, .value flag text ∈ groups → (flag.readValue? text).isSome
  finish : ¬ (.switch .submit ∈ groups ∧ .switch .draft ∈ groups)
  command : ¬ (.switch .list ∈ groups ∧ ∃ text, .value .markSynced text ∈ groups)
  schema : .switch .list ∈ groups ∨ (∃ text, .value .markSynced text ∈ groups) ∨
    (∃ text, .value .schema text ∈ groups) ∨ (env "INSP_SCHEMA").isSome

theorem isSome_lastText?_iff {flag : ValueFlag} :
    (lastText? groups flag).isSome ↔ ∃ text, .value flag text ∈ groups := by
  rw [lastText?, List.getLast?_isSome, ← List.isEmpty_eq_false_iff, List.isEmpty_eq_false_iff_exists_mem]
  simp only [mem_texts_iff]

theorem acceptable_iff :
    Acceptable env groups ↔ Readable groups ∧ IsConsistent env (lastText? groups) (has groups) := by
  have given (s : Switch) : has groups s = true ↔ .switch s ∈ groups := decide_eq_true_iff
  constructor
  · rintro ⟨readable, finish, command, schema⟩
    refine ⟨readable, ?_, ?_, ?_⟩
    · simpa only [given] using finish
    · simpa only [given, isSome_lastText?_iff] using command
    · simpa only [given, isSome_lastText?_iff] using schema
  · rintro ⟨readable, finish, command, schema⟩
    simp only [given, isSome_lastText?_iff] at finish command schema
    exact ⟨readable, finish, command, schema⟩

theorem Acceptable.of_mem_iff (acceptable : Acceptable env groups) (same : ∀ group, group ∈ others ↔ group ∈ groups) :
    Acceptable env others := by
  obtain ⟨readable, finish, command, schema⟩ := acceptable
  simp only [← same] at readable finish command schema
  exact ⟨readable, finish, command, schema⟩

theorem readSettings_arguments {settings : List Setting} : readSettings (groups.flatMap arguments) = .ok settings ↔
    Readable groups ∧ settings = groups.filterMap setting? := by
  have appended : readSettings (groups.flatMap arguments ++ []) = .ok settings ↔ _ := readSettings_append
  rw [List.append_nil, readSettings] at appended
  simpa using appended

theorem isAsked_of_ofArguments {config : Config}
    (ran : Config.ofArguments env (groups.flatMap arguments) = .ok config) :
    Acceptable env groups ∧ config.IsAsked env (lastText? groups) (has groups) := by
  rw [Config.ofArguments] at ran
  cases found : readSettings (groups.flatMap arguments) with
  | error error =>
    rw [found] at ran
    cases ran
  | ok settings =>
    obtain ⟨readable, rfl⟩ := readSettings_arguments.mp found
    rw [found] at ran
    obtain ⟨consistent, asked⟩ := Config.isAsked_of_ofSettings (lastValue?_filterMap readable)
      readable.of_lastText? (any_isSwitch_filterMap groups) ran
    exact ⟨acceptable_iff.mpr ⟨readable, consistent⟩, asked⟩

theorem exists_ofArguments_iff :
    (∃ config, Config.ofArguments env (groups.flatMap arguments) = .ok config) ↔ Acceptable env groups := by
  constructor
  · rintro ⟨config, ran⟩
    exact (isAsked_of_ofArguments ran).1
  · intro acceptable
    obtain ⟨readable, consistent⟩ := acceptable_iff.mp acceptable
    rw [Config.ofArguments, readSettings_arguments.mpr ⟨readable, rfl⟩]
    exact consistent.exists_ofSettings (lastValue?_filterMap readable) readable.of_lastText?
      (any_isSwitch_filterMap groups)

/-- Behind groups that can be read, an argument that cannot be read is an error, whatever comes after it. -/
theorem ofArguments_append_eq_error {rest : List String} {cause : ArgumentError}
    (wrong : readSettings rest = .error cause) :
    ∃ error, Config.ofArguments env (groups.flatMap arguments ++ rest) = .error error := by
  rw [Config.ofArguments]
  cases read : readSettings (groups.flatMap arguments ++ rest) with
  | error error => exact ⟨error, rfl⟩
  | ok settings =>
    obtain ⟨-, others, found, -⟩ := readSettings_append.mp read
    rw [wrong] at found
    cases found

theorem mem_iff_of_texts_eq (sameTexts : ∀ flag, texts others flag = texts groups flag)
    (sameSwitches : ∀ s, .switch s ∈ others ↔ .switch s ∈ groups) (group : ArgumentGroup) :
    group ∈ others ↔ group ∈ groups := by
  cases group with
  | value flag text => rw [← mem_texts_iff, ← mem_texts_iff, sameTexts]
  | switch s => exact sameSwitches s

end ArgumentGroup

open ArgumentGroup in
/-- Groups of arguments are accepted exactly if each value can be read, no two flags contradict each other and there is
something to do. What then comes out is determined by the last text of each flag, the switches and the environment. So
groups may change places as long as the values of each flag keep their order, and switches may be repeated; and groups
that are not accepted are not accepted in any order. A flag without its value and an argument that is no flag are
errors behind whatever groups. -/
theorem Config.ofArguments_groups (env : Environment) (groups : List ArgumentGroup) :
    let read (groups : List ArgumentGroup) := Config.ofArguments env (groups.flatMap arguments)
    ((∃ config, read groups = .ok config) ↔ Acceptable env groups) ∧
    (∀ config, read groups = .ok config →
      ∀ other : Config, other.IsAsked env (lastText? groups) (has groups) ↔ other = config) ∧
    (∀ others, (∀ flag, texts others flag = texts groups flag) → (∀ s, .switch s ∈ others ↔ .switch s ∈ groups) →
      ∀ config, read groups = .ok config → read others = .ok config) ∧
    (∀ others error, groups.Perm others → read groups = .error error → ∃ error, read others = .error error) ∧
    (∀ flag : ValueFlag, ∃ error,
      Config.ofArguments env (groups.flatMap arguments ++ [flag.name]) = .error error) ∧
    ∀ argument rest, (∀ flag, ValueFlag.name flag ≠ argument) → (∀ s, Switch.name s ≠ argument) →
      ∃ error, Config.ofArguments env (groups.flatMap arguments ++ argument :: rest) = .error error := by
  intro read
  refine ⟨exists_ofArguments_iff, fun config ran other => ?_, fun others sameTexts sameSwitches config ran => ?_,
    fun others error perm refused => ?_, fun flag => ?_, fun argument rest noFlag noSwitch => ?_⟩
  · obtain ⟨-, asked⟩ := isAsked_of_ofArguments ran
    exact ⟨fun other => other.unique asked, fun same => same ▸ asked⟩
  · obtain ⟨acceptable, asked⟩ := isAsked_of_ofArguments ran
    have same := mem_iff_of_texts_eq sameTexts sameSwitches
    obtain ⟨other, otherRan⟩ := exists_ofArguments_iff.mpr (acceptable.of_mem_iff same)
    obtain ⟨-, otherAsked⟩ := isAsked_of_ofArguments otherRan
    have sameLast : lastText? others = lastText? groups := funext fun flag => congrArg List.getLast? (sameTexts flag)
    have sameHas : has others = has groups := funext fun s => decide_eq_decide.mpr (sameSwitches s)
    rw [sameLast, sameHas] at otherAsked
    rw [asked.unique otherAsked]
    exact otherRan
  · cases ran : read others with
    | error error => exact ⟨error, rfl⟩
    | ok config =>
      have acceptable := (exists_ofArguments_iff.mp ⟨config, ran⟩).of_mem_iff fun group => perm.mem_iff
      obtain ⟨config, ran⟩ := exists_ofArguments_iff.mpr acceptable
      cases ran.symm.trans refused
  · exact ofArguments_append_eq_error (readSettings_valueMissing flag)
  · exact ofArguments_append_eq_error (readSettings_unknown rest noFlag noSwitch)

open ArgumentGroup in
/-- The edits are in a file that is named like a flag, the second form stands, and one switch may come twice. Both ways
to finish contradict each other in any order, and a word behind a value is no flag. Numbers may have a sign and a
status any case, wherever their flags stand; a number that does not fit, a limit below zero and a status that is none
of the three are errors. -/
theorem Config.ofArguments_groups_fileNamedList :
    let env : Environment := fun _ => none
    let config : Config := ⟨none, "warn", none, .fill "b" (some "--list") false .submit⟩
    let listing : Config := ⟨none, "warn", some 0, .list (some .synced) 9⟩
    Config.ofArguments env ["--schema", "a", "--submit", "--edits", "--list", "--schema", "b"] = .ok config ∧
    Config.ofArguments env ["--submit", "--schema", "a", "--schema", "b", "--edits", "--list", "--submit"] =
      .ok config ∧
    (∃ error, Config.ofArguments env ["--draft", "--schema", "a", "--submit"] = .error error) ∧
    (∃ error, Config.ofArguments env ["--schema", "--render", "render"] = .error error) ∧
    Config.ofArguments env ["--list", "--limit", "+9", "--now-ms", "-0", "--status", " SYNCED "] = .ok listing ∧
    Config.ofArguments env ["--status", " SYNCED ", "--now-ms", "-0", "--list", "--limit", "+9"] = .ok listing ∧
    (∃ error, Config.ofArguments env ["--list", "--now-ms", "9223372036854775808"] = .error error) ∧
    (∃ error, Config.ofArguments env ["--list", "--limit", "-0"] = .error error) ∧
    ∃ error, Config.ofArguments env ["--list", "--status", "done"] = .error error := by
  intro env config listing
  have first : Config.ofArguments env ["--schema", "a", "--submit", "--edits", "--list", "--schema", "b"] =
      .ok config := rfl
  have both : Config.ofArguments env ["--submit", "--draft", "--schema", "a"] = .error .submitAndDraft := rfl
  have listed : Config.ofArguments env ["--list", "--limit", "+9", "--now-ms", "-0", "--status", " SYNCED "] =
      .ok listing := rfl
  obtain ⟨-, -, rearranged, -⟩ := Config.ofArguments_groups env
    [.value .schema "a", .switch .submit, .value .edits "--list", .value .schema "b"]
  obtain ⟨-, -, -, refused, -⟩ := Config.ofArguments_groups env
    [.switch .submit, .switch .draft, .value .schema "a"]
  obtain ⟨-, -, -, -, -, unknown⟩ := Config.ofArguments_groups env [.value .schema "--render"]
  obtain ⟨-, -, relisted, -⟩ := Config.ofArguments_groups env
    [.switch .list, .value .limit "+9", .value .nowMs "-0", .value .status " SYNCED "]
  have unreadable (flag : ValueFlag) (text : String) (invalid : flag.readValue? text = none) :
      ∃ error, Config.ofArguments env ["--list", flag.name, text] = .error error := by
    obtain ⟨accepted, -⟩ := Config.ofArguments_groups env [.switch .list, .value flag text]
    cases ran : Config.ofArguments env ["--list", flag.name, text] with
    | error error => exact ⟨error, rfl⟩
    | ok config =>
      obtain ⟨readable, -⟩ := accepted.mp ⟨config, ran⟩
      have valid := readable flag text (by simp)
      rw [invalid] at valid
      cases valid
  have tooLarge : ValueFlag.nowMs.readValue? "9223372036854775808" = none := by decide
  refine ⟨first, ?_, ?_, ?_, listed, ?_, unreadable .nowMs _ tooLarge, unreadable .limit "-0" rfl,
    unreadable .status "done" rfl⟩
  · exact rearranged [.switch .submit, .value .schema "a", .value .schema "b", .value .edits "--list",
      .switch .submit] (fun flag => by cases flag <;> rfl) (fun s => by cases s <;> decide) config first
  · exact refused [.switch .draft, .value .schema "a", .switch .submit] _ (by decide) both
  · exact unknown "render" [] (fun flag => by cases flag <;> decide) (fun s => by cases s <;> decide)
  · exact relisted [.value .status " SYNCED ", .value .nowMs "-0", .switch .list, .value .limit "+9"]
      (fun flag => by cases flag <;> rfl) (fun s => by cases s <;> simp) listing listed

end InspectionForms
