import InspectionForms.Database.Change

namespace InspectionForms

/-- Before a statement is carried out, everything is looked up that it names, also in the triggers that it sets off.
Triggers and references that have been gone through are remembered, with what they do about rows that break a rule. -/
abbrev Preparation := StateT (List (String × Option Remedy)) (Except RelationError)

namespace Tables

def touches (event : TriggerEvent) (columns : List String) : Bool :=
  match event with
  | .insertion | .deletion => true
  | .change names => columns.any (Changed.mentions names)

/-- A change may take other rows away because they share a key, or the number, with one that gets some values. -/
def mayReplace (relation : Relation) (policy : Option Remedy) (event : TriggerEvent) (names : List String) : Bool :=
  let changed : Changed := match event with
    | .change names => names
    | _ => none
  let byNumber := policy == some .replace &&
    (relation.definition.givenId? (names.map fun name => (name, Cell.null))).isSome
  let byKey := relation.definition.uniqueKeys.any fun key =>
    policy.getD key.remedy == .replace && relation.definition.keyMentionsChange changed key
  event != .deletion && (byNumber || byKey)

def parentNames (parent : Relation) (reference : Reference) : List String :=
  if reference.parentColumns.isEmpty then
    parent.definition.primaryKey.filterMap fun k => parent.definition.columns[k]?.map TableColumn.name
  else reference.parentColumns

/-- The tables that are named by references that a change touches are there, and so are the keys that others refer
to. A single new row, with which nothing else happens, does not concern others. -/
def requireReferences (tables : Tables) (relation : Relation) (policy : Option Remedy) (event : TriggerEvent)
    (names : List String) (isInner : Bool) : Except RelationError Unit := do
  let isSingle := event == .insertion && !isInner &&
    !relation.triggers.any fun trigger => trigger.waitsFor trigger.isEarly event
  let takesAway := event == .deletion || mayReplace relation policy event names
  let isParent := (tables.referencesTo relation.definition.name).any fun (_, reference) =>
    touches event (parentNames relation reference)
  let isChild := relation.definition.references.any fun reference => touches event reference.columns
  if takesAway || isParent || isChild then
    for reference in relation.definition.references do
      let isOwn := isSameName reference.parent relation.definition.name
      if takesAway || isOwn || touches event reference.columns then discard (tables.parent relation reference)
    for (child, reference) in tables.referencesTo relation.definition.name do
      if takesAway || (!isSingle && touches event (parentNames relation reference)) then
        discard (tables.parent child reference)

/-- What a step of a trigger names is there. The table that the step changes comes back, with what it does about rows
that break a rule, and the columns that it gives values to. -/
def requireStep (tables : Tables) (outer : Layout) (step : TriggerStep) :
    Except RelationError (Option (Relation × Option Remedy × TriggerEvent × List String)) := do
  match ← tables.stepPlaced [outer] step with
  | .look _ => return none
  | .insert table columns _ remedy _ =>
    return (tables.relation? table).map fun relation => (relation, remedy, .insertion, columns.getD [])
  | .update table assignments _ _ remedy =>
    let names := assignments.flatMap Assignment.columns
    return (tables.relation? table).map fun relation => (relation, remedy, .change (some names), names)
  | .delete table _ => return (tables.relation? table).map fun relation => (relation, none, .deletion, [])

mutual

/-- What references need is there, and what the triggers of a table for an event name. A bound says how deep triggers
can call each other. -/
def prepare (tables : Tables) (bound : Nat) (policy : Option Remedy) (event : TriggerEvent) (relation : Relation)
    (names : List String) (isInner : Bool) : Preparation Unit :=
  match bound with
  | 0 => pure ()
  | bound + 1 => do
    if relation.view.isNone then tables.requireReferences relation policy event names isInner
    let triggers (times : List Bool) : Preparation Unit :=
      tables.prepareTriggers bound policy event relation times relation.triggers.reverse
    match event with
    | .insertion => do
      triggers [true]
      triggers [false]
    | .deletion | .change _ => do
      triggers [true, false]
      tables.prepareReferences bound event relation (tables.referencesTo relation.definition.name)

def prepareReferences (tables : Tables) (bound : Nat) (event : TriggerEvent) (relation : Relation) :
    List (Relation × Reference) → Preparation Unit
  | [] => pure ()
  | (child, reference) :: rest => do
    match bound with
    | 0 => pure ()
    | bound + 1 =>
      let action := if event == .deletion then reference.onDeletion else reference.onChange
      let key := child.definition.name ++ " " ++ " ".intercalate reference.columns ++
        if event == .deletion then " -" else " +"
      let isDue := touches event (parentNames relation reference) && (tables.parent child reference).isOk &&
        action != .keep && action != .forbid && !(← get).contains (key, none)
      if isDue then
        modify ((key, none) :: ·)
        if event == .deletion && action == .follow then
          tables.prepare bound none .deletion child [] true
        else
          tables.prepare bound (some .refuse) (.change (some reference.columns)) child reference.columns true
    tables.prepareReferences bound event relation rest

def prepareTriggers (tables : Tables) (bound : Nat) (policy : Option Remedy) (event : TriggerEvent)
    (relation : Relation) (times : List Bool) : List Trigger → Preparation Unit
  | [] => pure ()
  | trigger :: rest => do
    match bound with
    | 0 => pure ()
    | bound + 1 =>
      if times.any (trigger.waitsFor · event) && !(← get).contains (trigger.name, policy) then
        modify ((trigger.name, policy) :: ·)
        let outer := relation.definition.eventLayout event
        if let some condition := trigger.statement.condition then
          discard (tables.conditionPlaced [outer] condition)
        tables.prepareSteps bound policy outer trigger.statement.steps
    tables.prepareTriggers bound policy event relation times rest

def prepareSteps (tables : Tables) (bound : Nat) (policy : Option Remedy) (outer : Layout) :
    List TriggerStep → Preparation Unit
  | [] => pure ()
  | step :: rest => do
    match bound with
    | 0 => pure ()
    | bound + 1 =>
      if let some (relation, remedy, event, names) ← tables.requireStep outer step then
        tables.prepare bound (if event == .deletion then none else policy.or remedy) event relation names true
    tables.prepareSteps bound policy outer rest

end

/-- Everything that a change of a table names is there. Values are given to columns in this order. -/
def requireChange (tables : Tables) (policy : Option Remedy) (event : TriggerEvent) (name : String)
    (columns : List String) : Except RelationError Unit := do
  let relation ← tables.requireTable name event
  match event with
  | .insertion => columns.forM (relation.definition.requireColumn true (.noColumnNamed name))
  | .change _ => columns.forM (relation.definition.requireColumn false (.noSuchColumn · none))
  | .deletion => pure ()
  let parts (relation : Relation) : Nat := relation.triggers.length + relation.definition.references.length
  let count := (tables.relations.map parts).foldl (· + ·) 0
  discard <| (tables.prepare (12 * count + 3) policy event relation columns false).run []

end Tables

end InspectionForms
