import InspectionForms.Database.Step

namespace InspectionForms

abbrev Change := ExceptT RelationError (StateM Tables)

/-- What else happens in the course of a change. `act` is what the triggers of a table for an event do with the rows
before and after it, of which they act early or late, with what is done about rows that break a rule. It is told whether
to go on. `follow` gives rows that refer to others new values, or takes them away. -/
structure Reaction where
  act : Option Remedy → String → Bool → TriggerEvent → Option TableRow → Option TableRow → Change Bool
  follow : String → Option (List (String × Cell)) → List TableRow → Change Unit

namespace Change

def relation (name : String) : Change Relation := do
  match (← get).relation? name with
  | some relation => return relation
  | none => throw (.noTable name)

def put (relation : Relation) : Change Unit := modify fun tables => tables.put relation

def countRow : Change Unit := modify fun tables => { tables with counted := tables.counted + 1 }

/-- Counts what a row that comes or goes makes others lack, or lacks itself. Only columns that have been changed
matter. Where nothing is lacking, nothing can be made up for. -/
def countDebts (name : String) (changed : Changed) (isNew : Bool) (row : TableRow) : Change Unit := do
  let current ← relation name
  for reference in current.definition.references do
    let isOwn := isSameName reference.parent name
    if isOwn || reference.columns.any changed.mentions then
      if let .ok (parent, columns) := (← get).parent current reference then
        let values := reference.columns.map (current.cell row)
        let isMet := values.contains .null || parent.rows.any (Tables.isBound parent columns values) ||
          (isNew && isOwn && Tables.isBound parent columns values row)
        if !isMet then
          modify fun tables =>
            { tables with debts := if isNew then tables.debts + 1
              else if 0 < tables.debts then tables.debts - 1 else 0 }
  for (child, reference) in (← get).referencesTo name do
    if let .ok (parent, columns) := (← get).parent child reference then
      let names := columns.filterMap fun k => parent.definition.columns[k]?.map TableColumn.name
      if names.any changed.mentions then
        let isOther (other : TableRow) : Bool := isNew || !child.hasName name || other.id != row.id
        let count : Nat := child.rows.countP fun other =>
          isOther other && Tables.isBound parent columns (reference.columns.map (child.cell other)) row
        modify fun tables =>
          { tables with debts := if !isNew then tables.debts + count
              else if 0 < tables.debts then tables.debts - count else tables.debts }

def concernsReferences (name : String) (changed : Changed) : Change Bool := do
  let tables ← get
  let definition := (← relation name).definition
  let isParentChanged := (tables.referencesTo name).any fun (child, reference) =>
    match tables.parent child reference with
    | .ok (_, columns) => columns.any fun k => definition.columns[k]?.any fun column => changed.mentions column.name
    | .error _ => false
  return isParentChanged || definition.references.any fun reference => reference.columns.any changed.mentions

/-- What is done with the rows that refer to one that has gone away or changed, which is a row of the table now if it
has not gone away. -/
def release (react : Reaction) (name : String) (former : TableRow) (next : Option TableRow) : Change Unit := do
  for (child, reference) in (← get).referencesTo name do
    if let .ok (parent, columns) := (← get).parent child reference then
      let key (row : TableRow) : List Cell := columns.map fun k => row.cells.getD k .null
      if next.map key ≠ some (key former) then
        let child ← relation child.definition.name
        let children := child.orderedRows.filter fun row =>
          Tables.isBound parent columns (reference.columns.map (child.cell row)) former
        let give (cells : List Cell) : Change Unit :=
          react.follow child.definition.name (some (reference.columns.zip cells)) children
        match if next.isNone then reference.onDeletion else reference.onChange with
        | .keep => pure ()
        | .forbid => if !children.isEmpty then throw .noParent
        | .forget => give (reference.columns.map fun _ => .null)
        | .reset => give (reference.columns.map fun name =>
            ((child.definition.column? name).map fun (_, column) => column.usual).getD .null)
        | .follow => match next with
          | some next => give (key next)
          | none => react.follow child.definition.name none children

def replaceRows (react : Reaction) (name : String) (kept : List TableRow) : Change Unit := do
  for row in (← relation name).rows do
    if !kept.any fun other => other.id == row.id then
      countDebts name none false row
      let current ← relation name
      put { current with rows := current.rows.filter fun other => other.id != row.id }
      release react name row none

def updateRow (react : Reaction) (name : String) (policy : Option Remedy) (values : List (String × Cell))
    (row : TableRow) : Change Unit := do
  let definition := (← relation name).definition
  let names := values.map Prod.fst
  let planned ← definition.changedRow values row
  if ← react.act policy name true (.change (some names)) (some row) (some planned) then
    let current ← relation name
    if let some former := current.rows.find? (fun other : TableRow => other.id == row.id) then
      let others := current.rows.filter fun other => other.id != row.id
      let changed ← definition.changedRow values former
      if let some (changed, others) ← definition.settle policy (some names) others changed then
        replaceRows react name (former :: others)
        let isConcerned ← concernsReferences name (some names)
        if isConcerned then
          countDebts name (some names) false former
          countDebts name (some names) true changed
        let current ← relation name
        put { current with rows := current.rows.map fun other => if other.id == row.id then changed else other }
        countRow
        release react name former (some changed)
        discard <| react.act policy name false (.change (some names)) (some row) (some changed)

/-- What a value that cannot be computed means: whether to go on. Nothing is done about what it is not known how to
compute. -/
def heed (obstacle : Obstacle) : Change Bool :=
  match obstacle with
  | .unknown | .changing _ => return true
  | .failed message => throw (.notComputed message)
  | .refused "ignore" _ => return false
  | .refused action message => throw (.refused message (action == "fail"))

def computed {α : Type} (result : Except Obstacle α) : Change (Except Bool α) := do
  match result with
  | .ok value => return .ok value
  | .error obstacle => return .error (← heed obstacle)

def rowsOf (relation : Relation) : Change (Except Bool (List TableRow)) := do
  match relation.view with
  | none => return .ok relation.orderedRows
  | some _ =>
    let found ← computed (((← get).scope []).tables relation.definition.name)
    return found.map fun rows => rows.zipIdx.map fun (row, k) => ⟨k, Query.cellsOf row⟩

/-- Gives some rows new values, one after the other, and tells whether to go on. What the values are is found out when
it is the turn of a row, which may be gone by then. -/
def update (react : Reaction) (name : String) (policy : Option Remedy)
    (values : Nat → TableRow → Change (Except Bool (List (String × Cell)))) (rows : List TableRow) : Change Bool := do
  for (row, k) in rows.zipIdx do
    let current ← relation name
    if current.view.isSome then
      match ← values k row with
      | .ok cells =>
        let next := current.definition.changeRow cells row
        discard <| react.act policy name false (.change (some (cells.map Prod.fst))) (some row) (some next)
      | .error isGoing => if !isGoing then return false
    else if let some row := current.rows.find? (fun other : TableRow => other.id == row.id) then
      match ← values k row with
      | .ok cells => updateRow react name policy cells row
      | .error isGoing => if !isGoing then return false
  return true

def delete (react : Reaction) (name : String) (rows : List TableRow) : Change Unit := do
  for row in rows do
    let current ← relation name
    if current.view.isSome then discard <| react.act none name false .deletion (some row) none
    else if let some row := current.rows.find? (fun other : TableRow => other.id == row.id) then
      if ← react.act none name true .deletion (some row) none then
        let current ← relation name
        if current.rows.any fun other => other.id == row.id then
          countDebts name none false row
          put { current with rows := current.rows.filter fun other => other.id != row.id }
          countRow
          release react name row none
          discard <| react.act none name false .deletion (some row) none

def sharing? (definition : TableDefinition) (upserts : List Upsert) (rows : List TableRow) (row : TableRow) :
    Option (TableRow × Upsert) :=
  upserts.findSome? fun upsert =>
    let byId := if definition.isNumberMeant upsert then rows.find? fun other => other.id == row.id else none
    let keys := definition.uniqueKeys.filter (definition.isMeant upsert)
    let byKey := rows.find? fun other => keys.any fun key => definition.sharesKey key row other
    (byId.or byKey).map (·, upsert)

/-- Puts a row with some values into the table, and gives back its number unless it has been left out. `outer` are the
rows that a trigger is about. -/
def insert (react : Reaction) (name : String) (policy : Option Remedy) (outer : List QueryRow) (upserts : List Upsert)
    (values : List (String × Cell)) : Change (Option Int) := do
  let definition := (← relation name).definition
  if (← relation name).view.isSome then
    discard <| react.act policy name false .insertion none (some (definition.newRow (-1) values))
    return none
  let isCommand (column : TableColumn) : Bool :=
    column.isHidden && column.hasName name && values.any fun (name, cell) => column.hasName name && cell != .null
  if definition.columns.any isCommand then return none
  let given := definition.givenId? values
  let early ← match given with
    | some (.integer id) => pure id
    | some .null | none => pure (-1)
    | some _ => throw .notInteger
  if !(← react.act policy name true .insertion none (some (definition.newRow early values))) then return none
  let current ← relation name
  let id ← match given with
    | some (.integer id) => pure id
    | _ => current.nextId
  put { current with lastId := max current.lastId id }
  let row := definition.newRow id values
  match sharing? definition upserts current.rows row with
  | some (other, upsert) =>
    if let some assignments := upsert.assignments then
      let scope := (← get).scope ((Relation.fullRow definition other ++ Relation.fullRow definition row) :: outer)
      if let .ok truth ← computed (upsert.condition.mapM fun condition => condition.value scope) then
        if truth.all Cell.isTrue then
          if let .ok cells ← computed (Expression.valuesOfAll scope (assignments.map Assignment.value)) then
            updateRow react name (some .refuse) ((assignments.flatMap Assignment.columns).zip cells) other
    return none
  | none =>
    match ← definition.settle policy none current.rows row with
    | none => return none
    | some (row, others) =>
      replaceRows react name others
      countDebts name none true row
      let current ← relation name
      put { current with rows := current.rows ++ [row] }
      countRow
      if definition.hasRowNumbers then modify fun tables => { tables with lastInserted := id }
      discard <| react.act policy name false .insertion none (some row)
      return some id

def asked (table : String) (outer : List QueryRow) (condition : Option Expression) :
    Change (Except Bool (List TableRow)) := do
  let current ← relation table
  let scope := (← get).scope outer
  match ← rowsOf current with
  | .error isGoing => return .error isGoing
  | .ok rows =>
    computed (rows.filterM fun row => do
      let inner := scope.within (Relation.fullRow current.definition row)
      return (← condition.mapM fun condition => condition.value inner).all Cell.isTrue)

/-- The values that a row of a table gets. Queries in them that do not depend on the row are carried out beforehand,
when the tables look as they do in `before`. -/
def assigned (before : Tables) (table : String) (outer : List QueryRow) (assignments : List Assignment)
    (row : TableRow) : Change (Except Bool (List (String × Cell))) := do
  let definition := (← relation table).definition
  let now ← get
  computed (assignments.flatMapM fun assignment => do
    let tables := if assignment.value.hasDependentQuery then now else before
    let cell ← assignment.value.value ((tables.scope outer).within (Relation.fullRow definition row))
    return assignment.columns.map (·, cell))

/-- The rows of a table with the values that they get from the rows of a source beside them. If there are several of
them for a row, the last one counts. -/
def matched (table : String) (outer : List QueryRow) (assignments : List Assignment) (source : Source)
    (condition : Option Expression) : Change (Except Bool (List (TableRow × List (String × Cell)))) := do
  let current ← relation table
  let scope := (← get).scope outer
  match ← rowsOf current with
  | .error isGoing => return .error isGoing
  | .ok rows =>
    computed (rows.flatMapM fun row => do
      let own := Relation.fullRow current.definition row
      let found ← (← source.rows scope []).filterM fun other => do
        return (← condition.mapM fun condition => condition.value (scope.within (own ++ other))).all Cell.isTrue
      let cells ← found.mapM fun other =>
        Expression.valuesOfAll (scope.within (own ++ other)) (assignments.map Assignment.value)
      let kept := if current.view.isSome then cells else cells.getLast?.toList
      return kept.map fun cells => (row, (assignments.flatMap Assignment.columns).zip cells))

/-- Carries out a step of a trigger, and tells whether to go on. `outer` are the rows that the trigger is about. -/
def runStep (react : Reaction) (outer : List QueryRow) (policy : Option Remedy) (step : TriggerStep) : Change Bool := do
  match step with
  | .look query =>
    match ← computed (query.results ((← get).scope outer)) with
    | .ok _ => return true
    | .error isGoing => return isGoing
  | .insert table columns query remedy upserts =>
    match ← computed (query.results ((← get).scope outer)) with
    | .ok found =>
      for row in found do
        discard <| insert react table (policy.or remedy) outer upserts ((columns.getD []).zip (Query.cellsOf row))
      return true
    | .error isGoing => return isGoing
  | .update table assignments .nothing condition remedy =>
    let before ← get
    match ← asked table outer condition with
    | .ok rows => update react table (policy.or remedy) (fun _ => assigned before table outer assignments) rows
    | .error isGoing => return isGoing
  | .update table assignments source condition remedy =>
    match ← matched table outer assignments source condition with
    | .ok found =>
      update react table (policy.or remedy) (fun k _ => return .ok (((found[k]?).map Prod.snd).getD []))
        (found.map Prod.fst)
    | .error isGoing => return isGoing
  | .delete table condition =>
    match ← asked table outer condition with
    | .ok rows =>
      delete react table rows
      return true
    | .error isGoing => return isGoing

/-- Carries out the steps of a trigger as long as they go on. Each step counts the rows that it changes. -/
def runSteps (react : Reaction) (layout : Layout) (outer : QueryRow) (policy : Option Remedy) :
    List TriggerStep → Change Bool
  | [] => return true
  | step :: rest => do
    let isLook := step matches .look _
    let placed ← match (← get).stepPlaced [layout] step with
      | .ok placed => pure placed
      | .error error => throw error
    let isGoing ← runStep react [outer] policy placed
    if !isLook then modify fun tables =>
      { tables with changes := tables.counted, totalChanges := tables.totalChanges + tables.counted, counted := 0 }
    if isGoing then runSteps react layout outer policy rest else return false

/-- Carries out a trigger if its condition holds, and tells whether to go on. What is known of the last changes is
forgotten afterwards. -/
def runTrigger (react : Reaction) (layout : Layout) (outer : QueryRow) (policy : Option Remedy)
    (statement : TriggerStatement) : Change Bool := do
  let before ← get
  let due ← match statement.condition with
    | none => pure (.ok true)
    | some condition =>
      match before.conditionPlaced [layout] condition with
      | .error error => throw error
      | .ok condition => computed ((condition.value (before.scope [outer])).map Cell.isTrue)
  match due with
  | .error isGoing => return isGoing
  | .ok false => return true
  | .ok true =>
    modify fun tables => { tables with counted := 0 }
    let isGoing ← runSteps react layout outer policy statement.steps
    modify fun tables =>
      { tables with lastInserted := before.lastInserted, changes := before.changes, counted := before.counted }
    return isGoing

/-- What else happens because of a change, where some triggers are at work already and do not act again. A bound says
how deep triggers and references can lead to further changes. -/
def reaction : Nat → List String → Reaction
  | 0, _ => ⟨fun _ _ _ _ _ _ => return true, fun _ _ _ => return ()⟩
  | bound + 1, busy =>
    { act := fun policy name isEarly event former next => do
        let current ← relation name
        let due := current.triggers.reverse.filter fun trigger =>
          !busy.contains trigger.name && trigger.waitsFor isEarly event
        due.foldlM (fun isGoing trigger =>
          if isGoing then
            runTrigger (reaction bound (trigger.name :: busy)) (current.definition.eventLayout event)
              (current.definition.eventRow former next) policy trigger.statement
          else return false) true
      follow := fun name values? rows => match values? with
        | some values => discard <| update (reaction bound busy) name (some .refuse) (fun _ _ => return .ok values) rows
        | none => delete (reaction bound busy) name rows }

end Change

namespace Tables

def reaction (tables : Tables) : Reaction :=
  let depth (relation : Relation) : Nat := relation.triggers.length + relation.rows.length + 1
  Change.reaction ((tables.relations.map depth).foldl (· + ·) 0) []

/-- Carries out a change. One that is refused leaves everything as it was, unless it is said to keep what it has
done. What is kept has the values that it refers to. -/
def run {α : Type} (tables : Tables) (change : Change α) : Except RelationError α × Tables :=
  let (result, changed) := change { tables.withSequences with counted := 0, debts := 0 }
  let isKept := match result with
    | .ok _ => true
    | .error error => error.keepsChanges
  if !isKept then (result, tables)
  else if 0 < changed.debts then (.error .noParent, tables)
  else (result, { tables.keepSequences changed with
    changes := changed.counted, totalChanges := changed.totalChanges + changed.counted })

end Tables

end InspectionForms
