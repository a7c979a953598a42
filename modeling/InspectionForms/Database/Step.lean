import InspectionForms.Database.Tables

namespace InspectionForms

namespace LayoutColumn

/-- A column of a row that is not in its table, which has to be named with a label. Only numbers of rows come with an
affinity. -/
def outside (label : String) (number : List Nat) (column : LayoutColumn) : LayoutColumn :=
  { column with
    label := some label
    visibility := .labelled
    affinity := if number.contains column.index then some .integer else none }

end LayoutColumn

namespace TableDefinition

def numberPositions (definition : TableDefinition) : List Nat :=
  definition.idColumn.toList ++ if definition.hasRowNumbers then [definition.columns.length] else []

/-- A row outside of its table, under a label. A name that a column has does not mean the number of the row. -/
def outsideLayout (definition : TableDefinition) (label : String) : Layout :=
  let isNamed (column : LayoutColumn) : Bool := column.visibility == .reserve && definition.hasColumn column.name
  let columns := definition.layout.columns.filter fun column => !isNamed column
  ⟨columns.map (LayoutColumn.outside label definition.numberPositions), definition.layout.width⟩

/-- The layout of the rows before and after an event, one behind the other. Before an insertion there is none, and none
after a deletion. -/
def eventLayout (definition : TableDefinition) (event : TriggerEvent) : Layout :=
  let former := definition.outsideLayout "old"
  let next := definition.outsideLayout "new"
  Layout.beside (if event == .insertion then { former with columns := [] } else former)
    (if event == .deletion then { next with columns := [] } else next)

def eventRow (definition : TableDefinition) (former next : Option TableRow) : QueryRow :=
  let row (row? : Option TableRow) : QueryRow := match row? with
    | some row => Relation.fullRow definition row
    | none => List.replicate definition.layout.width (.ofCell .null)
  row former ++ row next

def upsertLayout (definition : TableDefinition) : Layout :=
  let excluded := definition.outsideLayout "excluded"
  let plain (column : LayoutColumn) : LayoutColumn := { column with affinity := none, collation := .binary }
  definition.layout.beside { excluded with columns := excluded.columns.map plain }

def isMeant (definition : TableDefinition) (upsert : Upsert) (key : UniqueKey) : Bool :=
  let parts := (upsert.columns.filterMap fun part => (definition.keyPart part).toOption).map Prod.fst
  let isSame (a b : KeyPart) : Bool := match a, b with
    | .column j, .column k => j == k
    | .computed a, .computed b => a.isSame b
    | _, _ => false
  let condition? := upsert.keyCondition.bind fun condition =>
    (condition.placed (.ofDefinition definition.layout "partial index WHERE clauses")).toOption
  let isRight := match key.condition, condition? with
    | none, _ => true
    | some condition, some other => condition.isSame other
    | some _, none => false
  upsert.columns.isEmpty || (isRight && key.parts.length == parts.length &&
    key.parts.all fun part => parts.any (isSame part.1))

def isNumberMeant (definition : TableDefinition) (upsert : Upsert) : Bool :=
  match upsert.columns with
  | [] => true
  | [part] => match definition.keyPart part with
    | .ok (.column k, _) => definition.idColumn == some k
    | .ok (.computed (.field place), _) => definition.hasRowNumbers && place.index == definition.columns.length
    | _ => false
  | _ => false

end TableDefinition

namespace Tables

def named {α : Type} (result : Except NamingFault α) : Except RelationError α := result.mapError .misnamed

/-- A table that a statement changes. A view can only be changed by triggers, and what the database keeps for itself not
at all. -/
def requireTable (tables : Tables) (name : String) (event : TriggerEvent) : Except RelationError Relation := do
  let some relation := tables.relation? name |
    if (ownLayout? name).isSome then throw (.misnamed (.said ("table " ++ name ++ " may not be modified")))
    else throw (.noTable name)
  discard (named (tables.layout name))
  if relation.view.isSome && !relation.triggers.any fun trigger => trigger.waitsFor false event then
    throw (.viewNotChanged relation.definition.name)
  let hasSequences := (tables.relation? sequenceName).any fun sequences =>
    sequences.definition.hasRowNumbers && sequences.definition.columns.length = 2
  if event == .insertion && relation.definition.countsIds && !hasSequences then
    throw (.misnamed (.said "database disk image is malformed"))
  return relation

def assignmentsPlaced (scope : NamingScope) (relation : Relation) (assignments : List Assignment) :
    Except RelationError (List Assignment) := do
  let parts ← assignments.mapM fun assignment => do
    let value ← named (assignment.value.placed scope)
    let values ← match assignment.columns, value with
      | [_], value => do pure [← named value.requireSingle]
      | _, .row values => pure values
      | _, value => pure [value]
    if values.length != assignment.columns.length then
      throw (.misnamed (.said (toString assignment.columns.length ++ " columns assigned " ++ toString values.length ++
        " values")))
    assignment.columns.forM (relation.definition.requireColumn false (.noSuchColumn · none))
    return (assignment.columns.zip values).map fun (column, value) => (⟨[column], value⟩ : Assignment)
  return parts.flatten

def upsertPlaced (tables : Tables) (outer : List Layout) (relation : Relation) (upsert : Upsert) :
    Except RelationError Upsert := do
  let definition := relation.definition
  if relation.view.isSome then throw (.misnamed (.said "cannot UPSERT a view"))
  if relation.module.isSome then
    throw (.misnamed (.said ("UPSERT not implemented for virtual table \"" ++ definition.name ++ "\"")))
  for part in upsert.columns do discard (named (definition.keyPart part))
  if !definition.isNumberMeant upsert && !definition.uniqueKeys.any (definition.isMeant upsert) then throw .noSharedKey
  let scope := tables.namingScope (definition.upsertLayout :: outer) true
  let assignments ← upsert.assignments.mapM (assignmentsPlaced scope relation)
  let condition ← upsert.condition.mapM fun condition => named (condition.placed scope)
  return { upsert with assignments, condition }

/-- A step of a trigger in which everything has its place that it names. `outer` are the rows that the trigger is
about. -/
def stepPlaced (tables : Tables) (outer : List Layout) (step : TriggerStep) : Except RelationError TriggerStep := do
  let scope := tables.namingScope outer true
  match step with
  | .look query => return .look (← named (query.placed scope)).1
  | .insert table columns query remedy upserts =>
    let relation ← tables.requireTable table .insertion
    let names := columns.getD relation.definition.plainNames
    names.forM (relation.definition.requireColumn true (.noColumnNamed table))
    let (query, results) ← named (query.placed scope)
    let width := results.length
    if columns.isNone && width != names.length then throw (.valueCount table names.length width)
    if width != names.length then throw (.namedValueCount names.length width)
    return .insert table (some names) query remedy (← upserts.mapM (tables.upsertPlaced outer relation))
  | .update table assignments source condition remedy =>
    let event : TriggerEvent := .change (some (assignments.flatMap Assignment.columns))
    let relation ← tables.requireTable table event
    let layout ← named (tables.layout table)
    let (source, others) ← named (source.placed scope .empty)
    let inner := scope.within ((layout.withLabel (some table)).beside others)
    let assignments ← assignmentsPlaced inner relation assignments
    let condition ← condition.mapM fun condition => do named (← named (condition.placed inner)).requireSingle
    return .update table assignments source condition remedy
  | .delete table condition =>
    discard (tables.requireTable table .deletion)
    let layout ← named (tables.layout table)
    let inner := scope.within (layout.withLabel (some table))
    return .delete table (← condition.mapM fun condition => do named (← named (condition.placed inner)).requireSingle)

def conditionPlaced (tables : Tables) (outer : List Layout) (condition : Expression) :
    Except RelationError Expression := do
  named (← named (condition.placed (tables.namingScope outer true))).requireSingle

end Tables

end InspectionForms
