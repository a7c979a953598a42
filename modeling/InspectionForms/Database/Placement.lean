import InspectionForms.Database.Naming

namespace InspectionForms

namespace Expression

def placedCall (scope : NamingScope) (name : String) (values : List Expression) : Except NamingFault Expression := do
  match ← scope.functionKind name values.length with
  | .gathering =>
    scope.requireGathering name
    return gathered name false values [] [] []
  | .overRows => throw (.misplaced "window function " name)
  | .plain =>
    match lowerAscii name with
    | "iif" | "if" => return choiceOf values
    | _ => return call name values

def placedGathering (scope : NamingScope) (name : String) (isDistinct : Bool) (values orders : List Expression)
    (directions : List SortDirection) (conditions : List Expression) : Except NamingFault Expression := do
  match ← scope.functionKind name values.length with
  | .gathering =>
    scope.requireGathering name
    if isDistinct && values.length != 1 then throw (.said "DISTINCT aggregates must have exactly one argument")
    return gathered name isDistinct values orders directions conditions
  | .overRows => throw (.misplaced "window function " name)
  | .plain =>
    if !conditions.isEmpty then throw (.said ("FILTER may not be used with non-aggregate " ++ name ++ "()"))
    if !orders.isEmpty then throw (.said ("ORDER BY may not be used with non-aggregate " ++ name ++ "()"))
    placedCall scope name values

def basedWindow (scope : NamingScope) (window? : Option String) (parts orders : List Expression)
    (directions : List SortDirection) (frame : Option Frame) (distances : List Expression) :
    Except NamingFault (List Expression × List Expression × List SortDirection × Option Frame × List Expression) := do
  let some name := window? | return (parts, orders, directions, frame, distances)
  match scope.windows.find? fun window => isSameName window.1 name with
  | some (_, framed _ _ _ _ baseParts baseOrders baseDirections baseFrame baseDistances) =>
    let isWhole := parts.isEmpty && orders.isEmpty && frame.isNone
    let refused (clause : String) : NamingFault := .said ("cannot override " ++ clause ++ " of window: " ++ name)
    if !parts.isEmpty then throw (refused "PARTITION clause")
    if !orders.isEmpty && !baseOrders.isEmpty then throw (refused "ORDER BY clause")
    if !isWhole && baseFrame.isSome then throw (refused "frame specification")
    let (orders, directions) := if orders.isEmpty then (baseOrders, baseDirections) else (orders, directions)
    let (frame, distances) := if frame.isNone then (baseFrame, baseDistances) else (frame, distances)
    return (baseParts, orders, directions, frame, distances)
  | _ => throw (.said ("no such window: " ++ name))

def placedOver (scope : NamingScope) (name : String) (values conditions : List Expression) (window? : Option String)
    (parts orders : List Expression) (directions : List SortDirection) (frame : Option Frame)
    (distances : List Expression) : Except NamingFault Expression := do
  let kind ← if name.isEmpty then pure .overRows else scope.functionKind name values.length
  if kind = .plain then throw (.said (name ++ "() may not be used as a window function"))
  if !scope.allowsOver then throw (.misplaced "window function " name)
  let (parts, orders, directions, frame, distances) ← basedWindow scope window? parts orders directions frame distances
  return framed name values conditions none parts orders directions frame distances

def distinctWindows (found : List Expression) : List Expression :=
  let isLike (a b : Expression) : Bool := match a, b with
    | framed _ _ _ _ parts orders directions _ _, framed _ _ _ _ otherParts otherOrders otherDirections _ _ =>
      areSame parts otherParts && areSame orders otherOrders && directions == otherDirections
    | _, _ => true
  found.foldl (fun kept value =>
    if !(value matches framed ..) || kept.any (isLike value) then kept else kept ++ [value]) []

/-- Two values with an operation between them. Rows of values are compared value by value. -/
def placedBinary (operation : BinaryOperation) (left right : Expression) : Except NamingFault Expression := do
  if !isComparison operation then return binary operation (← left.requireSingle) (← right.requireSingle)
  match left, right with
  | row lefts, row rights =>
    if lefts.length != rights.length then throw .rowMisused
    return comparedRows operation lefts rights
  | row _, _ | _, row _ => throw .rowMisused
  | _, _ => return binary operation left right

def placedMember (value : Expression) (values : List Expression) : Except NamingFault Expression := do
  match value with
  | row cells =>
    let tests ← values.mapM fun other => do
      let others := match other with
        | row others => others
        | other => [other]
      if others.length != cells.length then
        throw (.said ("IN(...) element has " ++ toString others.length ++
          (if others.length = 1 then " term" else " terms") ++ " - expected " ++ toString cells.length))
      return comparedRows .equals cells others
    return tests.foldr (binary .either) (constant (.integer 0))
  | value => return member value (← values.mapM requireSingle)

def ofPlace (clause : String) (results : List (Expression × ResultColumn)) (nth : Nat) (place : Int) :
    Except NamingFault Expression :=
  match if 0 < place then results[place.toNat - 1]? else none with
  | some (value, _) => .ok value
  | none => .error (.outOfRange clause nth results.length)

end Expression

def ResultColumn.placeOf (columns : List ResultColumn) (nth : Nat) : Expression → Except NamingFault Expression
  | .constant (.integer place) =>
    match if 0 < place then columns[place.toNat - 1]? else none with
    | some column => .ok (.field ⟨0, place.toNat - 1, column.affinity, column.collation⟩)
    | none => .error (.outOfRange "ORDER" nth columns.length)
  | .collated value collation => (placeOf columns nth value).map (.collated · collation)
  | .column _ name _ =>
    match columns.zipIdx.find? fun (column, _) => isSameName column.name name with
    | some (column, k) => .ok (.field ⟨0, k, column.affinity, column.collation⟩)
    | none => .error (.unmatchedOrder nth)
  | _ => .error (.unmatchedOrder nth)

namespace Source

def placedJoin (kind : JoinKind) (isNatural : Bool) (shared : Option (List String))
    (leftLayout rightLayout : Layout) : Except NamingFault (List Expression × Layout) := do
  let names := if isNatural then leftLayout.sharedNames rightLayout else shared.getD []
  let whole := leftLayout.beside rightLayout
  let conditions ← names.mapM fun name => do
    match (leftLayout.matching none name).filter fun column => column.visibility != .reserve,
      (rightLayout.matching none name).filter fun column => column.visibility != .reserve with
    | column :: _, other :: _ =>
      return Expression.binary .equals (column.field 0)
        (.field ⟨0, leftLayout.width + other.index, other.affinity, other.collation⟩)
    | _, _ => throw (.notShared name)
  let layout := if names.isEmpty then whole
    else leftLayout.merged names (kind == .right || kind == .full) rightLayout
  return (conditions, layout)

end Source

mutual

def Expression.placed (scope : NamingScope) : Expression → Except NamingFault Expression
  | .constant value => .ok (.constant value)
  | .field place => .ok (.field place)
  | .column table? name isQuoted => do
    if table?.isSome && (scope.place == some "index expressions" || scope.place == some "generated columns") then
      throw (.notInPlace "the \".\" operator" (scope.place.getD ""))
    scope.column table? name isQuoted
  | .minus value => do return .minus (← (← value.placed scope).requireSingle)
  | .negation value => do return .negation (← (← value.placed scope).requireSingle)
  | .complement value => do return .complement (← (← value.placed scope).requireSingle)
  | .binary operation left right => do
    let a ← left.placed scope
    let b ← right.placed scope
    match operation, right, b with
    | .same, .column none word false, .constant (.integer truth) =>
      return Expression.truthTest true (truth != 0 && isSameName word "true") (← a.requireSingle)
    | .notSame, .column none word false, .constant (.integer truth) =>
      return Expression.truthTest false (truth != 0 && isSameName word "true") (← a.requireSingle)
    | _, _, _ => Expression.placedBinary operation a b
  | .member value values => do
    let value ← value.placed scope
    Expression.placedMember value (← Expression.allPlaced scope values)
  | .choice condition positive negative => do
    let condition ← (← condition.placed scope).requireSingle
    let positive ← (← positive.placed scope).requireSingle
    return .choice condition positive (← (← negative.placed scope).requireSingle)
  | .call name values => do
    let isGathering := FunctionKind.ofName? (lowerAscii name) (some values.length) == some .gathering
    let values ← Expression.singlesPlaced (if isGathering then scope.inFunction else scope) values
    Expression.placedCall scope name values
  | .gathered name isDistinct values orders directions conditions => do
    let values ← Expression.singlesPlaced scope.inFunction values
    let orders ← Expression.singlesPlaced scope.inFunction orders
    let conditions ← Expression.singlesPlaced scope.inFunction conditions
    Expression.placedGathering scope name isDistinct values orders directions conditions
  | .framed name values conditions window? parts orders directions frame distances => do
    let inner := { scope with allowsOver := false }
    let values ← Expression.singlesPlaced inner values
    let conditions ← Expression.singlesPlaced inner conditions
    let parts ← Expression.singlesPlaced inner parts
    let orders ← Expression.singlesPlaced inner orders
    let distances ← Expression.singlesPlaced inner distances
    Expression.placedOver scope name values conditions window? parts orders directions frame distances
  | .cast value affinity => do return .cast (← (← value.placed scope).requireSingle) affinity
  | .collated value collation => do return .collated (← (← value.placed scope).requireSingle) collation
  | .refusal action message => do
    if !scope.isTrigger then throw (.said "RAISE() may only be used within a trigger-program")
    return .refusal action (← (← message.placed scope).requireSingle)
  | .every table? => .error (.noStar table?)
  | .row values => do return .row (← Expression.singlesPlaced scope values)
  | .first index inner => do
    if let some place := scope.place then throw (.notInPlace "subqueries" place)
    let (inner, columns) ← inner.placed scope
    return if columns.length = 1 then .first index inner else .row ((List.range columns.length).map (.first · inner))
  | .presence inner => do
    if let some place := scope.place then throw (.notInPlace "subqueries" place)
    return .presence (← inner.placed scope).1
  | .within value inner => do
    let value ← value.placed scope
    if let some place := scope.place then throw (.notInPlace "subqueries" place)
    let (inner, columns) ← inner.placed scope
    if columns.length != value.rowWidth then throw (.wrongWidth columns.length value.rowWidth)
    return .within value inner

def Expression.allPlaced (scope : NamingScope) : List Expression → Except NamingFault (List Expression)
  | [] => .ok []
  | value :: rest => do return (← value.placed scope) :: (← Expression.allPlaced scope rest)

def Expression.singlesPlaced (scope : NamingScope) : List Expression → Except NamingFault (List Expression)
  | [] => .ok []
  | value :: rest => do
    return (← (← value.placed scope).requireSingle) :: (← Expression.singlesPlaced scope rest)

/-- Puts places into the values that a query gives for its rows, of which some stand for all columns. -/
def Expression.resultsPlaced (scope : NamingScope) (layout : Layout) (labels : List ResultLabel) :
    List Expression → Except NamingFault (List (Expression × ResultColumn))
  | [] => .ok []
  | value :: rest => do
    let results ← match value with
      | .every table? =>
        let columns := layout.allColumns table?
        if columns.isEmpty then throw (.noStar (if layout.width = 0 then none else table?))
        pure (columns.map fun column =>
          (column.field 0, (⟨column.name, column.affinity, column.collation⟩ : ResultColumn)))
      | value => do
        let placed ← (← value.placed scope).requireSingle
        pure [(placed, Expression.resultColumn scope.layouts (labels.headD ⟨"", false⟩) placed)]
    return results ++ (← Expression.resultsPlaced scope layout (labels.drop 1) rest)

/-- Puts places into the values of an order, of which some name a result by its place or its name. -/
def Expression.ordersPlaced (scope : NamingScope) (results : List (Expression × ResultColumn)) (nth : Nat) :
    List Expression → Except NamingFault (List Expression)
  | [] => .ok []
  | value :: rest => do
    let placed ← match value with
      | .constant (.integer place) => Expression.ofPlace "ORDER" results nth place
      | .column none name isQuoted =>
        match scope.aliases.find? fun entry => isSameName entry.1 name with
        | some (_, value) => pure value
        | none => scope.column none name isQuoted
      | value => do (← value.placed scope).requireSingle
    return placed :: (← Expression.ordersPlaced scope results (nth + 1) rest)

/-- Puts places into the values by which rows are grouped, of which some name a result by its place. -/
def Expression.groupsPlaced (scope : NamingScope) (results : List (Expression × ResultColumn)) (nth : Nat) :
    List Expression → Except NamingFault (List Expression)
  | [] => .ok []
  | value :: rest => do
    let placed ← match value with
      | .constant (.integer place) => Expression.ofPlace "GROUP" results nth place
      | value => do (← value.placed scope).requireSingle
    if placed.isTogether then throw (.said "aggregate functions are not allowed in the GROUP BY clause")
    return placed :: (← Expression.groupsPlaced scope results (nth + 1) rest)

def Query.placed (scope : NamingScope) : Query → Except NamingFault (Query × List ResultColumn)
  | .select isDistinct values labels source conditions groups groupConditions orders directions bounds names
      windows => do
    let outer :=
      { scope with aliases := [], windows := [], gathering := some "aggregate function ", allowsOver := false }
    let (source, layout) ← source.placed outer .empty
    let bounds ← Expression.singlesPlaced { outer with layouts := [] } bounds
    let inner := { outer.within layout with gathering := none }
    let windows ← Expression.allPlaced { inner with allowsOver := true } windows
    let inner := { inner with windows := names.zip windows, allowsOver := true }
    let results ← Expression.resultsPlaced inner layout labels values
    let isGrouped := !groups.isEmpty || results.any fun result => result.1.isTogether
    let given := (labels.zip values).filterMap fun (label, _) => if label.isGiven then some label.text else none
    let aliases := results.filterMap fun (value, column) =>
      if given.contains column.name then some (column.name, value) else none
    let named := { inner with
      aliases, allowsOver := false
      gathering := some (if isGrouped then "aggregate: " else "aggregate function ") }
    if !groupConditions.isEmpty && !isGrouped then throw (.said "HAVING clause on a non-aggregate query")
    let groupConditions ← Expression.singlesPlaced { named with gathering := none } groupConditions
    let conditions ← Expression.singlesPlaced named conditions
    let orders ← Expression.ordersPlaced
      { named with gathering := if isGrouped then none else some "aggregate: ", allowsOver := true } results 1 orders
    let groups ← Expression.groupsPlaced { named with gathering := none } results 1 groups
    let found := (results.map Prod.fst ++ orders).flatMap fun value => value.parts.filter Expression.isFramed
    let query := Query.select isDistinct (results.map Prod.fst) [] source conditions groups groupConditions orders
      directions bounds [] (Expression.distinctWindows found)
    return (query, results.map Prod.snd)
  | .compound operation left right => do
    let (left, columns) ← left.placed scope
    let (right, others) ← right.placed scope
    if columns.length != others.length then throw (.unevenCompound operation)
    return (.compound operation left right, columns)
  | .ordered inner orders directions bounds => do
    let (inner, columns) ← inner.placed scope
    let bounds ← Expression.singlesPlaced { scope with layouts := [], aliases := [], allowsOver := false } bounds
    let orders ← orders.zipIdx.mapM fun (value, k) => ResultColumn.placeOf columns (k + 1) value
    return (.ordered inner orders directions bounds, columns)
  | .named name names? definition inner => do
    let layoutOf (columns : List ResultColumn) : Except NamingFault Layout := do
      match names? with
      | none => return .ofResults none columns
      | some names =>
        if names.length != columns.length then throw (.wrongTableWidth name columns.length names.length)
        return .ofResults none ((names.zip columns).map fun (name, column) => { column with name })
    let isItself : NamingFault := .said ("circular reference: " ++ name)
    let before := { scope with common := (name, .error isItself) :: scope.common }
    let behind (layout : Layout) : NamingScope := { scope with common := (name, .ok layout) :: scope.common }
    match definition with
    | .compound operation left right => do
      let (left, columns) ← left.placed before
      let layout ← layoutOf columns
      let (right, others) ← right.placed (behind layout)
      if columns.length != others.length then throw (.unevenCompound operation)
      let (inner, results) ← inner.placed (behind layout)
      return (.named name names? (.compound operation left right) inner, results)
    | .ordered (.compound operation left right) orders directions bounds => do
      let (left, columns) ← left.placed before
      let layout ← layoutOf columns
      let (right, others) ← right.placed (behind layout)
      if columns.length != others.length then throw (.unevenCompound operation)
      let bounds ← Expression.singlesPlaced { scope with layouts := [], aliases := [], allowsOver := false } bounds
      let orders ← orders.zipIdx.mapM fun (value, k) => ResultColumn.placeOf columns (k + 1) value
      let (inner, results) ← inner.placed (behind layout)
      return (.named name names? (.ordered (.compound operation left right) orders directions bounds) inner, results)
    | definition => do
      let (definition, columns) ← definition.placed before
      let layout ← layoutOf columns
      let (inner, results) ← inner.placed (behind layout)
      return (.named name names? definition inner, results)

/-- Puts places into a source, with the layout of its rows. The values of a function may be taken from the rows of the
sources before it. -/
def Source.placed (scope : NamingScope) (before : Layout) : Source → Except NamingFault (Source × Layout)
  | .nothing => .ok (.nothing, .empty)
  | .table name label => do
    let layout ← match scope.common.find? fun table => isSameName table.1 name with
      | some (_, layout) => layout
      | none => scope.tables name
    return (.table name label, layout.withLabel (some (label.getD name)))
  | .function name values label => do
    let values ← Expression.singlesPlaced (scope.within before) values
    match Layout.ofFunction? (lowerAscii name) with
    | some layout => return (.function (lowerAscii name) values label, layout.withLabel (some (label.getD name)))
    | none => do
      discard (scope.tables name)
      throw (.notSourceFunction name)
  | .query inner label => do
    let (inner, columns) ← inner.placed scope
    return (.query inner label, .ofResults label columns)
  | .join kind isNatural shared conditions _ _ left right => do
    let (left, leftLayout) ← left.placed scope before
    let (right, rightLayout) ← right.placed scope (before.beside leftLayout)
    let (agreements, layout) ← Source.placedJoin kind isNatural shared leftLayout rightLayout
    let conditions ← Expression.singlesPlaced (scope.within layout) conditions
    return (.join kind false none (agreements ++ conditions) leftLayout.width rightLayout.width left right, layout)

end

end InspectionForms
