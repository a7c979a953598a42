import InspectionForms.Database.Expression
import InspectionForms.Database.Grammar.Basic

namespace InspectionForms

namespace Grammar

/-- The operation that a mark stands for, with its rank. Those of a higher rank bind their operands first. -/
def operationOfMark? (mark : String) : Option (Nat × BinaryOperation) :=
  match mark with
  | "=" | "==" => some (4, .equals)
  | "<>" | "!=" => some (4, .differs)
  | "<" => some (5, .less)
  | "<=" => some (5, .atMost)
  | ">" => some (5, .greater)
  | ">=" => some (5, .atLeast)
  | "&" => some (6, .bitsOfBoth)
  | "|" => some (6, .bitsOfEither)
  | "<<" => some (6, .shiftLeft)
  | ">>" => some (6, .shiftRight)
  | "+" => some (7, .add)
  | "-" => some (7, .subtract)
  | "*" => some (8, .multiply)
  | "/" => some (8, .divide)
  | "%" => some (8, .remainder)
  | "||" => some (9, .join)
  | _ => none

def joinKind? (words : List String) : Option JoinKind :=
  let has := words.contains
  let isOuter := has "outer" || has "left" || has "right" || has "full"
  let hasSide := has "left" || has "right" || has "full"
  if (isOuter && (has "inner" || has "cross")) || (isOuter && !hasSide) then none
  else if has "full" || (has "left" && has "right") then some .full
  else if has "left" then some .left
  else if has "right" then some .right
  else some .inner

/-- Reads the words in front of a table that is joined with those before: how they are joined, and whether all shared
columns have to agree. -/
def takeJoin? : Grammar (Option (JoinKind × Bool)) := do
  if ← takeMark? "," then return some (.inner, false)
  if ← takeWord? "join" then return some (.inner, false)
  if !Lexeme.joiningWords.contains (← word) then return none
  let lexemes ← get
  let named := (lexemes.take 3).takeWhile fun lexeme => lexeme.keyword? != some "join"
  if named.any fun lexeme => lexeme.name?.isNone then
    skip ((named.takeWhile fun lexeme => lexeme.name?.isSome).length)
    refuse
  skip named.length
  takeWord "join"
  let words := named.map fun lexeme => lexeme.keyword?.getD ""
  match joinKind? words, words.all Lexeme.joiningWords.contains with
  | some kind, true => return some (kind, words.contains "natural")
  | _, _ =>
    throw (.said ("unknown join type: " ++
      " ".intercalate (← named.mapM fun lexeme => return Lexeme.slice (← read) lexeme.start lexeme.stop)))

def takeDirection : Grammar SortDirection := do
  let isFalling ← takeWord? "desc"
  if !isFalling then discard <| takeWord? "asc"
  if ← takeWord? "nulls" then return ⟨isFalling, (← takeOneOf ["first", "last"]) == "last"⟩
  else return ⟨isFalling, isFalling⟩

/-- Reads the words of the name of a type, which may be left out. A bound says how many there can be. -/
def takeTypeName : Nat → Grammar (List String)
  | 0 => return []
  | bound + 1 => do
    if !(← hasLooseName) || (← word) == "generated" then return []
    let name ← takeName
    return name :: (← takeTypeName bound)

def takeSigned : Grammar Unit := do
  if !(← takeMark? "-") then discard <| takeMark? "+"
  match (← get).head?.map Lexeme.kind with
  | some (.numeral _) => skip 1
  | _ => refuse

def takeType : Grammar String := do
  let words ← takeTypeName (← get).length
  if !words.isEmpty && (← mark) == "(" then
    enclosed do
      takeSigned
      if ← takeMark? "," then takeSigned
    return " ".intercalate words ++ "()"
  return " ".intercalate words

def takeExclusion : Grammar FrameExclusion := do
  if !(← takeWord? "exclude") then return .nothing
  match ← takeOneOf ["no", "current", "group", "ties"] with
  | "no" => do
    takeWord "others"
    return .nothing
  | "current" => do
    takeWord "row"
    return .current
  | "group" => return .group
  | _ => return .ties

/-- Reads a number or a text without anything behind it. -/
def literal? (lexeme : Lexeme) : Option Expression :=
  match lexeme.kind with
  | .numeral text => (Cell.ofLiteral? text).map .constant
  | .literal text => some (.constant (.ofString text))
  | .blob bytes => some (.constant (.blob bytes))
  | .word text =>
    match lowerAscii text with
    | "null" => some (.constant .null)
    | "current_time" | "current_date" | "current_timestamp" => some (.call (lowerAscii text) [])
    | _ => none
  | _ => none

/-- The opposite of a value. The least integer is read as a whole. -/
def opposite (lexeme : Option Lexeme) (value : Expression) : Expression :=
  match lexeme.map Lexeme.kind with
  | some (.numeral text) =>
    if naturalOfDigits? text.toList = some 0x8000000000000000 then .constant (.integer (-0x8000000000000000))
    else .minus value
  | _ => .minus value

def hasQuery : Grammar Bool := return ["select", "values", "with"].contains (← word)

def overWindow (name : String) (values conditions : List Expression) (window : Expression) : Expression :=
  match window with
  | .framed _ _ _ base parts orders directions frame distances =>
    .framed name values conditions base parts orders directions frame distances
  | window => window

def rowQuery (row : List Expression) : Query :=
  let labels := row.zipIdx.map fun (_, k) => ⟨"column" ++ natText (k + 1), false⟩
  .select false row labels .nothing [] [] [] [] [] [] [] []

/-- Puts two queries together. An order and bounds of the second one are about the whole. -/
def combined (operation : SetOperation) (left right : Query) : Query :=
  match right with
  | .select isDistinct values labels source conditions groups groupConditions orders directions bounds names windows =>
    let inner : Query :=
      .select isDistinct values labels source conditions groups groupConditions [] [] [] names windows
    if orders.isEmpty && bounds.isEmpty then .compound operation left right
    else .ordered (.compound operation left inner) orders directions bounds
  | right => .compound operation left right

mutual

/-- Reads a value of which the operations have at least some rank. A bound says how deep it can go. -/
def takeValueOf (bound rank : Nat) : Grammar Expression :=
  match bound with
  | 0 => refuse
  | bound + 1 => do takeOperations bound rank (← takeOperand bound)

def takeOperations (bound rank : Nat) (value : Expression) : Grammar Expression :=
  match bound with
  | 0 => refuse
  | bound + 1 => do
    match ← takeOperation? bound rank value with
    | some value => takeOperations bound rank value
    | none => return value

/-- Reads an operation behind a value, if it has at least some rank. -/
def takeOperation? (bound rank : Nat) (value : Expression) : Grammar (Option Expression) :=
  match bound with
  | 0 => refuse
  | bound + 1 => do
    let mark ← mark
    if let some (own, operation) := operationOfMark? mark then
      if own < rank then return none
      skip 1
      return some (.binary operation value (← takeValueOf bound (own + 1)))
    if mark == "->" || mark == "->>" then
      if 9 < rank then return none
      skip 1
      return some (.call mark [value, ← takeValueOf bound 10])
    match ← word with
    | "or" => do
      if 1 < rank then return none
      skip 1
      return some (.binary .either value (← takeValueOf bound 2))
    | "and" => do
      if 2 < rank then return none
      skip 1
      return some (.binary .both value (← takeValueOf bound 3))
    | "collate" => do
      skip 1
      return some (.collated value (← takeName))
    | _ => if 4 < rank then return none else takeTest? bound value

def takeTest? (bound : Nat) (value : Expression) : Grammar (Option Expression) :=
  match bound with
  | 0 => refuse
  | bound + 1 => do
    let absent (isSame : Bool) : Expression := .binary (if isSame then .same else .notSame) value (.constant .null)
    match ← word with
    | "isnull" => do
      skip 1
      return some (absent true)
    | "notnull" => do
      skip 1
      return some (absent false)
    | "is" => do
      skip 1
      let isNegated ← takeWord? "not"
      let isDistinct := (← word) == "distinct" && (← wordAt 1) == "from"
      if isDistinct then skip 2
      return some (.binary (if isNegated == isDistinct then .same else .notSame) value (← takeValueOf bound 5))
    | "not" => do
      match ← wordAt 1 with
      | "null" => do
        skip 2
        return some (absent false)
      | _ => do
        skip 1
        match ← takeMembership? bound true value with
        | some test => return some test
        | none => refuse
    | _ => takeMembership? bound false value

def takeMembership? (bound : Nat) (isNegated : Bool) (value : Expression) : Grammar (Option Expression) :=
  match bound with
  | 0 => refuse
  | bound + 1 => do
    match ← word with
    | "between" => do
      skip 1
      let low ← takeValueOf bound 3
      takeWord "and"
      return some (.negatedIf isNegated (.between value low (← takeValueOf bound 5)))
    | "in" => do
      skip 1
      if !(← takeMark? "(") then
        let name ← takeFullName
        let values ← if (← mark) == "(" then some <$> takeArguments bound else pure none
        let source : Source := match values with
          | some values => .function name values none
          | none => .table name none
        return some (.negatedIf isNegated
          (.within value (.select false [.every none] [⟨"", false⟩] source [] [] [] [] [] [] [] [])))
      if ← hasQuery then
        let inner ← takeQueryOf bound
        takeMark ")"
        return some (.negatedIf isNegated (.within value inner))
      let values ← if (← mark) == ")" then pure [] else takeValues bound
      takeMark ")"
      return some (.negatedIf isNegated (.member value values))
    | "like" | "glob" | "regexp" | "match" => do
      let name ← takeName
      let pattern ← takeValueOf bound 5
      let escape ← if ← takeWord? "escape" then pure [← takeValueOf bound 5] else pure []
      return some (.negatedIf isNegated (.call name (pattern :: value :: escape)))
    | _ => if isNegated then refuse else return none

def takeOperand (bound : Nat) : Grammar Expression :=
  match bound with
  | 0 => refuse
  | bound + 1 => do
    match ← mark with
    | "-" => do
      skip 1
      let lexeme := (← get).head?
      return opposite lexeme (← takeOperand bound)
    | "+" => do
      skip 1
      return .call "+" [← takeOperand bound]
    | "~" => do
      skip 1
      return .complement (← takeOperand bound)
    | "(" => do
      skip 1
      if ← hasQuery then
        let inner ← takeQueryOf bound
        takeMark ")"
        return .first 0 inner
      let values ← takeValues bound
      takeMark ")"
      return match values with
        | [value] => value
        | values => .row values
    | _ => takeWordOperand bound

def takeWordOperand (bound : Nat) : Grammar Expression :=
  match bound with
  | 0 => refuse
  | bound + 1 => do
    let isCall := (← markAt 1) == "("
    match ← word with
    | "not" => do
      skip 1
      return .negation (← takeValueOf bound 3)
    | "case" => do
      skip 1
      let value? ← if (← word) == "when" then pure none else some <$> takeValueOf bound 1
      takeCases bound value?
    | "exists" => do
      skip 1
      return .presence (← enclosed (takeQueryOf bound))
    | _ =>
      if isCall && (← word) == "cast" then
        skip 2
        let value ← takeValueOf bound 1
        takeWord "as"
        let typeName ← takeType
        takeMark ")"
        return .cast value (.ofTypeName (lowerAscii typeName))
      else if isCall && (← word) == "raise" then
        skip 2
        let action ← takeOneOf ["ignore", "rollback", "abort", "fail"]
        let message ← if action == "ignore" then pure (.constant (.ofString "")) else do
          takeMark ","
          takeValueOf bound 1
        takeMark ")"
        return .refusal action message
      else if let some value := (← get).head?.bind literal? then
        if (← markAt 1) == "." && (← hasNameAt 0) then takeColumn else
        skip 1
        return value
      else if isCall && (← hasNameAt 0) then takeCall bound
      else takeColumn

def takeColumn : Grammar Expression := do
  let isQuoted := (← get).head?.any fun lexeme => lexeme.kind matches .name _ true
  let first ← takeName
  if !(← takeMark? ".") then return .column none first isQuoted
  let second ← takeName
  if !(← takeMark? ".") then return .column (some first) second false
  return .column (some second) (← takeName) false

def takeCall (bound : Nat) : Grammar Expression :=
  match bound with
  | 0 => refuse
  | bound + 1 => do
    let name ← takeName
    takeMark "("
    let isDistinct ← takeWord? "distinct"
    if !isDistinct then discard <| takeWord? "all"
    let isEvery := (← mark) == "*" && !isDistinct
    if isEvery then skip 1
    let values ← if isEvery || (← mark) == ")" then pure [] else takeValues bound
    let sorted ← if !isEvery && (← takeWord? "order") then do
        takeWord "by"
        takeSorted bound
      else pure []
    takeMark ")"
    let conditions ← if (← word) == "filter" && (← markAt 1) == "(" then do
        skip 2
        takeWord "where"
        let condition ← takeValueOf bound 1
        takeMark ")"
        pure [condition]
      else pure []
    if (← word) == "over" && ((← markAt 1) == "(" || (← hasNameAt 1)) then
      skip 1
      if (← mark) == "(" then return overWindow name values conditions (← takeWindow bound)
      else return .framed name values conditions (some (← takeName)) [] [] [] none []
    if isDistinct || !sorted.isEmpty || !conditions.isEmpty then
      return .gathered name isDistinct values (sorted.map Prod.fst) (sorted.map Prod.snd) conditions
    return .call name values

/-- Reads a window: the rows that belong together, their order, and those around a row that count. -/
def takeWindow (bound : Nat) : Grammar Expression :=
  match bound with
  | 0 => refuse
  | bound + 1 => do
    takeMark "("
    let lead ← word
    let isBase := (← hasNameAt 0) && !(["partition", "order", "rows", "range", "groups"].contains lead)
    let base ← if isBase then some <$> takeName else pure none
    let parts ← if ← takeWord? "partition" then do
        takeWord "by"
        takeValues bound
      else pure []
    let sorted ← if ← takeWord? "order" then do
        takeWord "by"
        takeSorted bound
      else pure []
    let unit? : Option FrameUnit := match ← word with
      | "rows" => some .rows
      | "range" => some .range
      | "groups" => some .groups
      | _ => none
    let orders := sorted.map Prod.fst
    let directions := sorted.map Prod.snd
    match unit? with
    | none =>
      takeMark ")"
      return .framed "" [] [] base parts orders directions none []
    | some unit =>
      skip 1
      let hasStop ← takeWord? "between"
      let (start, startDistance) ← takeEdge bound
      let (stop, stopDistance) ← if hasStop then do
          takeWord "and"
          takeEdge bound
        else pure (.current, .constant .null)
      let exclusion ← takeExclusion
      takeMark ")"
      return .framed "" [] [] base parts orders directions (some ⟨unit, start, stop, exclusion⟩)
        [startDistance, stopDistance]

def takeEdge (bound : Nat) : Grammar (FrameEdge × Expression) :=
  match bound with
  | 0 => refuse
  | bound + 1 => do
    if ← takeWord? "unbounded" then
      let side ← takeOneOf ["preceding", "following"]
      return (if side == "preceding" then .first else .last, .constant .null)
    if (← word) == "current" && (← wordAt 1) == "row" then
      skip 2
      return (.current, .constant .null)
    let distance ← takeValueOf bound 1
    let side ← takeOneOf ["preceding", "following"]
    return (if side == "preceding" then .before else .behind, distance)

def takeCases (bound : Nat) (value? : Option Expression) : Grammar Expression :=
  match bound with
  | 0 => refuse
  | bound + 1 => do
    takeWord "when"
    let test ← takeValueOf bound 1
    takeWord "then"
    let positive ← takeValueOf bound 1
    let condition := (value?.map fun value => Expression.binary .equals value test).getD test
    match ← word with
    | "else" => do
      skip 1
      let negative ← takeValueOf bound 1
      takeWord "end"
      return .choice condition positive negative
    | "end" => do
      skip 1
      return .choice condition positive (.constant .null)
    | _ => return .choice condition positive (← takeCases bound value?)

def takeValues (bound : Nat) : Grammar (List Expression) :=
  match bound with
  | 0 => refuse
  | bound + 1 => do
    let value ← takeValueOf bound 1
    if ← takeMark? "," then return value :: (← takeValues bound) else return [value]

def takeArguments (bound : Nat) : Grammar (List Expression) :=
  match bound with
  | 0 => refuse
  | bound + 1 => do
    takeMark "("
    if ← takeMark? ")" then return []
    let values ← takeValues bound
    takeMark ")"
    return values

def takeSorted (bound : Nat) : Grammar (List (Expression × SortDirection)) :=
  match bound with
  | 0 => refuse
  | bound + 1 => do
    let value ← takeValueOf bound 1
    let direction ← takeDirection
    if ← takeMark? "," then return (value, direction) :: (← takeSorted bound) else return [(value, direction)]

def takeQueryOf (bound : Nat) : Grammar Query :=
  match bound with
  | 0 => refuse
  | bound + 1 => do
    if ← takeWord? "with" then
      if (← word) == "recursive" && (← hasNameAt 1) then skip 1
      takeNamed bound
    else
      let (first, ending) ← takeSelect bound
      takeCompound bound ending first

def takeNamed (bound : Nat) : Grammar Query :=
  match bound with
  | 0 => refuse
  | bound + 1 => do
    let name ← takeName
    let columns ← if (← mark) == "(" then some <$> takeNames else pure none
    takeWord "as"
    if ← takeWord? "not" then takeWord "materialized" else discard <| takeWord? "materialized"
    let definition ← enclosed (takeQueryOf bound)
    if ← takeMark? "," then return .named name columns definition (← takeNamed bound)
    let (first, ending) ← takeSelect bound
    return .named name columns definition (← takeCompound bound ending first)

/-- Reads the queries that are put together with one, which must not be ended by an order or by bounds. -/
def takeCompound (bound : Nat) (ending : Option String) (left : Query) : Grammar Query :=
  match bound with
  | 0 => refuse
  | bound + 1 => do
    let operation? : Option (SetOperation × String) ← match ← word with
      | "union" => if (← wordAt 1) == "all" then pure (some (.unionAll, "UNION ALL")) else pure (some (.union, "UNION"))
      | "except" => pure (some (.except, "EXCEPT"))
      | "intersect" => pure (some (.intersect, "INTERSECT"))
      | _ => pure none
    match operation? with
    | none => return left
    | some (operation, name) => do
      skip (if operation = .unionAll then 2 else 1)
      let (right, rightEnding) ← takeSelect bound
      let whole ← takeCompound bound rightEnding (combined operation left right)
      match ending with
      | some clause => throw (.said (clause ++ " clause should come after " ++ name ++ " not before"))
      | none => return whole

/-- Reads a query that is not put together from others, and says whether an order or bounds end it. Behind another
query these are about the whole. -/
def takeSelect (bound : Nat) : Grammar (Query × Option String) :=
  match bound with
  | 0 => refuse
  | bound + 1 => do
    if ← takeWord? "values" then
      let row ← enclosed (takeValues bound)
      return (← takeRows bound (rowQuery row), none)
    takeWord "select"
    let isDistinct ← takeWord? "distinct"
    if !isDistinct then discard <| takeWord? "all"
    let results ← takeResults bound
    let source ← if ← takeWord? "from" then takeSources bound else pure .nothing
    let conditions ← if ← takeWord? "where" then pure [← takeValueOf bound 1] else pure []
    let groups ← if ← takeWord? "group" then do
        takeWord "by"
        takeValues bound
      else pure []
    let groupConditions ← if ← takeWord? "having" then pure [← takeValueOf bound 1] else pure []
    let windows ← if (← word) == "window" && (← hasNameAt 1) then do
        skip 1
        takeWindows bound
      else pure []
    let sorted ← if ← takeWord? "order" then do
        takeWord "by"
        takeSorted bound
      else pure []
    let bounds ← takeBounds bound
    let select (orders : List (Expression × SortDirection)) (bounds : List Expression) : Query :=
      .select isDistinct (results.map Prod.fst) (results.map Prod.snd) source conditions groups groupConditions
        (orders.map Prod.fst) (orders.map Prod.snd) bounds (windows.map Prod.fst) (windows.map Prod.snd)
    let ending := if !sorted.isEmpty then some "ORDER BY" else if !bounds.isEmpty then some "LIMIT" else none
    return (select sorted bounds, ending)

def takeRows (bound : Nat) (query : Query) : Grammar Query :=
  match bound with
  | 0 => refuse
  | bound + 1 => do
    if !(← takeMark? ",") then return query
    let row ← enclosed (takeValues bound)
    takeRows bound (.compound .unionAll query (rowQuery row))

def takeResults (bound : Nat) : Grammar (List (Expression × ResultLabel)) :=
  match bound with
  | 0 => refuse
  | bound + 1 => do
    let result ← takeResult bound
    if ← takeMark? "," then return result :: (← takeResults bound) else return [result]

def takeResult (bound : Nat) : Grammar (Expression × ResultLabel) :=
  match bound with
  | 0 => refuse
  | bound + 1 => do
    if ← takeMark? "*" then return (.every none, ⟨"", false⟩)
    if (← hasNameAt 0) && (← markAt 1) == "." && (← markAt 2) == "*" then
      let table ← takeName
      skip 2
      return (.every (some table), ⟨"", false⟩)
    let (value, text) ← spelled (takeValueOf bound 1)
    if ← takeWord? "as" then return (value, ⟨← takeName, true⟩)
    if ← hasLooseName then return (value, ⟨← takeName, true⟩)
    return (value, ⟨text, false⟩)

/-- Reads how many rows are found at most, and how many are left out before. -/
def takeBounds (bound : Nat) : Grammar (List Expression) :=
  match bound with
  | 0 => refuse
  | bound + 1 => do
    if !(← takeWord? "limit") then return []
    let count ← takeValueOf bound 1
    if ← takeWord? "offset" then return [count, ← takeValueOf bound 1]
    if ← takeMark? "," then return [← takeValueOf bound 1, count]
    return [count]

def takeWindows (bound : Nat) : Grammar (List (String × Expression)) :=
  match bound with
  | 0 => refuse
  | bound + 1 => do
    let name ← takeName
    takeWord "as"
    let window ← takeWindow bound
    if ← takeMark? "," then return (name, window) :: (← takeWindows bound) else return [(name, window)]

def takeSources (bound : Nat) : Grammar Source :=
  match bound with
  | 0 => refuse
  | bound + 1 => do
    let first ← takeSource bound
    let (shared, conditions) ← takeAgreement bound
    let clause := if shared.isSome then "USING" else "ON"
    if shared.isSome || !conditions.isEmpty then throw (.said ("a JOIN clause is required before " ++ clause))
    takeJoined bound first

def takeJoined (bound : Nat) (left : Source) : Grammar Source :=
  match bound with
  | 0 => refuse
  | bound + 1 => do
    match ← takeJoin? with
    | none => return left
    | some (kind, isNatural) => do
      let right ← takeSource bound
      let (shared, conditions) ← takeAgreement bound
      if isNatural && (shared.isSome || !conditions.isEmpty) then
        throw (.said "a NATURAL join may not have an ON or USING clause")
      takeJoined bound (.join kind isNatural shared conditions 0 0 left right)

def takeAgreement (bound : Nat) : Grammar (Option (List String) × List Expression) :=
  match bound with
  | 0 => refuse
  | bound + 1 => do
    if ← takeWord? "on" then return (none, [← takeValueOf bound 1])
    if ← takeWord? "using" then return (some (← takeNames), [])
    return (none, [])

def takeSource (bound : Nat) : Grammar Source :=
  match bound with
  | 0 => refuse
  | bound + 1 => do
    if ← takeMark? "(" then
      if ← hasQuery then
        let inner ← takeQueryOf bound
        takeMark ")"
        return .query inner (← takeLabel)
      let source ← takeSources bound
      takeMark ")"
      discard takeLabel
      return source
    let name ← takeFullName
    if (← mark) == "(" then
      let values ← takeArguments bound
      return .function name values (← takeLabel)
    let label ← takeLabel
    if (← word) == "indexed" && (← wordAt 1) == "by" then
      skip 2
      discard takeName
    else if (← word) == "not" && (← wordAt 1) == "indexed" then skip 2
    return .table name label

def takeLabel : Grammar (Option String) := do
  if ← takeWord? "as" then return some (← takeName)
  if (← hasLooseName) && !(["window", "indexed"].contains (← word)) then return some (← takeName)
  return none

end

def depth : Grammar Nat := return 16 * ((← get).length + 1)

def takeValue : Grammar Expression := do takeValueOf (← depth) 1

def takeQuery : Grammar Query := do takeQueryOf (← depth)

end Grammar

end InspectionForms
