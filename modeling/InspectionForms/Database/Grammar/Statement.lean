import InspectionForms.Database.Grammar.Query
import InspectionForms.Database.Statement

namespace InspectionForms

namespace Grammar

def takeRemedyWord : Grammar Remedy := do
  match ← takeOneOf ["rollback", "abort", "fail", "ignore", "replace"] with
  | "ignore" => return .leaveOut
  | "replace" => return .replace
  | "fail" => return .stop
  | _ => return .refuse

def takeRemedy : Grammar Remedy := do
  if (← word) == "on" && (← wordAt 1) == "conflict" then
    skip 2
    takeRemedyWord
  else return .refuse

def takeStepRemedy? : Grammar (Option Remedy) := do
  if ← takeWord? "or" then return some (← takeRemedyWord) else return none

def keyColumn : Expression → Grammar KeyColumn
  | .column none name _ => return (name, none)
  | .constant (.text bytes) => return (textOfBytes bytes, none)
  | .collated value collation => do return ((← keyColumn value).1, some collation)
  | _ => throw (.said "expressions prohibited in PRIMARY KEY and UNIQUE constraints")

def takeSortedValues : Grammar (List Expression) := do return (← takeSorted (← depth)).map Prod.fst

def takeUsual : Grammar Expression := do
  match ← mark with
  | "(" => enclosed takeValue
  | "+" | "-" => do
    let isNegative := (← mark) == "-"
    skip 1
    let lexeme := (← get).head?
    let some value := lexeme.bind literal? | refuse
    skip 1
    return if isNegative then opposite lexeme value else value
  | _ => do
    match (← get).head?.bind literal? with
    | some value => do
      skip 1
      return value
    | none => do
      let name ← takeName
      return match lowerAscii name with
        | "true" => .constant (.integer 1)
        | "false" => .constant (.integer 0)
        | _ => .constant (.ofString name)

def takeReferenceActions (onDeletion onChange : ReferenceAction) : Nat → Grammar (ReferenceAction × ReferenceAction)
  | 0 => return (onDeletion, onChange)
  | bound + 1 => do
    if ← takeWord? "match" then
      discard takeName
      takeReferenceActions onDeletion onChange bound
    else if (← word) == "on" && (← wordAt 1) != "conflict" then
      skip 1
      let event ← takeOneOf ["insert", "delete", "update"]
      let action ← match ← takeOneOf ["set", "cascade", "restrict", "no"] with
        | "set" => do
          let value ← takeOneOf ["null", "default"]
          pure (if value == "null" then ReferenceAction.forget else .reset)
        | "cascade" => pure .follow
        | "restrict" => pure .forbid
        | _ => do
          takeWord "action"
          pure .keep
      takeReferenceActions (if event == "delete" then action else onDeletion)
        (if event == "update" then action else onChange) bound
    else return (onDeletion, onChange)

def takeDeferral : Grammar Unit := do
  let isNegated := (← word) == "not" && (← wordAt 1) == "deferrable"
  if isNegated || (← word) == "deferrable" then
    skip (if isNegated then 2 else 1)
    if ← takeWord? "initially" then discard <| takeOneOf ["deferred", "immediate"]

def takeReference (columns : List String) : Grammar Reference := do
  takeWord "references"
  let parent ← takeName
  let parentColumns ← if (← mark) == "(" then takeNames else pure []
  let (onDeletion, onChange) ← takeReferenceActions .keep .keep (← get).length
  return ⟨columns, parent, parentColumns, onDeletion, onChange⟩

/-- What a condition is called: its label, or its text, of which only the first name counts if that is quoted. -/
def conditionText (label text : String) : String :=
  if !label.isEmpty then label
  else match (Lexeme.ofText text).head?.map Lexeme.kind, text.toList.head?.any Lexeme.isWordChar with
    | some (.name name _), false | some (.literal name), false => name
    | _, _ => text

def takeCondition (label : String) : Grammar TableClause := do
  takeWord "check"
  let start := ((← get).head?.map Lexeme.stop).getD 0
  takeMark "("
  let value ← takeValue
  let stop := ((← get).head?.map Lexeme.start).getD 0
  takeMark ")"
  let text := ((Lexeme.slice (← read) start stop).toList.dropWhile Lexeme.isSpace).reverse.dropWhile Lexeme.isSpace
  return .condition (conditionText label (String.ofList text.reverse)) value

def takeComputed : Grammar TableClause := do
  takeWord "as"
  let value ← enclosed takeValue
  if !(← hasLooseName) then return .computed value false
  match lowerAscii (← takeName) with
  | "stored" => return .computed value true
  | "virtual" => return .computed value false
  | _ => throw (.said "error in generated column")

/-- Reads what is said about a column. `label` is the name that has been given to it, which comes back for what follows.
A bound says how many parts there can be. -/
def takeColumnClauses (column label : String) : Nat → Grammar (List TableClause × String)
  | 0 => return ([], label)
  | bound + 1 => do
    let go (clause : TableClause) : Grammar (List TableClause × String) := do
      let (clauses, label) ← takeColumnClauses column label bound
      return (clause :: clauses, label)
    match ← word with
    | "constraint" => do
      skip 1
      takeColumnClauses column (← takeName) bound
    | "default" => do
      skip 1
      go (.usual (← takeUsual))
    | "null" => do
      skip 1
      discard takeRemedy
      takeColumnClauses column label bound
    | "not" => do
      if (← wordAt 1) == "deferrable" then
        takeDeferral
        takeColumnClauses column label bound
      else
        takeWords ["not", "null"]
        go (.required (← takeRemedy))
    | "primary" => do
      takeWords ["primary", "key"]
      let isFalling ← takeWord? "desc"
      if !isFalling then discard <| takeWord? "asc"
      let remedy ← takeRemedy
      go (.primaryKey [] isFalling (← takeWord? "autoincrement") remedy)
    | "unique" => do
      skip 1
      go (.unique [] (← takeRemedy))
    | "check" => do go (← takeCondition label)
    | "references" => do go (.reference (← takeReference [column]))
    | "deferrable" => do
      takeDeferral
      takeColumnClauses column label bound
    | "collate" => do
      skip 1
      go (.collation (← takeName))
    | "generated" => do
      takeWords ["generated", "always"]
      go (← takeComputed)
    | "as" => do go (← takeComputed)
    | _ => return ([], label)

/-- Reads what is said about a table, with commas between that may be left out. A label stays for what follows without
one. A bound says how many parts there can be. -/
def takeTableClauses (label : String) : Nat → Grammar (List TableClause)
  | 0 => refuse
  | bound + 1 => do
    let go (clause : TableClause) : Grammar (List TableClause) := do return clause :: (← takeTableClauses label bound)
    match ← word with
    | "constraint" => do
      skip 1
      takeTableClauses (← takeName) bound
    | "primary" => do
      takeWords ["primary", "key"]
      let (columns, counts) ← enclosed do
        let columns ← (← takeSortedValues).mapM keyColumn
        return (columns, ← takeWord? "autoincrement")
      go (.primaryKey columns false counts (← takeRemedy))
    | "unique" => do
      skip 1
      let columns ← enclosed do (← takeSortedValues).mapM keyColumn
      go (.unique columns (← takeRemedy))
    | "check" => do
      let condition ← takeCondition label
      discard takeRemedy
      go condition
    | "foreign" => do
      takeWords ["foreign", "key"]
      let columns ← takeNames
      let reference ← takeReference columns
      takeDeferral
      go (.reference reference)
    | _ => if ← takeMark? "," then takeTableClauses "" bound else return []

def tableWords : List String := ["constraint", "primary", "unique", "check", "foreign"]

/-- Reads the columns of a table, and what is said about the table. A bound says how many columns there can be. -/
def takeColumns : Nat → Grammar (List ColumnStatement × List TableClause)
  | 0 => refuse
  | bound + 1 => do
    let name ← takeName
    let typeName ← takeType
    let (clauses, label) ← takeColumnClauses name "" (← get).length
    let column : ColumnStatement := ⟨name, lowerAscii typeName, clauses⟩
    if !(← takeMark? ",") then return ([column], [])
    if tableWords.contains (← word) then return ([column], ← takeTableClauses label (← get).length)
    let (columns, clauses) ← takeColumns bound
    return (column :: columns, clauses)

def takeOption : Grammar String := do
  let isNegated ← takeWord? "without"
  let name ← takeName
  let option := if isNegated then "without " ++ lowerAscii name else lowerAscii name
  if option == "strict" || option == "without rowid" then return option
  else throw (.said ("unknown table option: " ++ name))

def takeIfAbsent : Grammar Unit := do
  if (← word) == "if" && (← wordAt 1) == "not" then takeWords ["if", "not", "exists"]

def takeNewName : Grammar String := do
  takeIfAbsent
  takeFullName

def takeTable : Grammar TableStatement := do
  let name ← takeNewName
  let (columns, clauses) ← enclosed do takeColumns (← get).length
  let options ← if (← hasNameAt 0) then takeList takeOption else pure []
  return ⟨name, columns, clauses, options⟩

def takeIndex (isUnique : Bool) : Grammar IndexStatement := do
  let name ← takeNewName
  takeWord "on"
  let table ← takeName
  let parts ← enclosed takeSortedValues
  let condition ← if ← takeWord? "where" then some <$> takeValue else pure none
  return ⟨name, table, isUnique, parts, condition⟩

def takeView : Grammar ViewStatement := do
  let name ← takeNewName
  let columns ← if (← mark) == "(" then some <$> takeNames else pure none
  takeWord "as"
  return ⟨name, columns, ← takeQuery⟩

/-- The parts of something that is said to a module, up to a comma or a parenthesis that closes, as a text. `nested` is
how many other ones are open. -/
def takeModuleArgument (nested : Nat) : Nat → Grammar Unit
  | 0 => return ()
  | bound + 1 => do
    let mark ← mark
    if nested == 0 && (mark == "," || mark == ")") then return ()
    skip 1
    takeModuleArgument (if mark == "(" then nested + 1 else if mark == ")" then nested - 1 else nested) bound

def takeModule : Grammar ModuleStatement := do
  let name ← takeNewName
  takeWord "using"
  let module ← takeName
  let arguments ← if (← mark) != "(" then pure [] else enclosed do
    takeList (do return (← spelled (takeModuleArgument 0 (← get).length)).2)
  return ⟨name, lowerAscii module, arguments⟩

def takeAssignment : Grammar Assignment := do
  let isTogether := (← mark) == "("
  let columns ← if isTogether then takeNames else pure [← takeName]
  takeMark "="
  let value ← takeValue
  let width : Option Nat := match value with
    | .first .. => none
    | .row values => some values.length
    | _ => some 1
  if isTogether && width.any (· != columns.length) then
    throw (.said (toString columns.length ++ " columns assigned " ++ toString (width.getD 0) ++ " values"))
  return ⟨columns, value⟩

def takeWhere? : Grammar (Option Expression) := do if ← takeWord? "where" then some <$> takeValue else return none

/-- Reads what happens to new rows that share a key with others. A bound says how often this can be told. -/
def takeUpserts : Nat → Grammar (List Upsert)
  | 0 => return []
  | bound + 1 => do
    if !(← takeWord? "on") then return []
    takeWord "conflict"
    let columns ← if (← mark) == "(" then enclosed takeSortedValues else pure []
    let keyCondition ← if columns.isEmpty then pure none else takeWhere?
    takeWord "do"
    let upsert : Upsert ← match ← takeOneOf ["nothing", "update"] with
      | "nothing" => pure ⟨columns, keyCondition, none, none⟩
      | _ => do
        takeWord "set"
        let assignments ← takeList takeAssignment
        pure ⟨columns, keyCondition, some assignments, ← takeWhere?⟩
    if columns.isEmpty then return [upsert] else return upsert :: (← takeUpserts bound)

def takeChangedTable : Grammar String := do
  let name ← takeName
  if ← takeMark? "." then
    throw (.said "qualified table names are not allowed on INSERT, UPDATE, and DELETE statements within triggers")
  return name

def refuseHints : Grammar Unit := do
  let refused (hint : String) : Grammar Unit :=
    throw (.said ("the " ++ hint ++ " clause is not allowed on UPDATE or DELETE statements within triggers"))
  if (← word) == "indexed" && (← wordAt 1) == "by" then refused "INDEXED BY"
  if (← word) == "not" && (← wordAt 1) == "indexed" then refused "NOT INDEXED"

def takeInsertion (remedy : Option Remedy) : Grammar TriggerStep := do
  takeWord "into"
  let table ← takeChangedTable
  let columns ← if (← mark) == "(" then some <$> takeNames else pure none
  let query ← takeQuery
  let upserts ← takeUpserts (← get).length
  if (← word) == "returning" then throw (.said "cannot use RETURNING in a trigger")
  return .insert table columns query remedy upserts

def takeStep : Grammar TriggerStep := do
  match ← word with
  | "update" => do
    skip 1
    let remedy ← takeStepRemedy?
    let table ← takeChangedTable
    refuseHints
    takeWord "set"
    let assignments ← takeList takeAssignment
    let source ← if ← takeWord? "from" then takeSources (← depth) else pure .nothing
    return .update table assignments source (← takeWhere?) remedy
  | "delete" => do
    takeWords ["delete", "from"]
    let table ← takeChangedTable
    refuseHints
    return .delete table (← takeWhere?)
  | "insert" => do
    skip 1
    takeInsertion (← takeStepRemedy?)
  | "replace" => do
    skip 1
    takeInsertion (some .replace)
  | _ => return .look (← takeQuery)

/-- Reads the steps of a trigger, with a semicolon behind each. A bound says how many there can be. -/
def takeSteps : Nat → Grammar (List TriggerStep)
  | 0 => refuse
  | bound + 1 => do
    let step ← takeStep
    takeMark ";"
    if ← takeWord? "end" then return [step] else return step :: (← takeSteps bound)

def takeEvent : Grammar TriggerEvent := do
  match ← takeOneOf ["insert", "delete", "update"] with
  | "insert" => return .insertion
  | "delete" => return .deletion
  | _ => do
    if ← takeWord? "of" then return .change (some (← takeList takeName)) else return .change none

def takeTriggerHead : Grammar TriggerStatement := do
  let name ← takeNewName
  let time ← match ← word with
    | "before" => do
      skip 1
      pure TriggerTime.before
    | "after" => do
      skip 1
      pure .after
    | "instead" => do
      takeWords ["instead", "of"]
      pure .instead
    | _ => pure .before
  let event ← takeEvent
  takeWord "on"
  let table ← takeFullName
  if ← takeWord? "for" then takeWords ["each", "row"]
  let condition ← if ← takeWord? "when" then some <$> takeValue else pure none
  takeWord "begin"
  return ⟨name, table, time, event, condition, []⟩

def takeTrigger : Grammar TriggerStatement := do
  let head ← takeTriggerHead
  return { head with steps := ← takeSteps (← get).length }

def takeMade : Grammar String := do
  takeWord "create"
  match ← word with
  | "unique" => do
    takeWords ["unique", "index"]
    return "unique index"
  | "virtual" => do
    takeWords ["virtual", "table"]
    return "virtual table"
  | "index" => takeOneOf ["index"]
  | _ => do
    if !(← takeWord? "temp") then discard <| takeWord? "temporary"
    takeOneOf ["table", "view", "trigger"]

def takeSchemaStatement : Grammar SchemaStatement := do
  match ← takeMade with
  | "table" => return .table (← takeTable)
  | "view" => return .view (← takeView)
  | "trigger" => return .trigger (← takeTrigger)
  | "virtual table" => return .module (← takeModule)
  | "index" => return .index (← takeIndex false)
  | _ => return .index (← takeIndex true)

/-- Reads what is looked at before the rest of a statement is read, if there is such a part of it. -/
def takeSchemaHead : Grammar (Option SchemaStatement) := do
  match ← takeMade with
  | "table" => return some (.table ⟨← takeNewName, [], [], []⟩)
  | "trigger" => return some (.trigger (← takeTriggerHead))
  | "virtual table" => return some (.module ⟨← takeNewName, "", []⟩)
  | _ => return none

end Grammar

namespace SchemaStatement

def ofText (text : String) : Except SyntaxFault SchemaStatement := Grammar.ofText Grammar.takeSchemaStatement text

/-- Reads the start of such a statement, which tells what it makes. The rest may be illegible. -/
def headOfText? (text : String) : Option SchemaStatement :=
  match (Grammar.takeSchemaHead.run text).run (Lexeme.ofText text) with
  | .ok (head?, _) => head?
  | .error _ => none

end SchemaStatement

end InspectionForms
