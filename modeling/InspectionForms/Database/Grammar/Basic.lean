import InspectionForms.Database.Lexeme

namespace InspectionForms

/-- Why the parts of a statement cannot be read: they stop too early if nothing is left, what stands in front of the
rest is not expected there, or something else is wrong with them. -/
inductive SyntaxFault
  | unexpected (rest : List Lexeme)
  | said (message : String)
  deriving DecidableEq, Repr

abbrev Grammar := ReaderT String (StateT (List Lexeme) (Except SyntaxFault))

def SyntaxFault.message (statement : String) : SyntaxFault → String
  | unexpected [] => "incomplete input"
  | unexpected (lexeme :: _) =>
    let text := Lexeme.slice statement lexeme.start lexeme.stop
    if lexeme.kind = .illegal then "unrecognized token: \"" ++ text ++ "\"" else "near \"" ++ text ++ "\": syntax error"
  | said message => message

namespace Grammar

def refuse {α : Type} : Grammar α := do throw (.unexpected (← get))

def wordAt (k : Nat) : Grammar String := return (((← get)[k]?).bind Lexeme.keyword?).getD ""

def word : Grammar String := wordAt 0

def markAt (k : Nat) : Grammar String := do
  return match ((← get)[k]?).map Lexeme.kind with
    | some (.mark mark) => mark
    | _ => ""

def mark : Grammar String := markAt 0

def skip (count : Nat) : Grammar Unit := modify fun lexemes => lexemes.drop count

def takeWord? (expected : String) : Grammar Bool := do
  let isThere := (← word) == expected
  if isThere then skip 1
  return isThere

def takeWord (expected : String) : Grammar Unit := do if !(← takeWord? expected) then refuse

def takeWords (expected : List String) : Grammar Unit := expected.forM takeWord

def takeOneOf (expected : List String) : Grammar String := do
  let found ← word
  if !expected.contains found then refuse
  skip 1
  return found

def takeMark? (expected : String) : Grammar Bool := do
  let isThere := (← mark) == expected
  if isThere then skip 1
  return isThere

def takeMark (expected : String) : Grammar Unit := do if !(← takeMark? expected) then refuse

def hasNameAt (k : Nat) : Grammar Bool := return (((← get)[k]?).bind Lexeme.name?).isSome

def takeName : Grammar String := do
  match (← get).head?.bind Lexeme.name? with
  | some name =>
    skip 1
    return name
  | none => refuse

/-- Whether a name stands there that can follow a table or a type, where words that join tables do not count. -/
def hasLooseName : Grammar Bool := return (← hasNameAt 0) && !Lexeme.joiningWords.contains (← word)

def takeFullName : Grammar String := do
  let name ← takeName
  if ← takeMark? "." then takeName else return name

/-- Reads something for which there can be more, with commas between. A bound says how many there can be. -/
def takeMore {α : Type} (item : Grammar α) : Nat → Grammar (List α)
  | 0 => return []
  | bound + 1 => do if ← takeMark? "," then return (← item) :: (← takeMore item bound) else return []

def takeList {α : Type} (item : Grammar α) : Grammar (List α) := do
  let first ← item
  return first :: (← takeMore item (← get).length)

def enclosed {α : Type} (content : Grammar α) : Grammar α := do
  takeMark "("
  let content ← content
  takeMark ")"
  return content

def takeNames : Grammar (List String) := enclosed (takeList takeName)

def spelled {α : Type} (content : Grammar α) : Grammar (α × String) := do
  let before ← get
  let content ← content
  let taken := before.take (before.length - (← get).length)
  match taken.head?, taken.getLast? with
  | some first, some last => return (content, Lexeme.slice (← read) first.start last.stop)
  | _, _ => return (content, "")

def ofText {α : Type} (content : Grammar α) (statement : String) : Except SyntaxFault α := do
  let (content, rest) ← (content.run statement).run (Lexeme.ofText statement)
  match rest with
  | [] => return content
  | lexeme :: _ => if lexeme.isMark ";" then return content else throw (.unexpected rest)

end Grammar

end InspectionForms
