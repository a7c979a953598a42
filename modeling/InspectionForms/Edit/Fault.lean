import InspectionForms.Edit
import InspectionForms.Json.Fault

namespace InspectionForms

/-- A character of a text in a message. Only those that control how a text is shown are written by their numbers. -/
def messageChar : Char → List Char
  | '\x00' => ['\\', '0']
  | '\t' => ['\\', 't']
  | '\n' => ['\\', 'n']
  | '\r' => ['\\', 'r']
  | '"' => ['\\', '"']
  | '\\' => ['\\', '\\']
  | c =>
    if c.toNat < 0x20 ∨ (0x7F ≤ c.toNat ∧ c.toNat < 0xA0) then
      ['\\', 'u', '\x7b'] ++ Nat.toDigits 16 c.toNat ++ ['\x7d']
    else [c]

def Json.foundText : Json → String
  | .null => "null"
  | .bool value => "boolean \x60" ++ (if value then "true" else "false") ++ "\x60"
  | .number (.integer value _) => "integer \x60" ++ intText value ++ "\x60"
  | .number (.double value) => "floating point \x60" ++ String.ofList value.text ++ "\x60"
  | .string value => "string \"" ++ String.ofList (value.toList.flatMap messageChar) ++ "\""
  | .array _ => "sequence"
  | .object _ => "map"

/-- What a member of an edit may be. -/
inductive MemberType
  | text
  | row
  | anything

/-- The members of an edit with what they may be, in the order of its list form. -/
def EditKind.members : EditKind → List (String × MemberType)
  | field => [("section", .text), ("field", .text), ("value", .anything)]
  | cell => [("section", .text), ("sub_section", .text), ("row", .row), ("column", .text), ("value", .anything)]
  | attach => [("section", .text), ("field", .text), ("file_name", .text)]

/-- What is wrong with a text that is no script. -/
inductive ScriptFault
  | notJson (fault : JsonFault)
  | wrongKind (found : Json) (expected : String)
  | negativeRow (row : Json)
  | unknownEdit (name : String)
  | missingMember (name : String)
  | repeatedMember (name : String)
  | missingPart (kind : EditKind) (count : Nat)
  | furtherParts (kind : EditKind) (count : Nat)

def EditKind.formText : EditKind → String
  | field => "struct variant Edit::Field"
  | cell => "struct variant Edit::Cell"
  | attach => "struct variant Edit::Attach"

def ScriptFault.message : ScriptFault → String
  | notJson fault => fault.message
  | wrongKind found expected => "invalid type: " ++ found.foundText ++ ", expected " ++ expected
  | negativeRow row => "invalid value: " ++ row.foundText ++ ", expected usize"
  | unknownEdit name =>
    "unknown variant \x60" ++ name ++ "\x60, expected one of " ++
      ", ".intercalate (EditKind.all.map fun kind => "\x60" ++ kind.name ++ "\x60")
  | missingMember name => "missing field \x60" ++ name ++ "\x60"
  | repeatedMember name => "duplicate field \x60" ++ name ++ "\x60"
  | missingPart kind count =>
    "invalid length " ++ toString count ++ ", expected " ++ kind.formText ++ " with " ++
      toString kind.members.length ++ " elements"
  | furtherParts kind count =>
    "invalid length " ++ toString count ++ ", expected " ++ toString kind.members.length ++
      " elements in sequence"

def MemberType.fault? : MemberType → Json → Option ScriptFault
  | text, .string _ => none
  | text, value => some (.wrongKind value "a string")
  | row, .number (.integer value inRange) =>
    if 0 ≤ value then none else some (.negativeRow (.number (.integer value inRange)))
  | row, value => some (.wrongKind value "usize")
  | anything, _ => none

namespace Edit

def kindOf : Json → Except ScriptFault EditKind
  | .string name => match EditKind.ofName? name with
    | some kind => .ok kind
    | none => .error (.unknownEdit name)
  | value => .error (.wrongKind value "variant identifier")

/-- What is wrong with the members of an object besides the one that names the kind: first of all with those that are
there, in their order, and then with what is missing. `seen` are the names that have gone before. -/
def membersFault? (kind : EditKind) (seen : List String) : List (String × Json) → Option ScriptFault
  | [] => (kind.members.find? fun m => !seen.contains m.1).map fun m => .missingMember m.1
  | (name, value) :: rest =>
    match kind.members.find? fun m => m.1 == name with
    | none => membersFault? kind seen rest
    | some (_, type) =>
      if seen.contains name then some (.repeatedMember name)
      else (type.fault? value).or (membersFault? kind (name :: seen) rest)

/-- What is wrong with the parts of an edit in its list form, of which `count` have gone before. -/
def partsFault? (kind : EditKind) (count : Nat) : List (String × MemberType) → List Json → Option ScriptFault
  | [], [] => none
  | [], parts => some (.furtherParts kind (count + parts.length))
  | _, [] => some (.missingPart kind count)
  | (_, type) :: rest, value :: parts => (type.fault? value).or (partsFault? kind (count + 1) rest parts)

/-- What is wrong with a value that is no edit. The kind is looked for first. -/
def fault? : Json → Option ScriptFault
  | .object members =>
    match members.filter fun member => member.1 == "op" with
    | [] => some (.missingMember "op")
    | (_, value) :: others =>
      match kindOf value with
      | .error fault => some fault
      | .ok kind => if others.isEmpty then membersFault? kind [] members else some (.repeatedMember "op")
  | .array [] => some (.missingMember "op")
  | .array (value :: parts) =>
    match kindOf value with
    | .error fault => some fault
    | .ok kind => partsFault? kind 0 kind.members parts
  | value => some (.wrongKind value "internally tagged enum Edit")

end Edit

/-- Reads a script byte by byte up to the first fault. -/
structure ScriptReader where
  checker : JsonChecker
  count : Nat
  rest : List UInt8

namespace ScriptReader

def depth (reader : ScriptReader) : Nat := reader.checker.inObject.length

def next? (reader : ScriptReader) : Option Char := reader.rest.head?.map fun b => Char.ofNat b.toNat

def isAtSpace (reader : ScriptReader) : Bool := reader.rest.head?.any JsonChecker.isSpace

/-- What has been read of a value or a name is all of it. A number ends where it cannot go on. -/
def isBehindValue (reader : ScriptReader) : Bool :=
  match reader.checker.place with
  | .gap .afterValue | .gap .colon | .word [] => true
  | .numeral place letters =>
    let goesOn := reader.rest.head?.any fun b => match JsonChecker.nextNumeral? place b with
      | .ok none => false
      | _ => true
    [.zero, .whole, .fraction, .exponent].contains place && !goesOn && (JsonChecker.endNumeral [] letters).isOk
  | _ => false

def isAtPart (reader : ScriptReader) : Bool :=
  match reader.checker.place with
  | .gap .firstItem | .gap .item => !reader.isAtSpace && reader.next?.any (· != ']')
  | .gap .firstName | .gap .name => reader.next? == some '"'
  | _ => false

/-- The place of a fault that is found when a member is repeated: behind the blanks after its name. -/
def countAtName (reader : ScriptReader) : Nat :=
  let blanks := reader.rest.takeWhile JsonChecker.isSpace
  reader.count + blanks.length + if reader.rest[blanks.length]? = some 0x7D then 1 else 0

/-- The place of a fault that is found when an edit has been read: before the next one. -/
def countBehind (reader : ScriptReader) : Nat :=
  let blanks := reader.rest.takeWhile JsonChecker.isSpace
  reader.count + blanks.length + match reader.rest.drop blanks.length with
    | 0x5D :: _ => 1
    | 0x2C :: rest => 1 + (rest.takeWhile JsonChecker.isSpace).length
    | _ => 0

end ScriptReader

abbrev ScriptReading := StateT ScriptReader (Except (ScriptFault × Nat))

namespace ScriptReading

def fail {α : Type} (fault : ScriptFault) : ScriptReading α := do throw (fault, (← get).count)

/-- Reads a byte, or finds that the text has ended too early. -/
def step : ScriptReading Unit := do
  let reader ← get
  match reader.rest with
  | [] => if let some fault := reader.checker.endFault? then fail (.notJson fault)
  | b :: rest => match reader.checker.step b with
    | .ok checker => set (⟨checker, reader.count + 1, rest⟩ : ScriptReader)
    | .error (fault, isAtByte) => throw (.notJson fault, if isAtByte then reader.count + 1 else reader.count)

def stepWhile (goesOn : ScriptReader → Bool) : ScriptReading Unit := do
  for _ in 0 :: (← get).rest do
    if goesOn (← get) then step

def value : ScriptReading Json := do
  let start ← get
  step
  stepWhile fun reader => !(reader.depth == start.depth && reader.isBehindValue)
  let bytes := start.rest.take ((← get).count - start.count)
  return (Json.ofText? Json.nestingLimit (textOfBytes bytes)).getD .null

/-- Reads what names the kind of an edit. A container in its place is only looked at. -/
def kind : ScriptReading EditKind := do
  stepWhile ScriptReader.isAtSpace
  let found ← match (← get).next? with
    | some '[' => pure (.array [])
    | some '\x7b' => pure (.object [])
    | _ => value
  match Edit.kindOf found with
  | .ok kind => return kind
  | .error fault => fail fault

/-- Reads on to the next part of a container, or behind its end, and tells whether there is one. -/
def advance : ScriptReading Bool := do
  let depth := (← get).depth
  stepWhile fun reader => reader.depth == depth && !reader.isAtPart
  return (← get).depth == depth

/-- Reads the rest of a list. A bound says how many items there can be. -/
def items : Nat → ScriptReading (List Json)
  | 0 => return []
  | bound + 1 => do if ← advance then return (← value) :: (← items bound) else return []

/-- Reads the rest of an object, in which a member may name the kind of an edit. -/
def members (kind? : Option EditKind) : Nat → ScriptReading (Option EditKind × List (String × Json))
  | 0 => return (kind?, [])
  | bound + 1 => do
    if !(← advance) then return (kind?, [])
    let .string name ← value | return (kind?, [])
    if name == "op" && kind?.isSome then throw (.repeatedMember name, (← get).countAtName)
    stepWhile ScriptReader.isAtSpace
    step
    if name == "op" then members (some (← kind)) bound
    else
      stepWhile ScriptReader.isAtSpace
      let value ← value
      let (kind?, others) ← members kind? bound
      return (kind?, (name, value) :: others)

/-- Reads an edit, of which the kind is looked for first. -/
def edit : ScriptReading Unit := do
  let bound := (← get).rest.length
  let fault? ← match (← get).next? with
    | some '[' => do
      step
      if !(← advance) then fail (.missingMember "op")
      let kind ← kind
      pure (Edit.partsFault? kind 0 kind.members (← items bound))
    | some '\x7b' => do
      step
      match ← members none bound with
      | (none, _) => fail (.missingMember "op")
      | (some kind, members) => pure (Edit.membersFault? kind [] members)
    | _ => fail (.wrongKind (← value) "internally tagged enum Edit")
  if let some fault := fault? then throw (fault, (← get).countBehind)

def edits : Nat → ScriptReading Unit
  | 0 => return ()
  | bound + 1 => do
    if ← advance then
      edit
      edits bound

def script : ScriptReading Unit := do
  stepWhile ScriptReader.isAtSpace
  match (← get).next? with
  | some '[' =>
    step
    edits ((← get).rest.length + 1)
    stepWhile fun reader => !reader.rest.isEmpty
  | some '\x7b' => fail (.wrongKind (.object []) "a sequence")
  | _ => fail (.wrongKind (← value) "a sequence")

end ScriptReading

def scriptFaultText (text : String) : String :=
  let bytes := utf8 text
  match ScriptReading.script.run ⟨.start, 0, bytes⟩ with
  | .ok _ => ""
  | .error (fault, count) => fault.message ++ placeText bytes count

end InspectionForms
