import InspectionForms.Text.Blank
import InspectionForms.Text.Digits

namespace InspectionForms

/-- A part of a statement. Words are in lower case as keywords and keep their spelling as names. A name in double quotes
may be a text after all. A text without its last quote, and a mark that has no meaning, are illegal. -/
inductive LexemeKind
  | word (spelling : String)
  | name (text : String) (isDoubtful : Bool)
  | literal (text : String)
  | blob (bytes : List UInt8)
  | numeral (text : String)
  | parameter
  | mark (text : String)
  | illegal
  deriving DecidableEq, Repr

/-- A part of a statement, with the offsets where it starts and stops. -/
structure Lexeme where
  kind : LexemeKind
  start : Nat
  stop : Nat
  deriving DecidableEq, Repr

namespace Lexeme

def isWordStart (c : Char) : Bool := c.isAlpha || c == '_' || 0x80 ≤ c.toNat

def isWordChar (c : Char) : Bool := isWordStart c || c.isDigit || c == '$'

def isSpace (c : Char) : Bool :=
  c == ' ' || c == '\t' || c == '\n' || c == '\x0c' || c == '\r' || c.toNat == 0xFEFF

/-- The text up to a closing quote and what follows it, if there is one. Inside, the quote is written twice. -/
def unquote? (quote : Char) : List Char → Option (List Char × List Char)
  | c :: d :: rest =>
    if c ≠ quote then (unquote? quote (d :: rest)).map fun (text, rest) => (c :: text, rest)
    else if d = quote then (unquote? quote rest).map fun (text, rest) => (quote :: text, rest)
    else some ([], d :: rest)
  | [c] => if c = quote then some ([], []) else none
  | [] => none

def skipComment : List Char → List Char
  | '*' :: '/' :: rest => rest
  | _ :: rest => skipComment rest
  | [] => []

/-- The digits at the start of some characters. Single bars may stand between two of them. -/
def takeDigits (isDigit : Char → Bool) : List Char → List Char
  | c :: '_' :: d :: rest =>
    if isDigit c then
      if isDigit d then c :: '_' :: takeDigits isDigit (d :: rest) else [c]
    else []
  | c :: rest => if isDigit c then c :: takeDigits isDigit rest else []
  | [] => []

def takeNumeral (cs : List Char) : List Char :=
  match cs with
  | '0' :: x :: d :: rest =>
    if (x = 'x' ∨ x = 'X') ∧ (hexValue? d).isSome then
      '0' :: x :: takeDigits (fun c => (hexValue? c).isSome) (d :: rest)
    else decimal cs
  | cs => decimal cs
where
  decimal (cs : List Char) : List Char :=
    let whole := takeDigits Char.isDigit cs
    let rest := cs.drop whole.length
    let fraction := if rest.head? = some '.' then '.' :: takeDigits Char.isDigit rest.tail else []
    let rest := rest.drop fraction.length
    let sign := (rest.drop 1).take (if rest[1]? = some '-' ∨ rest[1]? = some '+' then 1 else 0)
    let digits := takeDigits Char.isDigit (rest.drop (1 + sign.length))
    let hasExponent := (rest.head? = some 'e' ∨ rest.head? = some 'E') ∧ !digits.isEmpty
    whole ++ fraction ++ (if hasExponent then rest.take 1 ++ sign ++ digits else [])

def bytesOfHex? : List Char → Option (List UInt8)
  | [] => some []
  | [_] => none
  | a :: b :: rest => do
    let high ← hexValue? a
    let low ← hexValue? b
    return UInt8.ofNat (16 * high + low) :: (← bytesOfHex? rest)

def longMarks : List String := ["->>", "->", "==", "<=", "<>", "<<", ">=", ">>", "!=", "||"]

def shortMarks : List Char := ['(', ')', ';', '+', '-', '*', '/', '%', '=', '<', '>', '|', ',', '&', '~', '.']

def readMark (cs : List Char) : LexemeKind × List Char :=
  match longMarks.find? fun mark => mark.toList.isPrefixOf cs with
  | some mark => (.mark mark, cs.drop mark.length)
  | none =>
    match cs with
    | [] => (.illegal, [])
    | c :: rest =>
      if c = '?' then (.parameter, rest.dropWhile Char.isDigit)
      else if ['$', '@', '#', ':'].contains c then
        (if rest.head?.any isWordChar then .parameter else .illegal, rest.dropWhile isWordChar)
      else (if shortMarks.contains c then .mark (String.singleton c) else .illegal, rest)

/-- Reads one part, unless a blank or a comment stands first, with what follows it. -/
def readKind : List Char → Option LexemeKind × List Char
  | [] => (none, [])
  | c :: rest =>
    if isSpace c then (none, rest)
    else if c = '-' ∧ rest.head? = some '-' then (none, rest.dropWhile (· != '\n'))
    else if c = '/' ∧ rest.head? = some '*' ∧ 1 < rest.length then (none, skipComment (rest.drop 1))
    else if c = '\'' ∨ c = '"' ∨ c = '\x60' then
      match unquote? c rest with
      | none => (some .illegal, [])
      | some (text, rest) =>
        (some (if c = '\'' then .literal (String.ofList text) else .name (String.ofList text) (c == '"')), rest)
    else if c = '[' then
      if !rest.contains ']' then (some .illegal, [])
      else (some (.name (String.ofList (rest.takeWhile (· != ']'))) false), (rest.dropWhile (· != ']')).drop 1)
    else if (c = 'x' ∨ c = 'X') ∧ rest.head? = some '\'' then
      let digits := rest.tail.takeWhile (· != '\'')
      match bytesOfHex? digits, rest.tail.contains '\'' with
      | some bytes, true => (some (.blob bytes), rest.drop (digits.length + 2))
      | _, _ => (some .illegal, rest.drop (digits.length + 2))
    else if c.isDigit || (c == '.' && rest.head?.any Char.isDigit) then
      let numeral := takeNumeral (c :: rest)
      let rest := (c :: rest).drop numeral.length
      if rest.head?.any isWordChar then (some .illegal, rest.dropWhile isWordChar)
      else (some (.numeral (String.ofList (numeral.filter (· != '_')))), rest)
    else if isWordStart c then
      (some (.word (String.ofList ((c :: rest).takeWhile isWordChar))), (c :: rest).dropWhile isWordChar)
    else (readMark (c :: rest)).map some id

/-- The parts of a statement from an offset on. A bound says how many there can be. -/
def readFrom : Nat → Nat → List Char → List Lexeme
  | 0, _, _ => []
  | _, _, [] => []
  | bound + 1, start, c :: cs =>
    let (kind?, rest) := readKind (c :: cs)
    let stop := start + (cs.length + 1 - rest.length)
    match kind? with
    | some kind => ⟨kind, start, stop⟩ :: readFrom bound stop rest
    | none => readFrom bound stop rest

def ofText (text : String) : List Lexeme := readFrom text.toList.length 0 text.toList

def keyword? (lexeme : Lexeme) : Option String :=
  match lexeme.kind with
  | .word spelling => some (lowerAscii spelling)
  | _ => none

def isMark (mark : String) (lexeme : Lexeme) : Bool := lexeme.kind == .mark mark

def joiningWords : List String := ["cross", "full", "inner", "left", "natural", "outer", "right"]

def reservedWords : List String :=
  ["add", "all", "alter", "and", "as", "autoincrement", "between", "case", "check", "collate", "commit", "constraint",
    "create", "default", "deferrable", "delete", "distinct", "drop", "else", "escape", "except", "exists", "foreign",
    "from", "group", "having", "in", "index", "insert", "intersect", "into", "is", "isnull", "join", "limit", "not",
    "nothing", "notnull", "null", "on", "or", "order", "primary", "references", "returning", "select", "set", "table",
    "then", "to", "transaction", "union", "unique", "update", "using", "values", "when", "where"]

def name? (lexeme : Lexeme) : Option String :=
  match lexeme.kind with
  | .word text => if reservedWords.contains (lowerAscii text) then none else some text
  | .name text _ | .literal text => some text
  | _ => none

def slice (statement : String) (start stop : Nat) : String :=
  String.ofList ((statement.toList.drop start).take (stop - start))

end Lexeme

end InspectionForms
