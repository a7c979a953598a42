import InspectionForms.Json.Number

namespace InspectionForms

/-- The smallest parts of a JSON text. -/
inductive Token
  | openArray
  | closeArray
  | openObject
  | closeObject
  | comma
  | colon
  | null
  | bool (value : Bool)
  | number (value : Number)
  | string (value : String)
  deriving DecidableEq

namespace Token

def ofPunctuation? : Char → Option Token
  | '[' => some openArray
  | ']' => some closeArray
  | '\x7b' => some openObject
  | '\x7d' => some closeObject
  | ',' => some comma
  | ':' => some colon
  | _ => none

def ofWord? (word : List Char) : Option Token :=
  if word = "null".toList then some null
  else if word = "true".toList then some (bool true)
  else if word = "false".toList then some (bool false)
  else (Number.ofChars? word).map number

/-- A character inside a quoted text. Only quotes, backslashes and control characters are escaped. -/
def quotedChar (c : Char) : List Char :=
  if c = '"' then ['\\', '"']
  else if c = '\\' then ['\\', '\\']
  else if c = '\x08' then ['\\', 'b']
  else if c = '\x0c' then ['\\', 'f']
  else if c = '\n' then ['\\', 'n']
  else if c = '\r' then ['\\', 'r']
  else if c = '\t' then ['\\', 't']
  else if c.toNat < 0x20 then ['\\', 'u', '0', '0', Nat.digitChar (c.toNat / 16), Nat.digitChar (c.toNat % 16)]
  else [c]

def spelling : Token → List Char
  | openArray => ['[']
  | closeArray => [']']
  | openObject => ['\x7b']
  | closeObject => ['\x7d']
  | comma => [',']
  | colon => [':']
  | null => "null".toList
  | bool true => "true".toList
  | bool false => "false".toList
  | number value => value.text
  | string value => '"' :: (value.toList.flatMap quotedChar ++ ['"'])

end Token

/-- Where in a text the scanner stands. Characters read so far stand latest first. -/
inductive ScanPlace
  | between
  | word (letters : List Char)
  | quoted (letters : List Char)
  | escape (letters : List Char)
  | unit (letters : List Char) (high : Option Nat) (digits : List Nat)
  | pairEscape (letters : List Char) (high : Nat)
  | pairMark (letters : List Char) (high : Nat)

/-- The tokens read so far, latest first, and the place. -/
structure Scanner where
  tokens : List Token
  place : ScanPlace

namespace Scanner

def start : Scanner := ⟨[], .between⟩

def isSpace (c : Char) : Bool := c == ' ' || c == '\t' || c == '\n' || c == '\r'

/-- A word goes on up to a space, a quote or a punctuation mark. -/
def isWordChar (c : Char) : Bool := !isSpace c && c != '"' && (Token.ofPunctuation? c).isNone

def escaped? : Char → Option Char
  | '"' => some '"'
  | '\\' => some '\\'
  | '/' => some '/'
  | 'b' => some '\x08'
  | 'f' => some '\x0c'
  | 'n' => some '\n'
  | 'r' => some '\r'
  | 't' => some '\t'
  | _ => none

/-- Takes a whole UTF-16 unit. A surrogate must be half of a pair. -/
def takeUnit (tokens : List Token) (letters : List Char) (high : Option Nat) (value : Nat) : Option Scanner :=
  match high with
  | none =>
    if 0xD800 ≤ value ∧ value < 0xDC00 then some ⟨tokens, .pairEscape letters value⟩
    else if 0xDC00 ≤ value ∧ value < 0xE000 then none
    else some ⟨tokens, .quoted (Char.ofNat value :: letters)⟩
  | some high =>
    if 0xDC00 ≤ value ∧ value < 0xE000 then
      some ⟨tokens, .quoted (Char.ofNat (0x10000 + (high - 0xD800) * 0x400 + (value - 0xDC00)) :: letters)⟩
    else none

def stepBetween (tokens : List Token) (c : Char) : Scanner :=
  if isSpace c then ⟨tokens, .between⟩
  else if c = '"' then ⟨tokens, .quoted []⟩
  else match Token.ofPunctuation? c with
    | some token => ⟨token :: tokens, .between⟩
    | none => ⟨tokens, .word [c]⟩

def step (s : Scanner) (c : Char) : Option Scanner :=
  match s.place with
  | .between => some (stepBetween s.tokens c)
  | .word letters =>
    if isWordChar c then some ⟨s.tokens, .word (c :: letters)⟩
    else (Token.ofWord? letters.reverse).map fun token => stepBetween (token :: s.tokens) c
  | .quoted letters =>
    if c = '"' then some ⟨.string (String.ofList letters.reverse) :: s.tokens, .between⟩
    else if c = '\\' then some ⟨s.tokens, .escape letters⟩
    else if c.toNat < 0x20 then none
    else some ⟨s.tokens, .quoted (c :: letters)⟩
  | .escape letters =>
    if c = 'u' then some ⟨s.tokens, .unit letters none []⟩
    else (escaped? c).map fun c => ⟨s.tokens, .quoted (c :: letters)⟩
  | .unit letters high digits =>
    match hexValue? c, digits with
    | some d, [d₃, d₂, d₁] => takeUnit s.tokens letters high (((d₁ * 16 + d₂) * 16 + d₃) * 16 + d)
    | some d, digits => some ⟨s.tokens, .unit letters high (d :: digits)⟩
    | none, _ => none
  | .pairEscape letters high => if c = '\\' then some ⟨s.tokens, .pairMark letters high⟩ else none
  | .pairMark letters high => if c = 'u' then some ⟨s.tokens, .unit letters (some high) []⟩ else none

def finish (s : Scanner) : Option (List Token) :=
  match s.place with
  | .between => some s.tokens.reverse
  | .word letters => (Token.ofWord? letters.reverse).map fun token => (token :: s.tokens).reverse
  | _ => none

end Scanner

def scanTokens (cs : List Char) : Option (List Token) :=
  (cs.foldlM Scanner.step Scanner.start).bind Scanner.finish

end InspectionForms
