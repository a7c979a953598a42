import InspectionForms.Text.Blank
import InspectionForms.Text.Digits

namespace InspectionForms

/-- How a text in a document is spelled: as it is, with the usual escapes, with those of the lenient form as well, or
as a value that has been put there and gets its escapes when it is written. -/
inductive Spelling
  | plain
  | escaped
  | lenient
  | bare
  deriving DecidableEq, Repr

def Spelling.join : Spelling → Spelling → Spelling
  | plain, spelling => spelling
  | lenient, _ | _, lenient => lenient
  | spelling, _ => spelling

structure DocumentText where
  spelling : Spelling
  chars : List Char
  deriving DecidableEq, Repr

/-- A JSON value in a column, which keeps numbers and texts as they have been spelled. The lenient form has hexadecimal
integers and numbers without digits beside their point. Members are kept in their order, even two with one name. -/
inductive Document
  | null
  | truth (value : Bool)
  | integer (isLenient : Bool) (digits : List Char)
  | real (isLenient : Bool) (digits : List Char)
  | text (text : DocumentText)
  | array (items : List Document)
  | object (members : List (DocumentText × Document))

namespace Document

instance : Inhabited Document := ⟨null⟩

/-- What stands at the start of a text: a value, a mark behind one, or the end. -/
inductive Piece
  | value (document : Document)
  | mark (c : Char)
  | finish

/-- What has been read, whether it needs the lenient form, and what follows. Where nothing can be read, the rest starts
with what is wrong. -/
abbrev Reading := Except (List Char) (Piece × Bool × List Char)

def isBlank (c : Char) : Bool := c == ' ' || c == '\t' || c == '\n' || c == '\r'

def isLenientBlank (c : Char) : Bool :=
  [0x0B, 0x0C, 0xA0, 0x1680, 0x2028, 0x2029, 0x202F, 0x205F, 0x3000, 0xFEFF].contains c.toNat ||
    (decide (0x2000 ≤ c.toNat) && decide (c.toNat ≤ 0x200A))

def closeComment? : List Char → Option (List Char)
  | '*' :: '/' :: rest => some rest
  | _ :: rest => closeComment? rest
  | [] => none

def endLine (cs : List Char) : List Char :=
  (cs.dropWhile fun c => c != '\n' && c != '\r' && c != '\u2028' && c != '\u2029').drop 1

/-- What follows blanks and comments, and whether they need the lenient form. A bound says how many there can be. -/
def dropBlanks : Nat → List Char → Bool × List Char
  | bound + 1, c :: cs =>
    if isBlank c then dropBlanks bound cs
    else if isLenientBlank c then (true, (dropBlanks bound cs).2)
    else match c, cs with
      | '/', '/' :: rest => (true, (dropBlanks bound (endLine rest)).2)
      | '/', '*' :: rest =>
        match closeComment? rest with
        | some rest => (true, (dropBlanks bound rest).2)
        | none => (false, c :: cs)
      | _, _ => (false, c :: cs)
  | _, cs => (false, cs)

def skipBlanks (cs : List Char) : Bool × List Char := dropBlanks cs.length cs

def areHex (count : Nat) (cs : List Char) : Bool :=
  (cs.take count).length == count && (cs.take count).all fun c => (hexValue? c).isSome

/-- How a text has to be spelled at least that has an escape with some characters behind its mark. -/
def escapeSpelling? : List Char → Option Spelling
  | c :: rest =>
    if ['"', '\\', '/', 'b', 'f', 'n', 'r', 't'].contains c || (c == 'u' && areHex 4 rest) then some .escaped
    else if ['\'', '0', 'v', '\n', '\r', '\u2028', '\u2029'].contains c || (c == 'x' && areHex 2 rest) then
      some .lenient
    else none
  | [] => none

def readText (quote : Char) (spelling : Spelling) (read : List Char) :
    List Char → Except (List Char) (DocumentText × List Char)
  | [] => .error []
  | '\\' :: c :: rest =>
    match escapeSpelling? (c :: rest) with
    | some other => readText quote (spelling.join other) (c :: '\\' :: read) rest
    | none => .error (c :: rest)
  | c :: rest =>
    if c = quote then .ok (⟨spelling, read.reverse⟩, rest)
    else if c = '\\' then .error rest
    else readText quote (if c.toNat < 0x20 ∨ c = '"' then .lenient else spelling) (c :: read) rest

def startsWith (word : String) (cs : List Char) : Bool :=
  (cs.take word.length).map Char.toLower == word.toList

/-- The digits of an integer, a fraction and an exponent as far as they go. -/
structure Numeral where
  whole : List Char
  fraction : Option (List Char)
  exponent : List Char
  rest : List Char

def readExponent (cs : List Char) : Except (List Char) (List Char × List Char) :=
  match cs with
  | c :: rest =>
    if c ≠ 'e' ∧ c ≠ 'E' then .ok ([], cs) else
    let sign := rest.take (if rest.head? = some '+' ∨ rest.head? = some '-' then 1 else 0)
    let digits := (rest.drop sign.length).takeWhile Char.isDigit
    let rest := rest.drop (sign.length + digits.length)
    if digits.isEmpty ∨ rest.head?.any ['.', 'e', 'E'].contains then .error rest
    else .ok (c :: (sign ++ digits), rest)
  | [] => .ok ([], [])

def readNumeral (cs : List Char) : Except (List Char) Numeral := do
  let whole := cs.takeWhile Char.isDigit
  let rest := cs.drop whole.length
  let fraction := if rest.head? = some '.' then some (rest.tail.takeWhile Char.isDigit) else none
  let rest := rest.drop ((fraction.map fun digits => digits.length + 1).getD 0)
  if whole.isEmpty && fraction.all List.isEmpty then throw rest
  if fraction.isSome && rest.head? = some '.' then throw rest
  let (exponent, rest) ← readExponent rest
  return ⟨whole, fraction, exponent, rest⟩

/-- Reads a number, which may be infinite in the lenient form. Only there it may have a plus, hexadecimal digits, or a
point without digits on one side. -/
def readNumber (cs : List Char) : Reading :=
  let sign := cs.take (if cs.head? = some '-' ∨ cs.head? = some '+' then 1 else 0)
  let minus := if sign = ['-'] then ['-'] else []
  let digits := cs.drop sign.length
  let hexadecimal := (digits.drop 2).takeWhile fun c => (hexValue? c).isSome
  if digits.head? = some '0' ∧ (digits[1]? = some 'x' ∨ digits[1]? = some 'X') ∧ !hexadecimal.isEmpty then
    .ok (.value (.integer true (minus ++ digits.take 2 ++ hexadecimal)), true, digits.drop (2 + hexadecimal.length))
  else if digits.head? = some '0' ∧ digits[1]?.any Char.isDigit then .error (cs.drop 1)
  else if !sign.isEmpty && startsWith "inf" digits then
    .ok (.value (.real false (minus ++ "9e999".toList)), true,
      digits.drop (if startsWith "infinity" digits then 8 else 3))
  else if digits.head?.all fun c => !(c.isDigit || c == '.') then .error cs
  else match readNumeral digits with
    | .error rest => .error rest
    | .ok numeral =>
      let isLenient := numeral.whole.isEmpty || numeral.fraction == some []
      let taken := minus ++ digits.take (digits.length - numeral.rest.length)
      let document := if numeral.fraction.isSome || !numeral.exponent.isEmpty then real isLenient taken
        else integer false taken
      .ok (.value document, isLenient || sign = ['+'], numeral.rest)

/-- The words that stand for values in the lenient form. -/
def lenientWords : List (String × Document) :=
  [("inf", real false "9e999".toList), ("infinity", real false "9e999".toList), ("nan", null), ("qnan", null),
    ("snan", null)]

def readWord (cs : List Char) : Reading :=
  let ends (word : String) : Bool := (cs[word.length]?).all fun c => !c.isAlphanum
  let usual := [("true", truth true), ("false", truth false), ("null", null)].find? fun (word, _) =>
    word.toList.isPrefixOf cs && ends word
  match usual, lenientWords.find? fun (word, _) => startsWith word cs && ends word with
  | some (word, document), _ => .ok (.value document, false, cs.drop word.length)
  | _, some (word, document) => .ok (.value document, true, cs.drop word.length)
  | _, _ => .error cs

def isNameStart (c : Char) : Bool := c.isAlpha || c == '_' || c == '$' || 0x80 ≤ c.toNat

/-- Reads the name of a member without quotes, which may have escapes for characters. -/
def readName : List Char → List Char × List Char
  | '\\' :: 'u' :: rest =>
    if areHex 4 rest then
      let (name, rest) := readName rest
      ('\\' :: 'u' :: name, rest)
    else ([], '\\' :: 'u' :: rest)
  | c :: rest =>
    if (isNameStart c || c.isDigit) && !isLenientBlank c then
      let (name, rest) := readName rest
      (c :: name, rest)
    else ([], c :: rest)
  | [] => ([], [])

def readBareName (cs fault : List Char) : Except (List Char) (DocumentText × Bool × List Char) :=
  let rest := (skipBlanks cs).2
  let isEscape := rest.take 2 == ['\\', 'u'] && areHex 4 (rest.drop 2)
  if rest.head?.any isNameStart || isEscape then
    let (name, rest) := readName rest
    .ok (⟨if name.contains '\\' then .escaped else .plain, name⟩, true, rest)
  else .error fault

def maxDepth : Nat := 1000

mutual

/-- Reads a value or a mark. A bound says how many steps it can take. -/
def readPiece (bound depth : Nat) (cs : List Char) : Reading :=
  match bound with
  | 0 => .error cs
  | bound + 1 => do
    let (isLenient, cs) := dropBlanks bound cs
    match cs with
    | [] => return (.finish, isLenient, [])
    | c :: rest =>
      let (part, isLenient', rest) ← match c with
        | '\x7b' => if depth < maxDepth then readMembers bound (depth + 1) [] false rest else throw cs
        | '[' => if depth < maxDepth then readItems bound (depth + 1) [] false rest else throw cs
        | '"' | '\'' => do
          let (content, rest) ← readText c .plain [] rest
          pure (Piece.value (.text content), c == '\'' || content.spelling == .lenient, rest)
        | '\x7d' | ']' | ',' | ':' => pure (Piece.mark c, false, rest)
        | '+' | '-' | '.' => readNumber cs
        | _ => if c.isDigit then readNumber cs else readWord cs
      return (part, isLenient || isLenient', rest)

def readItems (bound depth : Nat) (read : List Document) (isLenient : Bool) (cs : List Char) : Reading :=
  match bound with
  | 0 => .error cs
  | bound + 1 => do
    match ← readPiece bound depth cs with
    | (.value document, isLenient', rest) =>
      let read := document :: read
      let isLenient := isLenient || isLenient'
      match ← readPiece bound depth rest with
      | (.mark ',', isLenient', rest) => readItems bound depth read (isLenient || isLenient') rest
      | (.mark ']', isLenient', rest) => return (.value (.array read.reverse), isLenient || isLenient', rest)
      | _ => throw (rest.dropWhile isBlank)
    | (.mark ']', isLenient', rest) =>
      return (.value (.array read.reverse), isLenient || isLenient' || !read.isEmpty, rest)
    | _ => throw cs

def readMembers (bound depth : Nat) (read : List (DocumentText × Document)) (isLenient : Bool) (cs : List Char) :
    Reading :=
  match bound with
  | 0 => .error cs
  | bound + 1 => do
    let (name?, isLenient', rest) ← match readPiece bound depth cs with
      | .ok (.value (.text name), isLenient, rest) => pure (some name, isLenient, rest)
      | .ok (.value _, _, _) => throw cs
      | .ok (.mark '\x7d', isLenient, rest) => pure (none, isLenient || !read.isEmpty, rest)
      | .ok _ => do
        let (name, rest) ← readBareName cs (skipBlanks cs).2
        pure (some name, rest)
      | .error fault => do
        let (name, rest) ← readBareName cs fault
        pure (some name, rest)
    let isLenient := isLenient || isLenient'
    let some name := name? | return (.value (.object read.reverse), isLenient, rest)
    let (.mark ':', isLenient', rest) ← readPiece bound depth rest | throw (rest.dropWhile isBlank)
    let isLenient := isLenient || isLenient'
    let (.value document, isLenient', rest) ← readPiece bound depth rest | throw rest
    let isLenient := isLenient || isLenient'
    let read := (name, document) :: read
    match ← readPiece bound depth rest with
    | (.mark ',', isLenient', rest) => readMembers bound depth read (isLenient || isLenient') rest
    | (.mark '\x7d', isLenient', rest) => return (.value (.object read.reverse), isLenient || isLenient', rest)
    | _ => throw (rest.dropWhile isBlank)

end

/-- Reads a text as one document, and tells whether it needs the lenient form. The text ends with the first character
that is null. Where it cannot be read, the rest comes back. -/
def read (text : List Char) : Except (List Char) (Document × Bool) := do
  let cs := text.takeWhile (· != '\x00')
  let (.value document, isLenient, rest) ← readPiece (4 * cs.length + 4) 0 cs | throw cs
  let (isLenient', rest) := skipBlanks rest
  if rest.isEmpty then return (document, isLenient || isLenient') else throw cs

def ofChars? (text : List Char) : Option Document := (read text).toOption.map Prod.fst

end Document

end InspectionForms
