import InspectionForms.Database.Document.Basic

namespace InspectionForms

namespace Document

def escaped (c : Char) : List Char :=
  match [('\x08', 'b'), ('\t', 't'), ('\n', 'n'), ('\x0c', 'f'), ('\r', 'r')].lookup c with
  | some letter => ['\\', letter]
  | none => '\\' :: 'u' :: '0' :: '0' :: (Nat.toDigits 16 c.toNat).leftpad 2 '0'

def withEscapes (cs : List Char) : List Char :=
  cs.flatMap fun c => if c = '"' ∨ c = '\\' then ['\\', c] else if c.toNat < 0x20 then escaped c else [c]

/-- What lenient escapes become in the usual form. -/
def usualEscapes : List Char → List Char
  | '\\' :: '\'' :: rest => '\'' :: usualEscapes rest
  | '\\' :: 'v' :: rest => "\\u0009".toList ++ usualEscapes rest
  | '\\' :: 'x' :: a :: b :: rest => "\\u00".toList ++ a :: b :: usualEscapes rest
  | '\\' :: '0' :: rest => "\\u0000".toList ++ usualEscapes rest
  | '\\' :: '\r' :: '\n' :: rest => usualEscapes rest
  | '\\' :: c :: rest =>
    if c = '\r' ∨ c = '\n' ∨ c = '\u2028' ∨ c = '\u2029' then usualEscapes rest else '\\' :: c :: usualEscapes rest
  | c :: rest =>
    (if c = '"' then ['\\', '"'] else if c.toNat < 0x20 then escaped c else [c]) ++ usualEscapes rest
  | [] => []

end Document

namespace DocumentText

def written (text : DocumentText) : List Char :=
  let content := match text.spelling with
    | .plain | .escaped => text.chars
    | .lenient => Document.usualEscapes text.chars
    | .bare => Document.withEscapes text.chars
  '"' :: content ++ ['"']

def codeUnit (digits : List Char) : Nat := leadingHexadecimal 0 (digits.take 4)

def codeBytes (code : Nat) : List UInt8 :=
  let tail (shift : Nat) : UInt8 := UInt8.ofNat (0x80 + (code >>> shift) % 64)
  if code < 0x80 then [UInt8.ofNat code]
  else if code < 0x800 then [UInt8.ofNat (0xC0 + (code >>> 6)), tail 0]
  else if code < 0x10000 then [UInt8.ofNat (0xE0 + (code >>> 12)), tail 6, tail 0]
  else [UInt8.ofNat (0xF0 + (code >>> 18)), tail 12, tail 6, tail 0]

def unescaped : List Char → List UInt8
  | '\\' :: 'u' :: a :: b :: c :: d :: rest =>
    let unit := codeUnit [a, b, c, d]
    let pair? : Option (List UInt8 × List Char) := match rest with
      | '\\' :: 'u' :: a :: b :: c :: d :: rest =>
        let low := codeUnit [a, b, c, d]
        if unit / 0x400 = 0x36 ∧ low / 0x400 = 0x37 then
          some (codeBytes (unit % 0x400 * 0x400 + low % 0x400 + 0x10000), rest)
        else none
      | _ => none
    match pair? with
    | some (bytes, _) => bytes ++ unescaped (rest.drop 6)
    | none => codeBytes unit ++ unescaped rest
  | '\\' :: 'x' :: a :: b :: rest => codeBytes (leadingHexadecimal 0 [a, b]) ++ unescaped rest
  | '\\' :: '\r' :: '\n' :: rest => unescaped rest
  | '\\' :: c :: rest =>
    match [('b', 8), ('f', 12), ('n', 10), ('r', 13), ('t', 9), ('v', 11), ('0', 0)].lookup c with
    | some code => UInt8.ofNat code :: unescaped rest
    | none =>
      if c = '\r' ∨ c = '\n' ∨ c = '\u2028' ∨ c = '\u2029' then unescaped rest
      else String.utf8EncodeChar c ++ unescaped rest
  | c :: rest => String.utf8EncodeChar c ++ unescaped rest
  | [] => []
termination_by cs => cs.length
decreasing_by all_goals (simp only [List.length_drop, List.length_cons]; omega)

def bytes (text : DocumentText) : List UInt8 :=
  match text.spelling with
  | .plain | .bare => text.chars.flatMap String.utf8EncodeChar
  | .escaped | .lenient => unescaped text.chars

end DocumentText

namespace Document

/-- A hexadecimal integer in base ten. One with more than 64 bits is infinite. -/
def decimalOfHexadecimal (digits : List Char) : List Char :=
  let sign := digits.take (if digits.head? = some '-' then 1 else 0)
  let value := leadingHexadecimal 0 (digits.drop (sign.length + 2))
  sign ++ if value < 0x10000000000000000 then decimalDigits value else "9.0e999".toList

/-- A real number with zeros where digits are missing beside its point. -/
def completedReal (digits : List Char) : List Char :=
  let sign := digits.take (if digits.head? = some '-' then 1 else 0)
  let rest := digits.drop sign.length
  let whole := rest.takeWhile (· != '.')
  let rest := rest.drop whole.length
  let point := if !rest.isEmpty && !(rest[1]?.any Char.isDigit) then ['.', '0'] else rest.take 1
  sign ++ (if whole.isEmpty then ['0'] else whole) ++ point ++ rest.drop 1

mutual

def written : Document → List Char
  | null => "null".toList
  | truth true => "true".toList
  | truth false => "false".toList
  | integer true digits => decimalOfHexadecimal digits
  | real true digits => completedReal digits
  | integer false digits | real false digits => digits
  | text content => content.written
  | array items => '[' :: writtenItems items ++ [']']
  | object members => '\x7b' :: writtenMembers members ++ ['\x7d']

def writtenItems : List Document → List Char
  | [] => []
  | [item] => item.written
  | item :: rest => item.written ++ ',' :: writtenItems rest

def writtenMembers : List (DocumentText × Document) → List Char
  | [] => []
  | [(name, value)] => name.written ++ ':' :: value.written
  | (name, value) :: rest => name.written ++ ':' :: value.written ++ ',' :: writtenMembers rest

end

mutual

def prettyWritten (indent : List Char) (depth : Nat) : Document → List Char
  | array [] => ['[', ']']
  | array (item :: rest) =>
    '[' :: prettyItems indent (depth + 1) (item :: rest) ++ '\n' :: (List.replicate depth indent).flatten ++ [']']
  | object [] => ['\x7b', '\x7d']
  | object (member :: rest) =>
    '\x7b' :: prettyMembers indent (depth + 1) (member :: rest) ++ '\n' :: (List.replicate depth indent).flatten ++
      ['\x7d']
  | document => document.written

def prettyItems (indent : List Char) (depth : Nat) : List Document → List Char
  | [] => []
  | item :: rest =>
    '\n' :: (List.replicate depth indent).flatten ++ item.prettyWritten indent depth ++
      (if rest.isEmpty then [] else [',']) ++ prettyItems indent depth rest

def prettyMembers (indent : List Char) (depth : Nat) : List (DocumentText × Document) → List Char
  | [] => []
  | (name, value) :: rest =>
    '\n' :: (List.replicate depth indent).flatten ++ name.written ++ ':' :: ' ' ::
      value.prettyWritten indent depth ++ (if rest.isEmpty then [] else [',']) ++ prettyMembers indent depth rest

end

def kindName : Document → String
  | null => "null"
  | truth true => "true"
  | truth false => "false"
  | integer _ _ => "integer"
  | real _ _ => "real"
  | text _ => "text"
  | array _ => "array"
  | object _ => "object"

end Document

end InspectionForms
