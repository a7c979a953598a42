import InspectionForms.Database.Document.Function
import InspectionForms.Database.Moment
import InspectionForms.Text.Pattern

namespace InspectionForms

namespace Cell

/-- The part of some items from a place on, which counts from the end if it is negative. So does the number of items
if it is negative: those before the place are meant. -/
def slice {α : Type} (items : List α) (start : Int) (count? : Option Int) : List α :=
  let length : Int := items.length
  let isBefore := count?.any (· < 0)
  let count : Int := (count?.map fun count => (count.natAbs : Int)).getD 0x4000000000000000
  let (first, count) :=
    if start < 0 then
      if length + start < 0 then ((0 : Int), max (count + (length + start)) 0) else (length + start, count)
    else if 0 < start then (start - 1, count)
    else (0, if 0 < count then count - 1 else count)
  let (first, count) :=
    if !isBefore then (first, count)
    else if first - count < 0 then (0, count + (first - count))
    else (first - count, count)
  (items.drop first.toNat).take count.toNat

def place (part : List Char) (place : Nat) : List Char → Nat
  | [] => if part.isEmpty then place else 0
  | c :: rest => if part.isPrefixOf (c :: rest) then place else Cell.place part (place + 1) rest

def replaceAll (part replacement : List Char) (text : List Char) : List Char :=
  match text with
  | [] => []
  | c :: rest =>
    if part.isPrefixOf (c :: rest) ∧ !part.isEmpty then
      replacement ++ replaceAll part replacement (rest.drop (part.length - 1))
    else c :: replaceAll part replacement rest
termination_by text.length
decreasing_by all_goals (simp only [List.length_drop, List.length_cons]; omega)

def trimmed (atStart atEnd : Bool) (blanks cs : List Char) : List Char :=
  let cs := if atStart then cs.dropWhile blanks.contains else cs
  if atEnd then (cs.reverse.dropWhile blanks.contains).reverse else cs

/-- A value of a function on texts, which is null where a text is. -/
def ofCharacters (cs? : Option (List Char)) : Cell := (cs?.map fun cs => ofString (String.ofList cs)).getD null

/-- The bytes that characters spell out as pairs of hexadecimal digits, with marks between pairs that do not count. -/
def bytesOfHexadecimal? (marks : List Char) : List Char → Option (List UInt8)
  | [] => some []
  | [c] => if marks.contains c then some [] else none
  | a :: b :: rest =>
    match hexValue? a, hexValue? b with
    | some high, some low => (bytesOfHexadecimal? marks rest).map (UInt8.ofNat (16 * high + low) :: ·)
    | none, _ => if marks.contains a then bytesOfHexadecimal? marks (b :: rest) else none
    | _, none => none

/-- The digit for the sound of a letter. Vowels and silent letters have none. -/
def soundDigit (c : Char) : Option Char :=
  ([("bfpv", '1'), ("cgjkqsxz", '2'), ("dt", '3'), ("l", '4'), ("mn", '5'), ("r", '6')].find? fun (letters, _) =>
    letters.toList.contains c.toLower).map Prod.snd

/-- The digits of the sounds that follow a first one. A sound does not come twice unless a silent letter stands
between. -/
def soundDigits (prior : Option Char) : List Char → List Char
  | [] => []
  | c :: rest =>
    match soundDigit c with
    | some digit => if some digit = prior then soundDigits prior rest else digit :: soundDigits (some digit) rest
    | none => soundDigits none rest

def soundex (cs : List Char) : List Char :=
  match (cs.takeWhile (· != '\x00')).dropWhile fun c => !c.isAlpha with
  | [] => "?000".toList
  | c :: rest => c.toUpper :: ((soundDigits (soundDigit c) rest).take 3).rightpad 3 '0'

/-- The bytes of the character with a code. One beyond all of them is replaced. -/
def characterBytes (code : Int) : List UInt8 :=
  DocumentText.codeBytes (if code < 0 ∨ 0x10FFFF < code then 0xFFFD else code.toNat)

def databaseVersion : String := "3.48.0"

def call (collation : Collation) (name : String) (cells : List Cell) : Except Obstacle Cell :=
  let ofMap (cell : Cell) (change : List Char → List Char) : Except Obstacle Cell :=
    .ok (ofCharacters (cell.characters?.map change))
  let trimmedBy (atStart atEnd : Bool) (cell blanks : Cell) : Except Obstacle Cell :=
    .ok (ofCharacters (cell.characters?.bind fun cs => blanks.characters?.map (trimmed atStart atEnd · cs)))
  match name, cells with
  | "length", [blob bytes] => .ok (integer bytes.length)
  | "length", [cell] => .ok ((cell.textBytes?.map fun bytes =>
      integer ((bytes.takeWhile (· != 0)).filter fun b => b &&& 0xC0 != 0x80).length).getD null)
  | "octet_length", [cell] => .ok ((cell.textBytes?.map fun bytes => integer bytes.length).getD null)
  | "lower", [cell] => ofMap cell (·.map Char.toLower)
  | "upper", [cell] => ofMap cell (·.map Char.toUpper)
  | "typeof", [cell] => .ok (ofString (if cell = null then "null" else lowerAscii cell.kindName))
  | "coalesce", cells | "ifnull", cells => .ok ((cells.find? (· != null)).getD null)
  | "nullif", [a, b] => .ok (if a.agrees collation b then null else a)
  | "likely", [cell] | "unlikely", [cell] | "likelihood", [cell, _] => .ok cell
  | "trim", [cell] => ofMap cell (trimmed true true [' '])
  | "ltrim", [cell] => ofMap cell (trimmed true false [' '])
  | "rtrim", [cell] => ofMap cell (trimmed false true [' '])
  | "trim", [cell, blanks] => trimmedBy true true cell blanks
  | "ltrim", [cell, blanks] => trimmedBy true false cell blanks
  | "rtrim", [cell, blanks] => trimmedBy false true cell blanks
  | "substr", cell :: start :: rest | "substring", cell :: start :: rest =>
    if start = null ∨ rest.contains null then .ok null else
    let count? := rest.head?.map leadingInteger
    match cell with
    | blob bytes => .ok (blob (slice bytes start.leadingInteger count?))
    | cell => ofMap cell (slice · start.leadingInteger count?)
  | "instr", [blob bytes, blob part] =>
    let chars (bytes : List UInt8) : List Char := bytes.map fun b => Char.ofNat b.toNat
    .ok (integer (place (chars part) 1 (chars bytes)))
  | "instr", [cell, part] => .ok ((cell.characters?.bind fun cs => part.characters?.map fun part =>
      integer (place part 1 cs)).getD null)
  | "replace", [cell, part, replacement] => .ok (ofCharacters (cell.characters?.bind fun cs =>
      part.characters?.bind fun part =>
        if part.isEmpty then some cs else replacement.characters?.map (replaceAll part · cs)))
  | "abs", [null] => .ok null
  | "abs", [integer value] =>
    if value = -0x8000000000000000 then .error (.failed "integer overflow") else .ok (integer value.natAbs)
  | "abs", [cell] =>
    match cell.number.toReal with
    | real _ rank => .ok (real false rank)
    | _ => .ok null
  | "sign", [cell] =>
    match cell.adapt .numeric with
    | integer value => .ok (integer value.sign)
    | real negative rank => .ok (integer (real negative rank).units.sign)
    | _ => .ok null
  | "round", [cell] => .ok (rounded 0 cell)
  | "round", [cell, places] => .ok (if places = null then null else rounded places.leadingInteger cell)
  | "quote", [cell] => .ok cell.quoted
  | "printf", cells | "format", cells => .ok (format cells)
  | "char", cells => .ok (text (cells.flatMap fun cell => characterBytes cell.leadingInteger))
  | "zeroblob", [cell] => .ok (blob (List.replicate cell.leadingInteger.toNat 0))
  | "concat", cells => .ok (text (cells.flatMap fun cell => cell.textBytes?.getD []))
  | "concat_ws", separator :: cells =>
    .ok ((separator.textBytes?.map fun separator =>
      text ((cells.filterMap textBytes?).intersperse separator).flatten).getD null)
  | "hex", [cell] => .ok (ofString (String.ofList ((cell.textBytes?.getD []).flatMap upperHex)))
  | "unhex", cell :: rest =>
    .ok (((cell.characters?.bind fun cs => (rest.headD (ofString "")).characters?.bind fun marks =>
      bytesOfHexadecimal? marks cs).map blob).getD null)
  | "soundex", [cell] => .ok (ofString (String.ofList (soundex (cell.characters?.getD []))))
  | "unicode", [cell] => .ok ((cell.characters?.bind List.head?).elim null fun c => integer c.toNat)
  | "sqlite_version", [] => .ok (ofString databaseVersion)
  | "min", a :: b :: rest =>
    .ok (if (a :: b :: rest).contains null then null
      else (b :: rest).foldl (fun least cell => if cell.precedes collation least then cell else least) a)
  | "max", a :: b :: rest =>
    .ok (if (a :: b :: rest).contains null then null
      else (b :: rest).foldl (fun most cell => if cell.precedes collation most then most else cell) a)
  | "match", _ => .error (.failed "unable to use function MATCH in the requested context")
  | "like", [pattern, cell] | "glob", [pattern, cell] =>
    match pattern.characters?, cell.characters? with
    | some pattern, some cs =>
      .ok (ofBool (if name = "like" then fitsPattern none pattern cs
        else fitsShellPattern (pattern.length + cs.length + 1) pattern cs))
    | _, _ => .ok null
  | "like", [pattern, cell, escape] =>
    match pattern.characters?, cell.characters?, escape.characters? with
    | _, _, none => .ok null
    | some pattern, some cs, some [escape] => .ok (ofBool (fitsPattern (some escape) pattern cs))
    | _, _, some [_] => .ok null
    | _, _, _ => .error (.failed "ESCAPE expression must be a single character")
  | "load_extension", _ => .error (.failed "not authorized")
  | _, _ => .error .unknown

end Cell

namespace Argument

def call (collation : Collation) (name : String) (arguments : List Argument) : Except Obstacle Argument :=
  let cells := arguments.map Argument.cell
  match name, arguments with
  | "subtype", [argument] => .ok (ofCell (.integer (if argument.isDocument then 74 else 0)))
  | _, _ =>
    match Document.call? name arguments, Moment.call? name cells with
    | some result, _ => result
    | _, some result => result.map ofCell
    | none, none => (Cell.call collation name cells).map ofCell

end Argument

end InspectionForms
