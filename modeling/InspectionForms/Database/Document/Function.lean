import InspectionForms.Database.Argument
import InspectionForms.Database.Document.Binary
import InspectionForms.Database.Document.Path
import InspectionForms.Database.Operation

namespace InspectionForms

namespace Document

def malformed : Obstacle := .failed "malformed JSON"

def badPath (path : List Char) : Obstacle :=
  let quoted := path.flatMap fun c => if c = '\'' then [c, c] else [c]
  .failed (String.ofList ("bad JSON path: '".toList ++ quoted ++ ['\'']))

/-- The document that a value spells out or is in the binary form. There is none for null. -/
def ofCell? (cell : Cell) : Except Obstacle (Option Document) :=
  let read : Except Obstacle (Option Document) :=
    match cell.characters?.map ofChars? with
    | none => .ok none
    | some (some document) => .ok (some document)
    | some none => .error malformed
  match cell with
  | .blob bytes =>
    if isBinary bytes then
      match ofBinary? bytes with
      | some document => .ok (some document)
      | none => .error malformed
    else read
  | _ => read

/-- A value as a part of a document, in which a number beyond all others has some spelling. Documents stay what they
are, and all other texts are texts. -/
def ofArgument (infinity : String) (argument : Argument) : Except Obstacle Document :=
  match argument.cell with
  | .null => .ok null
  | .integer value => .ok (integer false (intDigits value))
  | .real negative rank =>
    .ok (real false (if rank < Double.infiniteRank then (Cell.realText negative rank).toList
      else (if negative then ['-'] else []) ++ infinity.toList))
  | .text bytes =>
    let cs := (textOfBytes bytes).toList
    if !argument.isDocument then .ok (text ⟨.bare, cs⟩)
    else match ofChars? cs with
      | some document => .ok document
      | none => .error malformed
  | .blob bytes =>
    match if isBinary bytes then ofBinary? bytes else none with
    | some document => .ok document
    | none => .error (.failed "JSON cannot hold BLOB values")

def ofValue (argument : Argument) : Except Obstacle Document := ofArgument "9.0e+999" argument

def result (isBlob : Bool) (document : Document) : Argument :=
  if isBlob then .ofCell (.blob document.binary) else ⟨.ofString (String.ofList document.written), true⟩

/-- The number that an integer in a document stands for. It is real if it is too large. -/
def integerCell? (isLenient : Bool) (digits : List Char) : Option Cell :=
  let negative := digits.head? = some '-'
  let rest := if negative then digits.drop 1 else digits
  if !isLenient then Cell.ofNumeral? (String.ofList digits)
  else
    let value := leadingHexadecimal 0 (rest.drop 2)
    if 0x10000000000000000 ≤ value then none
    else if value < 0x8000000000000000 then some (.integer (if negative then -value else value))
    else some (Cell.realOfInt (if negative then -value else value))

def realCell? (digits : List Char) : Option Cell := (Cell.ofNumeral? (String.ofList digits)).map Cell.toReal

/-- The value of a document. Objects and arrays stay documents. -/
def cell (isBlob : Bool) (document : Document) : Except Obstacle Argument :=
  let ofNumber : Option Cell → Except Obstacle Argument
    | some cell => .ok (.ofCell cell)
    | none => .error malformed
  match document with
  | null => .ok (.ofCell .null)
  | truth value => .ok (.ofCell (.ofBool value))
  | integer isLenient digits => ofNumber (integerCell? isLenient digits)
  | real _ digits => ofNumber (realCell? digits)
  | text content => .ok (.ofCell (.text content.bytes))
  | array _ | object _ => .ok (document.result isBlob)

def locate (path : List Char) (document : Document) : Except Obstacle (Option Document) :=
  match path with
  | '$' :: rest =>
    match document.find rest.length rest with
    | .ok document => .ok (some document)
    | .error .missing => .ok none
    | .error .illegible => .error (badPath path)
  | _ => .error (badPath path)

/-- What some paths lead to, which is null where there is nothing. A path that is null ends it all. -/
def locateAll (document : Document) : List Argument → Except Obstacle (Option (List Document))
  | [] => .ok (some [])
  | path :: rest => do
    let some chars := path.cell.characters? | return none
    let found := (← document.locate chars).getD null
    return (← document.locateAll rest).map (found :: ·)

def fullPath (cell : Cell) (path : List Char) : List Char :=
  match cell, path with
  | _, '$' :: _ => path
  | .integer value, _ => "$[".toList ++ (if value < 0 then ['#'] else []) ++ path ++ [']']
  | _, _ =>
    if path.all fun c => c.isAlphanum || c == '_' then '$' :: '.' :: path
    else if path.head? = some '[' ∧ 3 ≤ path.length ∧ path.getLast? = some ']' then '$' :: path
    else '$' :: '.' :: '"' :: path ++ ['"']

def part? (asDocument : Bool) (whole path : Argument) : Except Obstacle Argument := do
  let some document ← ofCell? whole.cell | return .ofCell .null
  let some chars := path.cell.characters? | return .ofCell .null
  match document.find (chars.length + 4) ((fullPath path.cell chars).drop 1) with
  | .ok document => if asDocument then return document.result false else return .ofCell (← document.cell false).cell
  | .error .missing => return .ofCell .null
  | .error .illegible => throw (badPath chars)

def extract (isBlob : Bool) (whole : Argument) (paths : List Argument) : Except Obstacle Argument := do
  let some document ← ofCell? whole.cell | return .ofCell .null
  match paths with
  | [path] =>
    let some chars := path.cell.characters? | return .ofCell .null
    let some found ← document.locate chars | return .ofCell .null
    found.cell isBlob
  | paths =>
    let some found ← document.locateAll paths | return .ofCell .null
    return (array found).result isBlob

def changed (isBlob : Bool) (edit : Document → Edit) (whole : Argument) (changes : List Argument) :
    Except Obstacle Argument := do
  let some document ← ofCell? whole.cell | return .ofCell .null
  let rec go (document : Document) : List Argument → Except Obstacle Document
    | path :: value :: rest =>
      match path.cell.characters? with
      | none => go document rest
      | some ('$' :: steps) => do
        match edited (edit (← ofArgument "9e999" value)) steps.length steps (some document) with
        | .ok document? => go (document?.getD document) rest
        | .error .missing => go document rest
        | .error .illegible => throw (badPath ('$' :: steps))
      | some chars => throw (badPath chars)
    | _ => .ok document
  return (← go document changes).result isBlob

/-- Takes away what paths lead to. Nothing is left of a whole document. -/
def removed (isBlob : Bool) (whole : Argument) (paths : List Argument) : Except Obstacle Argument := do
  let some document ← ofCell? whole.cell | return .ofCell .null
  let rec go (document : Document) : List Argument → Except Obstacle (Option Document)
    | path :: rest =>
      match path.cell.characters? with
      | none | some ['$'] => .ok none
      | some ('$' :: steps) =>
        match edited .remove steps.length steps (some document) with
        | .ok document? => go (document?.getD document) rest
        | .error .missing => go document rest
        | .error .illegible => .error (badPath ('$' :: steps))
      | some chars => .error (badPath chars)
    | [] => .ok (some document)
  return ((← go document paths).map (result isBlob)).getD (.ofCell .null)

def membersOf : List Argument → Except Obstacle (List (DocumentText × Document))
  | name :: value :: rest => do
    let .text bytes := name.cell | throw (.failed "json_object() labels must be TEXT")
    return (⟨.bare, (textOfBytes bytes).toList⟩, ← ofValue value) :: (← membersOf rest)
  | _ => .ok []

def partAt (whole : Argument) (paths : List Argument) : Except Obstacle (Option Document) := do
  let some document ← ofCell? whole.cell | return none
  match paths with
  | [] => return some document
  | path :: _ =>
    let some chars := path.cell.characters? | return none
    document.locate chars

/-- Whether a value is a document in one of the forms that flags ask for: the usual and the lenient text, and the
binary form by its first part or as a whole. -/
def isValid (cell : Cell) (flags : Nat) : Cell :=
  let isText : Bool := match cell.characters?.map read with
    | some (.ok (_, isLenient)) => flags / 2 % 2 == 1 || (flags % 2 == 1 && !isLenient)
    | _ => false
  match cell with
  | .null => .null
  | .blob bytes =>
    if isBinary bytes then .ofBool (flags / 4 % 2 == 1 || (flags / 8 == 1 && (ofBinary? bytes).isSome))
    else .ofBool isText
  | _ => .ofBool isText

/-- The place of the first character that cannot be read, counted from one, or zero if there is none. -/
def faultPlace (cell : Cell) : Cell :=
  match cell.characters? with
  | none => .null
  | some cs =>
    match cell, read cs with
    | .blob bytes, _ =>
      .integer (if isBinary bytes then if (ofBinary? bytes).isSome then 0 else 1
        else match read cs with
          | .ok _ => 0
          | .error rest => cs.length - rest.length + 1)
    | _, .ok _ => .integer 0
    | _, .error rest => .integer (cs.length - rest.length + 1)

/-- The value of a function on documents, unless there is none with that name for so many values. -/
def call? (name : String) (arguments : List Argument) : Option (Except Obstacle Argument) :=
  let isBlob := name.startsWith "jsonb"
  let needsOdd (which : String) : Except Obstacle Argument :=
    .error (.failed ("json_" ++ which ++ "() needs an odd number of arguments"))
  let isEven := arguments.length % 2 = 0
  match name, arguments with
  | "->", [whole, path] => some (part? true whole path)
  | "->>", [whole, path] => some (part? false whole path)
  | "json", [whole] | "jsonb", [whole] => some do
    return ((← ofCell? whole.cell).map (result isBlob)).getD (.ofCell .null)
  | "json_extract", whole :: path :: paths | "jsonb_extract", whole :: path :: paths =>
    some (extract isBlob whole (path :: paths))
  | "json_extract", _ | "jsonb_extract", _ => some (.ok (.ofCell .null))
  | "json_type", whole :: paths => some do
    return .ofCell (((← partAt whole paths).map fun document => Cell.ofString document.kindName).getD .null)
  | "json_array_length", whole :: paths => some do
    return .ofCell (((← partAt whole paths).map fun document => match document with
      | array items => Cell.integer items.length
      | _ => .integer 0).getD .null)
  | "json_quote", [value] => some do return (← ofValue value).result false
  | "json_array", values | "jsonb_array", values => some do
    return (array (← values.mapM ofValue)).result isBlob
  | "json_object", values | "jsonb_object", values =>
    if isEven then some do return (object (← membersOf values)).result isBlob
    else some (.error (.failed "json_object() requires an even number of arguments"))
  | "json_insert", whole :: rest | "jsonb_insert", whole :: rest =>
    some (if isEven then needsOdd "insert" else changed isBlob .insert whole rest)
  | "json_replace", whole :: rest | "jsonb_replace", whole :: rest =>
    some (if isEven then needsOdd "replace" else changed isBlob .replace whole rest)
  | "json_set", whole :: rest | "jsonb_set", whole :: rest =>
    some (if isEven then needsOdd "set" else changed isBlob .set whole rest)
  | "json_insert", [] | "json_replace", [] | "json_set", [] | "json_remove", [] => some (.ok (.ofCell .null))
  | "json_remove", whole :: paths | "jsonb_remove", whole :: paths => some (removed isBlob whole paths)
  | "json_patch", [whole, patch] | "jsonb_patch", [whole, patch] => some do
    let some document ← ofCell? whole.cell | return .ofCell .null
    let some patch ← ofCell? patch.cell | return .ofCell .null
    return (document.patched (maxDepth + 1) patch).result isBlob
  | "json_pretty", whole :: rest => some do
    let indent := (rest.head?.bind fun indent => indent.cell.characters?).getD "    ".toList
    return .ofCell (((← ofCell? whole.cell).map fun document =>
      Cell.ofString (String.ofList (document.prettyWritten indent 0))).getD .null)
  | "json_valid", [value] => some (.ok (.ofCell (isValid value.cell 1)))
  | "json_valid", [value, flags] =>
    let flags := flags.cell.leadingInteger
    if 1 ≤ flags ∧ flags ≤ 15 then some (.ok (.ofCell (isValid value.cell flags.toNat)))
    else some (.error (.failed "FLAGS parameter to json_valid() must be between 1 and 15"))
  | "json_error_position", [value] => some (.ok (.ofCell (faultPlace value.cell)))
  | _, _ => none

end Document

end InspectionForms
