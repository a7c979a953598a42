import InspectionForms.Database.Document.Printer

namespace InspectionForms

namespace Document

/-- Why a path leads nowhere: there is nothing, or it is no path from there on. -/
inductive PathFault
  | missing
  | illegible
  deriving DecidableEq, Repr

/-- What is done where a path leads to. -/
inductive Edit
  | remove
  | insert (value : Document)
  | replace (value : Document)
  | set (value : Document)

/-- The name of a member in a path, and what follows it. In quotes there may be escapes. -/
def takeName? : List Char → Option (DocumentText × List Char)
  | '"' :: rest =>
    let name := rest.takeWhile (· != '"')
    let rest := rest.drop name.length
    if rest.isEmpty then none else some (⟨if name.contains '\\' then .lenient else .bare, name⟩, rest.drop 1)
  | cs =>
    let name := cs.takeWhile fun c => c != '.' && c != '['
    if name.isEmpty then none else some (⟨.bare, name⟩, cs.drop name.length)

def takePlace (count : Nat) (cs : List Char) : Except PathFault (Nat × List Char) :=
  let digits := cs.takeWhile Char.isDigit
  let rest := cs.drop digits.length
  if !digits.isEmpty && rest.head? == some ']' then
    .ok (Nat.ofDigitChars 10 digits 0 % 0x100000000, rest.drop 1)
  else if cs.head? ≠ some '#' then .error .illegible
  else
    let back := if cs[1]? = some '-' then (cs.drop 2).takeWhile Char.isDigit else []
    let rest := cs.drop (if back.isEmpty then 1 else back.length + 2)
    let distance := Nat.ofDigitChars 10 back 0 % 0x100000000
    if count < distance then .error .missing
    else if rest.head? = some ']' then .ok (count - distance, rest.drop 1)
    else .error .illegible

def names (name : DocumentText) (member : DocumentText × Document) : Bool := member.1.bytes == name.bytes

/-- What a path leads to. A bound says how many steps it can have. -/
def find (bound : Nat) (path : List Char) (document : Document) : Except PathFault Document :=
  match bound, path with
  | _, [] => .ok document
  | bound + 1, '.' :: rest =>
    match takeName? rest, document with
    | none, _ => .error .illegible
    | some (name, rest), object members =>
      match members.find? (names name) with
      | some (_, value) => value.find bound rest
      | none => .error .missing
    | _, _ => .error .missing
  | bound + 1, '[' :: rest =>
    match document with
    | array items =>
      match takePlace items.length rest with
      | .ok (place, rest) =>
        match items[place]? with
        | some item => item.find bound rest
        | none => .error .missing
      | .error fault => .error fault
    | _ => .error .missing
  | _, _ => .error .illegible

def Edit.adds : Edit → Bool
  | .insert _ | .set _ => true
  | .remove | .replace _ => false

/-- Does something where a path leads to from a document that is there or not, and gives back what is there then.
What is put where nothing is yet comes after everything else, in containers of its own if the path asks for them. A
bound says how many steps the path can have. -/
def edited (edit : Edit) (bound : Nat) (path : List Char) (document? : Option Document) :
    Except PathFault (Option Document) :=
  match bound, path with
  | _, [] =>
    match edit, document? with
    | .remove, _ => .ok none
    | .replace value, _ | .set value, _ | .insert value, none => .ok (some value)
    | .insert _, some document => .ok (some document)
  | bound + 1, '.' :: rest => do
    let some (name, rest) := takeName? rest | throw .illegible
    let members ← match document? with
      | some (object members) => pure members
      | some _ => throw .missing
      | none => pure []
    match members.findIdx? (names name) with
    | none =>
      if !edit.adds then throw .missing
      return (← edited edit bound rest none).map fun value => object (members ++ [(name, value)])
    | some k =>
      let some (own, value) := members[k]? | throw .missing
      match ← edited edit bound rest (some value) with
      | some value => return some (object (members.set k (own, value)))
      | none => return some (object (members.eraseIdx k))
  | bound + 1, '[' :: rest => do
    let items ← match document? with
      | some (array items) => pure items
      | some _ => throw .missing
      | none => pure []
    let (place, rest) ← takePlace items.length rest
    match items[place]? with
    | none =>
      if items.length < place ∨ !edit.adds then throw .missing
      return (← edited edit bound rest none).map fun value => array (items ++ [value])
    | some item =>
      match ← edited edit bound rest (some item) with
      | some item => return some (array (items.set place item))
      | none => return some (array (items.eraseIdx place))
  | _, _ => .error .illegible

/-- A document after another one has been laid over it: members that are null there go away, other members that are
there take the place of those with their names, and what is no object takes the place of everything. A bound says how
deep documents are. -/
def patched (bound : Nat) (document patch : Document) : Document :=
  match bound, patch with
  | bound + 1, object changes =>
    let members := match document with
      | object members => members
      | _ => []
    object (changes.foldl (fun members (name, change) =>
      match members.findIdx? (names name), change with
      | some k, null => members.eraseIdx k
      | none, null => members
      | some k, change => members.modify k fun (own, value) => (own, value.patched bound change)
      | none, object changes => members ++ [(name, (object []).patched bound (object changes))]
      | none, change => members ++ [(name, change)]) members)
  | _, patch => patch

end Document

end InspectionForms
