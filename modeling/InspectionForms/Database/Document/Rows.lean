import InspectionForms.Database.Document.Function

namespace InspectionForms

namespace Document

/-- What is said of a part of a document in its row: its key or place, where it starts in the binary form, the start of
the part that it belongs to, and the paths to it and to that part. -/
structure PartPlace where
  key : Cell
  start : Nat
  owner : Cell
  path : List Char
  ownerPath : List Char

def partRow (place : PartPlace) (document : Document) : Except Obstacle (List Argument) := do
  let value ← document.cell false
  let atom := match document with
    | array _ | object _ => .null
    | _ => value.cell
  let text (cs : List Char) : Argument := .ofCell (.ofString (String.ofList cs))
  return [.ofCell place.key, value, .ofCell (.ofString document.kindName), .ofCell atom, .ofCell (.integer place.start),
    .ofCell place.owner, text place.path, text place.ownerPath]

def headSize (document : Document) : Nat :=
  document.binary.length - match document with
    | array items => (binaryItems items).length
    | object members => (binaryMembers members).length
    | _ => 0

def memberStep (name : DocumentText) : List Char :=
  if !name.chars.isEmpty && name.chars.all Char.isAlphanum then '.' :: name.chars
  else '.' :: '"' :: name.chars ++ ['"']

def itemStep (k : Nat) : List Char := '[' :: decimalDigits k ++ [']']

mutual

def treeRows (place : PartPlace) (valueStart : Nat) : Document → Except Obstacle (List (List Argument))
  | array items => do
    let own ← partRow place (array items)
    return own :: (← itemRows true (.integer place.start) place.path (valueStart + (array items).headSize) 0 items)
  | object members => do
    let own ← partRow place (object members)
    return own :: (← memberRows true (.integer place.start) place.path (valueStart + (object members).headSize) members)
  | document => do return [← partRow place document]

/-- The rows for the items of an array, with all of their parts or without. -/
def itemRows (isDeep : Bool) (owner : Cell) (path : List Char) (start k : Nat) :
    List Document → Except Obstacle (List (List Argument))
  | [] => .ok []
  | item :: rest => do
    let place : PartPlace := ⟨.integer k, start, owner, path ++ itemStep k, path⟩
    let rows ← if isDeep then treeRows place start item else do pure [← partRow place item]
    return rows ++ (← itemRows isDeep owner path (start + item.binary.length) (k + 1) rest)

/-- The rows for the members of an object, with all of their parts or without. -/
def memberRows (isDeep : Bool) (owner : Cell) (path : List Char) (start : Nat) :
    List (DocumentText × Document) → Except Obstacle (List (List Argument))
  | [] => .ok []
  | (name, value) :: rest => do
    let place : PartPlace := ⟨.text name.bytes, start, owner, path ++ memberStep name, path⟩
    let valueStart := start + (textPart name).length
    let rows ← if isDeep then treeRows place valueStart value else do pure [← partRow place value]
    return rows ++ (← memberRows isDeep owner path (valueStart + value.binary.length) rest)

end

def findStart (bound : Nat) (path : List Char) (start valueStart : Nat) (document : Document) :
    Except PathFault (Nat × Nat × Document) :=
  match bound, path with
  | _, [] => .ok (start, valueStart, document)
  | bound + 1, '.' :: rest =>
    match takeName? rest, document with
    | none, _ => .error .illegible
    | some (name, rest), object members =>
      match members.findIdx? (names name) with
      | some k =>
        let own := valueStart + (object members).headSize + (binaryMembers (members.take k)).length
        match members[k]? with
        | some (name, value) => value.findStart bound rest own (own + (textPart name).length)
        | none => .error .missing
      | none => .error .missing
    | _, _ => .error .missing
  | bound + 1, '[' :: rest =>
    match document with
    | array items =>
      match takePlace items.length rest with
      | .ok (place, rest) =>
        let own := valueStart + (array items).headSize + (binaryItems (items.take place)).length
        match items[place]? with
        | some item => item.findStart bound rest own own
        | none => .error .missing
      | .error fault => .error fault
    | _ => .error .missing
  | _, _ => .error .illegible

/-- How much of a path leads to the part that holds the first value behind it: everything in front of the last step, if
the value stands there first, and else no step at all. -/
def ownerLength (document : Document) (path : List Char) (start : Nat) : Nat → Nat
  | 0 => 1
  | n + 1 =>
    if n = 0 then 1
    else if path[n]? = some '[' ∨ path[n]? = some '.' then
      match document.findStart path.length ((path.take n).drop 1) 0 0 with
      | .ok (_, valueStart, owner) =>
        if valueStart + owner.headSize = start then n else document.ownerLength path start n
      | .error _ => document.ownerLength path start n
    else document.ownerLength path start n

def keyOfPath (step : List Char) : Cell :=
  let ofChars (cs : List Char) : Cell := .ofString (String.ofList cs)
  match step with
  | [] => .null
  | '[' :: rest => .integer (Cell.ofString (String.ofList rest)).leadingInteger
  | _ :: '"' :: rest => ofChars rest.dropLast
  | _ :: rest => ofChars rest

/-- The rows for the parts of a value at a path: for all of them with the value itself, or for those of which it
consists, if there are any. -/
def rowsAt (isDeep : Bool) (document : Document) (path : List Char) : Except Obstacle (List (List Argument)) := do
  let some rest := if path.head? = some '$' then some (path.drop 1) else none | throw (badPath path)
  match document.findStart rest.length rest 0 0 with
  | .error .missing => return []
  | .error .illegible => throw (badPath path)
  | .ok (start, valueStart, value) =>
    let headed := valueStart + value.headSize
    match isDeep, value with
    | false, array items => itemRows false .null path headed 0 items
    | false, object members => memberRows false .null path headed members
    | false, value => return [← partRow ⟨.null, start, .null, path, path⟩ value]
    | true, value =>
      let owner := if path.length < 2 then path.length else document.ownerLength path start path.length
      let key := if path.length = 1 then .null else keyOfPath (path.drop owner)
      treeRows ⟨key, start, .null, path, path.take owner⟩ valueStart value

def functionRows (name : String) (arguments : List Argument) : Except Obstacle (List (List Argument)) := do
  let some whole := arguments.head? | return []
  let some document ← ofCell? whole.cell | return []
  let some path := (arguments.getD 1 (.ofCell (.ofString "$"))).cell.characters? | return []
  let rows ← document.rowsAt (name == "json_tree") path
  return rows.zipIdx.map fun (row, k) =>
    row ++ [.ofCell whole.cell, .ofCell (.ofString (String.ofList path)), .ofCell (.integer k)]

end Document

end InspectionForms
