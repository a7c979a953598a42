import InspectionForms.Database.Aggregate
import InspectionForms.Database.Expression

namespace InspectionForms

def SortDirection.precedes (direction : SortDirection) (collation : Collation) (a b : Cell) : Bool :=
  match a, b with
  | .null, .null => false
  | .null, _ => !direction.isNullLast
  | _, .null => direction.isNullLast
  | a, b => if direction.isFalling then b.precedes collation a else a.precedes collation b

def comesBefore : List (Collation × SortDirection) → List Cell → List Cell → Bool
  | (collation, direction) :: order, a :: as, b :: bs =>
    if direction.precedes collation a b then true
    else if direction.precedes collation b a then false
    else comesBefore order as bs
  | _, _, _ => true

/-- Whether some values count as the same as others, where null counts as null. -/
def areAlike : List Collation → List Cell → List Cell → Bool
  | collation :: collations, a :: as, b :: bs =>
    (a == b || a.agrees collation b) && areAlike collations as bs
  | _, _, _ => true

/-- What a function over a window takes from a row: the values that tell to which rows it belongs and its place among
them, the values of the function, and whether the row counts. -/
structure WindowEntry where
  part : List Cell
  order : List Cell
  arguments : List Argument
  counts : Bool

/-- How the rows of a window are told apart and ordered. -/
structure WindowOrder where
  parts : List Collation
  orders : List (Collation × SortDirection)

namespace WindowOrder

def isPeer (window : WindowOrder) (a b : WindowEntry) : Bool :=
  areAlike (window.orders.map Prod.fst) a.order b.order

/-- The rows that belong together with the one at a position, in their order, and its position there. -/
def partition (window : WindowOrder) (entries : List WindowEntry) (position : Nat) : List WindowEntry × Nat :=
  match entries[position]? with
  | none => ([], 0)
  | some own =>
    let numbered := entries.zipIdx.filter fun (entry, _) => areAlike window.parts entry.part own.part
    let sorted := numbered.mergeSort fun a b => comesBefore window.orders a.1.order b.1.order
    (sorted.map Prod.fst, (sorted.findIdx? fun (_, k) => k == position).getD 0)

def groupNumbers (window : WindowOrder) : Nat → List WindowEntry → List Nat
  | _, [] => []
  | number, [_] => [number]
  | number, a :: b :: rest =>
    number :: window.groupNumbers (if window.isPeer a b then number else number + 1) (b :: rest)

end WindowOrder

namespace Frame

def usual : Frame := ⟨.range, .first, .current, .nothing⟩

/-- The position of an edge among positions, of which `own` is that of the row and `distance` how far away it is. -/
def edgePosition (edge : FrameEdge) (own distance : Int) : Option Int :=
  match edge with
  | .first | .last => none
  | .before => some (own - distance)
  | .current => some own
  | .behind => some (own + distance)

def isInRange (frame : Frame) (direction : SortDirection) (distances : List Cell) (own other : Cell) : Bool :=
  let sign : Int := if direction.isFalling then -1 else 1
  let offset (k : Nat) : Int := ((distances.getD k .null).number).units
  let place (cell : Cell) : Int := sign * cell.units
  let isNumber (cell : Cell) : Bool := cell.kindRank == 1
  let startsAfter := match frame.start with
    | .first | .last | .current => false
    | .before => decide (place other < place own - offset 0)
    | .behind => decide (place other < place own + offset 0)
  let stopsBefore := match frame.stop with
    | .first | .last | .current => false
    | .before => decide (place own - offset 1 < place other)
    | .behind => decide (place own + offset 1 < place other)
  if isNumber own && isNumber other then !startsAfter && !stopsBefore
  else if isNumber own == isNumber other then own == other
  else
    let isEarlier := direction.precedes .binary other own
    (isEarlier && frame.start == .first) || (!isEarlier && frame.stop == .last)

def holds (frame : Frame) (window : WindowOrder) (distances : List Cell) (rows : List WindowEntry) (groups : List Nat)
    (own k : Nat) : Bool :=
  let number (cell : Cell) : Int := cell.leadingInteger
  let within (ownPlace place : Int) : Bool :=
    (edgePosition frame.start ownPlace (number (distances.getD 0 .null))).all (· ≤ place) &&
      (edgePosition frame.stop ownPlace (number (distances.getD 1 .null))).all (place ≤ ·)
  let group (k : Nat) : Int := (groups.getD k 0 : Nat)
  let hasDistance := [FrameEdge.before, .behind].contains frame.start || [FrameEdge.before, .behind].contains frame.stop
  let isInside := match frame.unit with
    | .rows => within own k
    | .groups => within (group own) (group k)
    | .range =>
      let edges := within (group own) (group k)
      if !hasDistance then edges
      else match window.orders, rows[own]?, rows[k]? with
        | (_, direction) :: _, some a, some b =>
          let byCurrent (edge : FrameEdge) (isStart : Bool) : Bool := edge != .current ||
            (if isStart then decide (group own ≤ group k) else decide (group k ≤ group own))
          frame.isInRange direction distances (a.order.headD .null) (b.order.headD .null) &&
            byCurrent frame.start true && byCurrent frame.stop false
        | _, _, _ => edges
  let isExcluded := match frame.exclusion with
    | .nothing => false
    | .current => k == own
    | .group => group k == group own
    | .ties => group k == group own && k != own
  isInside && !isExcluded

def requireDistances (frame : Frame) (distances : List Cell) : Except Obstacle Unit :=
  let isFit (cell : Cell) : Bool := match frame.unit, cell.adapt .numeric with
    | _, .integer value => decide (0 ≤ value)
    | .range, .real negative _ => !negative
    | _, _ => false
  let require (edge : FrameEdge) (name : String) (k : Nat) : Except Obstacle Unit :=
    let isNeeded := edge == .before || edge == .behind
    if isNeeded && !isFit (distances.getD k .null) then
      .error (.failed ("frame " ++ name ++ " offset must be a non-negative " ++
        if frame.unit = .range then "number" else "integer"))
    else .ok ()
  do
    require frame.start "starting" 0
    require frame.stop "ending" 1

end Frame

namespace Argument

def tile (count parts own : Nat) : Nat :=
  let size := count / parts
  let large := count % parts
  if own < large * (size + 1) then own / (size + 1) + 1 else (own - large * (size + 1)) / size + large + 1

def overWindow (collation : Collation) (name : String) (window : WindowOrder) (frame? : Option Frame)
    (distances : List Cell) (entries : List WindowEntry) (position : Nat) : Except Obstacle Argument := do
  let frame := frame?.getD .usual
  frame.requireDistances distances
  let (rows, own) := window.partition entries position
  let groups := window.groupNumbers 0 rows
  let count := rows.length
  let group := groups.getD own 0
  let before := groups.countP (· < group)
  let upTo := groups.countP (· ≤ group)
  let arguments := ((rows[own]?).map WindowEntry.arguments).getD []
  let argument (k : Nat) : Argument := arguments.getD k (ofCell .null)
  let number (value : Nat) : Argument := ofCell (.integer value)
  let framed := (rows.zipIdx.filter fun (_, k) => frame.holds window distances rows groups own k).map Prod.fst
  let first (row? : Option WindowEntry) : Argument := ((row?.bind fun row => row.arguments.head?)).getD (ofCell .null)
  match name with
  | "row_number" => return number (own + 1)
  | "rank" => return number (before + 1)
  | "dense_rank" => return number (group + 1)
  | "percent_rank" =>
    return ofCell (if count ≤ 1 then .realOfInt 0 else .realOfRatio before (count - 1))
  | "cume_dist" => return ofCell (.realOfRatio upTo count)
  | "ntile" =>
    let parts := (argument 0).cell.leadingInteger
    if parts ≤ 0 then throw (.failed "argument of ntile must be a positive integer")
    return number (tile count parts.toNat own)
  | "lag" | "lead" =>
    let distance := (arguments[1]?.map fun distance => distance.cell.leadingInteger).getD 1
    let target : Int := if name = "lag" then own - distance else own + distance
    match if 0 ≤ target then rows[target.toNat]? else none with
    | some row => return first (some row)
    | none => return argument 2
  | "first_value" => return first framed.head?
  | "last_value" => return first framed.getLast?
  | "nth_value" =>
    let nth := (argument 1).cell
    match nth.adapt .numeric with
    | .integer value =>
      if value ≤ 0 then throw (.failed "second argument to nth_value must be a positive integer")
      return first framed[value.toNat - 1]?
    | _ => throw (.failed "second argument to nth_value must be a positive integer")
  | _ => aggregate collation name ((framed.filter WindowEntry.counts).map WindowEntry.arguments)

end Argument

end InspectionForms
