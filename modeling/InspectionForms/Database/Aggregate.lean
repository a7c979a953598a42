import InspectionForms.Database.Function

namespace InspectionForms

namespace Argument

/-- A value as a number to be added. A text that spells no number makes a real one. -/
def summand (cell : Cell) : Cell :=
  match cell with
  | .text bytes | .blob bytes => (Cell.ofSpelling? (textOfBytes bytes)).getD cell.number.toReal
  | cell => cell

def sum (cells : List Cell) : Except Obstacle Cell :=
  cells.foldlM (fun total cell =>
    match Cell.arithmetic .add total cell with
    | .integer value => .ok (.integer value)
    | total => if cells.all fun cell => cell = .integer cell.leadingInteger then .error (.failed "integer overflow")
      else .ok total) (.integer 0)

/-- Texts one after the other, each but the first behind its separator. -/
def concatenated : List (List Cell) → List UInt8
  | [] => []
  | first :: rest =>
    let bytes (row : List Cell) : List UInt8 := (row.headD .null).textBytes?.getD []
    let separator (row : List Cell) : List UInt8 := ((row[1]?).getD (Cell.ofString ",")).textBytes?.getD []
    bytes first ++ rest.flatMap fun row => separator row ++ bytes row

def aggregate (collation : Collation) (name : String) (rows : List (List Argument)) : Except Obstacle Argument := do
  let given := (rows.map fun row => row.map Argument.cell).filter fun row => row.head?.all (· != .null)
  let cells := given.map fun row => row.headD (.integer 1)
  let isBlob := name.startsWith "jsonb"
  match name with
  | "json_group_array" | "jsonb_group_array" =>
    return (Document.array (← (rows.filterMap List.head?).mapM Document.ofValue)).result isBlob
  | "json_group_object" | "jsonb_group_object" =>
    let members ← (rows.filter fun row => row.head?.any fun name => name.cell != .null).mapM fun row => do
      let name := ((row.headD (ofCell .null)).cell.characters?).getD []
      return ((⟨.bare, name⟩ : DocumentText), ← Document.ofValue (row.getD 1 (ofCell .null)))
    return (Document.object members).result isBlob
  | _ =>
    let cell ← match name with
      | "count" => pure (.integer cells.length)
      | "min" =>
        pure ((cells.drop 1).foldl (fun least cell => if cell.precedes collation least then cell else least)
          (cells.headD .null))
      | "max" =>
        pure ((cells.drop 1).foldl (fun most cell => if most.precedes collation cell then cell else most)
          (cells.headD .null))
      | "sum" => if cells.isEmpty then pure .null else sum (cells.map summand)
      | "total" => (sum (cells.map fun cell => (summand cell).toReal)).map Cell.toReal
      | "avg" =>
        if cells.isEmpty then pure .null
        else (sum (cells.map fun cell => (summand cell).toReal)).map fun total =>
          Cell.arithmetic .divide total.toReal (Cell.realOfInt cells.length)
      | "group_concat" | "string_agg" => pure (if cells.isEmpty then .null else .text (concatenated given))
      | _ => throw .unknown
    return ofCell cell

end Argument

end InspectionForms
