import InspectionForms.Database.Expression
import InspectionForms.Text.Blank

namespace InspectionForms

/-- Whether a column can be named: as one of all columns, only by its name, only if nothing else has the name, or only
with the label of its rows. -/
inductive ColumnVisibility
  | plain
  | hidden
  | reserve
  | labelled
  deriving DecidableEq, Repr

/-- A column that can be named. Its value stands at an index of a row, or at others if there is none. -/
structure LayoutColumn where
  label : Option String
  name : String
  index : Nat
  affinity : Option Affinity
  collation : Collation
  visibility : ColumnVisibility
  others : List Nat
  deriving DecidableEq, Repr

/-- How rows with some number of values look. -/
structure Layout where
  columns : List LayoutColumn
  width : Nat
  deriving DecidableEq, Repr

namespace LayoutColumn

def hasName (name : String) (column : LayoutColumn) : Bool := isSameName column.name name

def hasLabel (label : String) (column : LayoutColumn) : Bool := column.label.any (isSameName label)

def field (depth : Nat) (column : LayoutColumn) : Expression :=
  let place (index : Nat) : Expression := .field ⟨depth, index, column.affinity, column.collation⟩
  if column.others.isEmpty then place column.index else .call "coalesce" ((column.index :: column.others).map place)

end LayoutColumn

namespace Layout

def empty : Layout := ⟨[], 0⟩

def matching (layout : Layout) (label? : Option String) (name : String) : List LayoutColumn :=
  let named := layout.columns.filter fun column => column.hasName name && match label? with
    | some label => column.hasLabel label
    | none => column.visibility != .labelled
  let proper := named.filter fun column => column.visibility != .reserve
  if proper.isEmpty then named else proper

def allColumns (layout : Layout) (label? : Option String) : List LayoutColumn :=
  layout.columns.filter fun column => match label? with
    | some label => column.hasLabel label && (column.visibility == .plain || column.visibility == .labelled)
    | none => column.visibility == .plain

def withLabel (label : Option String) (layout : Layout) : Layout :=
  { layout with columns := layout.columns.map fun column => { column with label } }

def shifted (width : Nat) (layout : Layout) : Layout :=
  { layout with columns := layout.columns.map fun column =>
      { column with index := width + column.index, others := column.others.map (width + ·) } }

def beside (left right : Layout) : Layout :=
  ⟨left.columns ++ (right.shifted left.width).columns, left.width + right.width⟩

def sharedNames (left right : Layout) : List String :=
  ((right.allColumns none).map LayoutColumn.name).filter fun name =>
    (left.allColumns none).any (LayoutColumn.hasName name)

/-- The layout of two rows that agree in some columns, which are named once. If the left row may be missing, the value
of the right one can stand for it. -/
def merged (names : List String) (hasOthers : Bool) (left right : Layout) : Layout :=
  let right := right.shifted left.width
  let isShared (column : LayoutColumn) : Bool := names.any fun name => column.hasName name
  let others (column : LayoutColumn) : List Nat :=
    ((right.columns.filter fun other => other.visibility == .plain && other.hasName column.name).take 1).map
      LayoutColumn.index
  let kept := left.columns.map fun column =>
    if hasOthers && isShared column && column.visibility == .plain then
      { column with others := column.others ++ others column }
    else column
  let demoted := right.columns.map fun column =>
    if isShared column && column.visibility == .plain then { column with visibility := .labelled } else column
  ⟨kept ++ demoted, left.width + right.width⟩

end Layout

end InspectionForms
