import InspectionForms.Database.Cell

namespace InspectionForms

/-- Why there is no value: it is not known how to compute it, it cannot be computed, it is not the same at all times,
or the change is refused. -/
inductive Obstacle
  | unknown
  | failed (message : String)
  | changing (function : String)
  | refused (action message : String)

/-- A value that a function takes or gives back. A document is told from other texts if it comes from a function on
documents. -/
structure Argument where
  cell : Cell
  isDocument : Bool

def Argument.ofCell (cell : Cell) : Argument := ⟨cell, false⟩

end InspectionForms
