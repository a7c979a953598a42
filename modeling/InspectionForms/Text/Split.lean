namespace InspectionForms

/-- The pieces of a list between the occurrences of an element, of which there is always one. -/
def pieces {α : Type} [DecidableEq α] (separator : α) : List α → List (List α)
  | [] => [[]]
  | x :: rest =>
    if x = separator then [] :: pieces separator rest
    else match pieces separator rest with
      | [] => [[x]]
      | piece :: others => (x :: piece) :: others

end InspectionForms
