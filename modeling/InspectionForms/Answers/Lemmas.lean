import InspectionForms.Answers
import InspectionForms.SortedMap.Lemmas

namespace InspectionForms.Answers

theorem field?_writeField (answers : Answers) (sectionId fieldId s f : String) (value : Json) :
    (answers.writeField sectionId fieldId value).field? s f =
      if s = sectionId ∧ f = fieldId then some value else answers.field? s f := by
  simp only [field?, writeField, SortedMap.get?_alter]
  by_cases hs : s = sectionId
  · subst hs
    by_cases hf : f = fieldId <;> cases h : answers.sections.get? s <;>
      simp [SortedMap.get?_insert, hf, SortedMap.get?_empty]
  · simp [hs]

theorem cell?_writeField (answers : Answers) (sectionId fieldId s t c : String) (row : Nat) (value : Json) :
    (answers.writeField sectionId fieldId value).cell? s t row c = answers.cell? s t row c := by
  simp only [cell?, writeField, SortedMap.get?_alter]
  by_cases hs : s = sectionId
  · subst hs
    cases h : answers.sections.get? s <;> simp [SortedMap.get?_empty]
  · simp [hs]

theorem field?_writeCell (answers : Answers) (sectionId subSectionId columnId s f : String) (row : Nat)
    (value : Json) :
    (answers.writeCell sectionId subSectionId row columnId value).field? s f = answers.field? s f := by
  simp only [field?, writeCell, SortedMap.get?_alter]
  by_cases hs : s = sectionId
  · subst hs
    cases h : answers.sections.get? s <;> simp [SortedMap.get?_empty]
  · simp [hs]

theorem cell?_writeCell (answers : Answers) (sectionId subSectionId columnId s t c : String) (row r : Nat)
    (value : Json) :
    (answers.writeCell sectionId subSectionId row columnId value).cell? s t r c =
      if s = sectionId ∧ t = subSectionId ∧ r = row ∧ c = columnId then some value
      else answers.cell? s t r c := by
  simp only [cell?, writeCell, SortedMap.get?_alter]
  by_cases hs : s = sectionId
  · subst hs
    cases hsec : answers.sections.get? s with
    | none =>
      by_cases ht : t = subSectionId <;> by_cases hr : r = row <;> by_cases hc : c = columnId <;>
        simp [SortedMap.get?_alter, SortedMap.get?_insert, SortedMap.get?_empty, ht, hr, hc]
    | some inSection =>
      by_cases ht : t = subSectionId
      · subst ht
        cases htab : inSection.tables.get? t with
        | none =>
          by_cases hr : r = row <;> by_cases hc : c = columnId <;>
            simp [SortedMap.get?_alter, SortedMap.get?_insert, SortedMap.get?_empty, hr, hc, htab]
        | some table =>
          by_cases hr : r = row
          · subst hr
            cases hrow : table.get? r <;> by_cases hc : c = columnId <;>
              simp [SortedMap.get?_alter, SortedMap.get?_insert, SortedMap.get?_empty, hc, htab, hrow]
          · simp [SortedMap.get?_alter, hr, htab]
      · simp [SortedMap.get?_alter, ht]
  · simp [hs]

end InspectionForms.Answers
