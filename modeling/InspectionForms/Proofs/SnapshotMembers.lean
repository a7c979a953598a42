import InspectionForms.Proofs.Targets
import InspectionForms.Proofs.JsonTree
import InspectionForms.Proofs.NumberText

namespace InspectionForms

namespace TableAnswers

/-- The rows of a table under the texts of their positions. -/
def members (table : TableAnswers) : SortedMap String Json :=
  .ofList (table.entries.map fun e => (natText e.1, Json.ofMap e.2))

theorem toJson_eq (table : TableAnswers) : table.toJson = .ofMap table.members := rfl

theorem distinct_members (table : TableAnswers) :
    ((table.entries.map fun e => (natText e.1, Json.ofMap e.2)).map Prod.fst).Nodup := by
  have names : (table.entries.map fun e => (natText e.1, Json.ofMap e.2)).map Prod.fst =
      (table.entries.map Prod.fst).map natText := by
    rw [List.map_map, List.map_map]
    rfl
  rw [names, List.Nodup, List.pairwise_map]
  exact List.Pairwise.imp (fun differ same => differ (natText_injective _ _ same)) table.nodup_keys

theorem get?_members_natText (table : TableAnswers) (row : Nat) :
    table.members.get? (natText row) = (table.get? row).map Json.ofMap := by
  rw [members, SortedMap.get?_ofList table.distinct_members]
  have split : (table.entries.map fun e => (natText e.1, Json.ofMap e.2)) =
      (table.map Json.ofMap).entries.map fun e => (natText e.1, e.2) := by
    rw [SortedMap.map, List.map_map]
    rfl
  rw [split, lookupEntry_mapKeys natText_injective]
  exact SortedMap.get?_map Json.ofMap table row

/-- All members of a written table are rows of it. -/
theorem get?_members_eq_some_iff {table : TableAnswers} {name : String} {value : Json} :
    table.members.get? name = some value ↔
      ∃ row cells, natText row = name ∧ table.get? row = some cells ∧ .ofMap cells = value := by
  constructor
  · intro h
    rw [members, SortedMap.get?_ofList table.distinct_members] at h
    obtain ⟨e, member, same⟩ := List.mem_map.mp (mem_of_lookupEntry h)
    obtain ⟨rfl, rfl⟩ := Prod.mk.inj same
    exact ⟨e.1, e.2, rfl, (SortedMap.get?_eq_some_iff _).mpr member, rfl⟩
  · rintro ⟨row, cells, rfl, found, rfl⟩
    rw [get?_members_natText, found]
    rfl

end TableAnswers

namespace SectionAnswers

/-- The members of a section: its tables, and its fields where no table has their id. -/
def members (s : SectionAnswers) : SortedMap String Json :=
  s.fields.insertMany (s.tables.map TableAnswers.toJson).entries

theorem toJson_eq (s : SectionAnswers) : s.toJson = .ofMap s.members := rfl

theorem get?_members (s : SectionAnswers) (name : String) :
    s.members.get? name = ((s.tables.get? name).map TableAnswers.toJson).or (s.fields.get? name) := by
  rw [members, SortedMap.get?_insertMany (SortedMap.nodup_keys _), ← SortedMap.get?_map]
  rfl

end SectionAnswers

namespace Answers

variable {answers : Answers}

theorem field?_eq_some_iff {s f : String} {value : Json} :
    answers.field? s f = some value ↔
      ∃ inSection, answers.sections.get? s = some inSection ∧ inSection.fields.get? f = some value := by
  simp [field?, Option.bind_eq_some_iff]

theorem cell?_eq_some_iff {s t : String} {r : Nat} {c : String} {value : Json} :
    answers.cell? s t r c = some value ↔
      ∃ inSection table cells, answers.sections.get? s = some inSection ∧
        inSection.tables.get? t = some table ∧ table.get? r = some cells ∧ cells.get? c = some value := by
  simp [cell?, Option.bind_eq_some_iff]

/-- A snapshot adds two containers to what is written in fields and four to what is written in cells. -/
theorem depth_snapshot_le_iff {n : Nat}
    (fields : ∀ s f value, answers.field? s f = some value → value.depth ≤ n + 2) :
    answers.snapshot.depth ≤ n + 4 ↔
      ∀ s t r c value, answers.cell? s t r c = some value → value.depth ≤ n := by
  rw [snapshot, Json.depth_ofMap_le_iff]
  constructor
  · intro shallow s t r c value written
    obtain ⟨inSection, table, cells, atSection, atTable, atRow, atCell⟩ := cell?_eq_some_iff.mp written
    have ofSection := shallow s inSection.toJson (by rw [SortedMap.get?_map, atSection]; rfl)
    have ofTable := Json.depth_ofMap_le_iff.mp ofSection t table.toJson (by
      change inSection.members.get? t = _
      rw [SectionAnswers.get?_members, atTable]
      rfl)
    have ofRow := Json.depth_ofMap_le_iff.mp ofTable (natText r) (.ofMap cells)
      (TableAnswers.get?_members_eq_some_iff.mpr ⟨r, cells, rfl, atRow, rfl⟩)
    exact Json.depth_ofMap_le_iff.mp ofRow c value atCell
  · intro cellsShallow s sectionJson found
    rw [SortedMap.get?_map] at found
    obtain ⟨inSection, atSection, rfl⟩ := Option.map_eq_some_iff.mp found
    rw [SectionAnswers.toJson_eq, Json.depth_ofMap_le_iff]
    intro name value found
    rw [SectionAnswers.get?_members, Option.or_eq_some_iff] at found
    rcases found with ofTable | ⟨_, ofField⟩
    · obtain ⟨table, atTable, rfl⟩ := Option.map_eq_some_iff.mp ofTable
      rw [TableAnswers.toJson_eq, Json.depth_ofMap_le_iff]
      intro rowName rowJson found
      obtain ⟨r, cells, rfl, atRow, rfl⟩ := TableAnswers.get?_members_eq_some_iff.mp found
      rw [Json.depth_ofMap_le_iff]
      intro c value atCell
      exact cellsShallow s name r c value
        (cell?_eq_some_iff.mpr ⟨inSection, table, cells, atSection, atTable, atRow, atCell⟩)
    · exact fields s name value (field?_eq_some_iff.mpr ⟨inSection, atSection, ofField⟩)

theorem isNormal_snapshot (every : answers.Every Json.IsNormal) : answers.snapshot.IsNormal := by
  refine Json.isNormal_ofMap fun s sectionJson found => ?_
  rw [SortedMap.get?_map] at found
  obtain ⟨inSection, atSection, rfl⟩ := Option.map_eq_some_iff.mp found
  rw [SectionAnswers.toJson_eq]
  refine Json.isNormal_ofMap fun name value found => ?_
  rw [SectionAnswers.get?_members, Option.or_eq_some_iff] at found
  rcases found with ofTable | ⟨_, ofField⟩
  · obtain ⟨table, atTable, rfl⟩ := Option.map_eq_some_iff.mp ofTable
    refine Json.isNormal_ofMap fun rowName rowJson found => ?_
    obtain ⟨r, cells, rfl, atRow, rfl⟩ := TableAnswers.get?_members_eq_some_iff.mp found
    refine Json.isNormal_ofMap fun c value atCell => ?_
    exact every (.cell s name r c) value
      (cell?_eq_some_iff.mpr ⟨inSection, table, cells, atSection, atTable, atRow, atCell⟩)
  · exact every (.field s name) value (field?_eq_some_iff.mpr ⟨inSection, atSection, ofField⟩)

end Answers

end InspectionForms
