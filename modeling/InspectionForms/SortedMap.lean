namespace InspectionForms

universe u v w

/-- The first value under a key in a list of entries. -/
def lookupEntry {κ : Type u} {ν : Type v} [Ord κ] (key : κ) : List (κ × ν) → Option ν
  | [] => none
  | (k, v) :: rest => if compare key k = .eq then some v else lookupEntry key rest

/-- Puts a value under a key into entries that are in key order. A value already there is replaced. -/
def insertEntry {κ : Type u} {ν : Type v} [Ord κ] (key : κ) (value : ν) : List (κ × ν) → List (κ × ν)
  | [] => [(key, value)]
  | (k, v) :: rest =>
    match compare key k with
    | .lt => (key, value) :: (k, v) :: rest
    | .eq => (key, value) :: rest
    | .gt => (k, v) :: insertEntry key value rest

/-- The keys of the entries increase strictly. -/
def SortedEntries {κ : Type u} {ν : Type v} [Ord κ] (entries : List (κ × ν)) : Prop :=
  entries.Pairwise fun a b => compare a.1 b.1 = .lt

theorem mem_insertEntry {κ : Type u} {ν : Type v} [Ord κ] {key : κ} {value : ν} {e : κ × ν}
    {entries : List (κ × ν)} (h : e ∈ insertEntry key value entries) :
    e = (key, value) ∨ e ∈ entries := by
  induction entries with
  | nil => simpa [insertEntry] using h
  | cons head rest ih =>
    obtain ⟨k, v⟩ := head
    rw [insertEntry] at h
    split at h <;> grind

theorem SortedEntries.insertEntry {κ : Type u} {ν : Type v} [Ord κ] [Std.TransOrd κ] {key : κ} {value : ν}
    {entries : List (κ × ν)} (h : SortedEntries entries) :
    SortedEntries (insertEntry key value entries) := by
  induction entries with
  | nil => simp [SortedEntries, InspectionForms.insertEntry]
  | cons head rest ih =>
    obtain ⟨k, v⟩ := head
    obtain ⟨above, tail⟩ := List.pairwise_cons.mp h
    rw [InspectionForms.insertEntry]
    split
    · next before =>
      refine List.pairwise_cons.mpr ⟨fun e he => ?_, h⟩
      rcases List.mem_cons.mp he with rfl | he
      · exact before
      · exact Std.TransCmp.lt_trans before (above e he)
    · next same =>
      refine List.pairwise_cons.mpr ⟨fun e he => ?_, tail⟩
      exact Std.TransCmp.lt_of_eq_of_lt same (above e he)
    · next after =>
      refine List.pairwise_cons.mpr ⟨fun e he => ?_, ih tail⟩
      rcases mem_insertEntry he with rfl | he
      · exact Std.OrientedCmp.lt_of_gt after
      · exact above e he

theorem SortedEntries.mapValues {κ : Type u} {ν : Type v} {μ : Type w} [Ord κ] (f : ν → μ)
    {entries : List (κ × ν)} (h : SortedEntries entries) :
    SortedEntries (entries.map fun e => (e.1, f e.2)) := by
  rw [SortedEntries, List.pairwise_map]
  exact h

/-- A finite map: its entries, each key once, in increasing order. -/
structure SortedMap (κ : Type u) (ν : Type v) [Ord κ] where
  entries : List (κ × ν)
  sorted : SortedEntries entries

namespace SortedMap

variable {κ : Type u} {ν : Type v} {μ : Type w} [Ord κ]

def empty : SortedMap κ ν := ⟨[], .nil⟩

instance : Inhabited (SortedMap κ ν) := ⟨empty⟩

instance : EmptyCollection (SortedMap κ ν) := ⟨empty⟩

def isEmpty (m : SortedMap κ ν) : Bool := m.entries.isEmpty

def get? (m : SortedMap κ ν) (key : κ) : Option ν := lookupEntry key m.entries

def map (f : ν → μ) (m : SortedMap κ ν) : SortedMap κ μ :=
  ⟨m.entries.map fun e => (e.1, f e.2), m.sorted.mapValues f⟩

section Insert
variable [Std.TransOrd κ]

def insert (m : SortedMap κ ν) (key : κ) (value : ν) : SortedMap κ ν :=
  ⟨insertEntry key value m.entries, m.sorted.insertEntry⟩

/-- Puts under a key what is made of the value there, or of its absence. -/
def alter (m : SortedMap κ ν) (key : κ) (f : Option ν → ν) : SortedMap κ ν :=
  m.insert key (f (m.get? key))

def insertMany (m : SortedMap κ ν) (entries : List (κ × ν)) : SortedMap κ ν :=
  entries.foldl (fun m e => m.insert e.1 e.2) m

/-- Of two entries with one key the later stands. -/
def ofList (entries : List (κ × ν)) : SortedMap κ ν := empty.insertMany entries

end Insert

end SortedMap

end InspectionForms
