import InspectionForms.CommandLine.StorageDirectory
import Mathlib.Data.List.Infix
import Mathlib.Logic.Function.Iterate

namespace InspectionForms

inductive CheckoutSearch
  | lookingAt (path : Path)
  | ended (root? : Option Path)

/-- A mark ends the search. Without one it goes to the directory above, if there is any. -/
def CheckoutSearch.next (isMarked : Path → Bool) : CheckoutSearch → CheckoutSearch
  | lookingAt path =>
    if isMarked path then ended (some path) else if path = [] then ended none else lookingAt path.dropLast
  | ended root? => ended root?

variable {isMarked : Path → Bool}

theorem CheckoutSearch.next_of_marked {path : Path} (marked : isMarked path) :
    next isMarked (lookingAt path) = ended (some path) := if_pos marked

theorem CheckoutSearch.next_append {path : Path} {name : FileName} (unmarked : ¬ isMarked (path ++ [name])) :
    next isMarked (lookingAt (path ++ [name])) = lookingAt path := by
  rw [next, if_neg unmarked, if_neg (List.append_ne_nil_of_right_ne_nil path (List.cons_ne_nil name [])),
    List.dropLast_concat]

theorem CheckoutSearch.iterate_next_ended (root? : Option Path) (turns : Nat) :
    (next isMarked)^[turns] (ended root?) = ended root? :=
  Function.iterate_fixed rfl turns

theorem checkoutRoot?_nil : checkoutRoot? isMarked [] = if isMarked [] then some [] else none := rfl

theorem checkoutRoot?_append (path : Path) (name : FileName) : checkoutRoot? isMarked (path ++ [name]) =
    if isMarked (path ++ [name]) then some (path ++ [name]) else checkoutRoot? isMarked path := by
  have names : (path ++ [name]).reverse = name :: path.reverse := List.reverse_concat
  rw [checkoutRoot?, checkoutRoot?, names, markedAncestor?, List.reverse_cons, List.reverse_reverse]

/-- The search looks at each directory from the start up to the root at most once. -/
theorem CheckoutSearch.iterate_next (isMarked : Path → Bool) (start : Path) :
    (next isMarked)^[start.length + 1] (lookingAt start) = ended (checkoutRoot? isMarked start) := by
  induction start using List.reverseRecOn with
  | nil =>
    rw [checkoutRoot?_nil]
    by_cases marked : isMarked []
    · rw [if_pos marked]
      exact next_of_marked marked
    · rw [if_neg marked]
      exact (if_neg marked).trans (if_pos rfl)
  | append_singleton path name ih =>
    rw [Function.iterate_succ_apply, checkoutRoot?_append]
    by_cases marked : isMarked (path ++ [name])
    · rw [if_pos marked, next_of_marked marked, iterate_next_ended]
    · rw [if_neg marked, next_append marked, List.length_append]
      exact ih

/-- The deepest directory with a mark from the start up. -/
structure IsCheckoutRoot (isMarked : Path → Bool) (start root : Path) : Prop where
  marked : isMarked root
  above : root <+: start
  deepest : ∀ path, path <+: start → isMarked path → path <+: root

theorem IsCheckoutRoot.unique {start root other : Path} (ofStart : IsCheckoutRoot isMarked start root)
    (same : IsCheckoutRoot isMarked start other) : root = other :=
  (same.deepest root ofStart.above ofStart.marked).eq_of_length_le
    (ofStart.deepest other same.above same.marked).length_le

theorem isCheckoutRoot_of_checkoutRoot? {start root : Path} (found : checkoutRoot? isMarked start = some root) :
    IsCheckoutRoot isMarked start root := by
  induction start using List.reverseRecOn with
  | nil =>
    rw [checkoutRoot?_nil, Option.ite_none_right_eq_some] at found
    obtain ⟨marked, same⟩ := found
    obtain rfl := Option.some.inj same
    exact ⟨marked, List.prefix_rfl, fun path above _ => above⟩
  | append_singleton path name ih =>
    rw [checkoutRoot?_append] at found
    split at found
    · next marked =>
      obtain rfl := Option.some.inj found
      exact ⟨marked, List.prefix_rfl, fun path above _ => above⟩
    · next unmarked =>
      obtain ⟨marked, above, deepest⟩ := ih found
      refine ⟨marked, above.trans (List.prefix_append path [name]), fun other otherAbove otherMarked => ?_⟩
      rcases List.prefix_concat_iff.mp otherAbove with rfl | further
      · exact absurd otherMarked unmarked
      · exact deepest other further otherMarked

theorem checkoutRoot?_eq_none_iff {start : Path} :
    checkoutRoot? isMarked start = none ↔ ∀ path, path <+: start → isMarked path = false := by
  induction start using List.reverseRecOn with
  | nil => simp [checkoutRoot?_nil]
  | append_singleton path name ih =>
    simp only [checkoutRoot?_append, List.prefix_concat_iff, forall_eq_or_imp, ← ih]
    cases isMarked (path ++ [name]) <;> simp

theorem IsCheckoutRoot.checkoutRoot?_eq {start root : Path} (ofStart : IsCheckoutRoot isMarked start root) :
    checkoutRoot? isMarked start = some root := by
  cases found : checkoutRoot? isMarked start with
  | none => exact nomatch ofStart.marked.symm.trans (checkoutRoot?_eq_none_iff.mp found root ofStart.above)
  | some other => exact congrArg some ((isCheckoutRoot_of_checkoutRoot? found).unique ofStart)

/-- A marked directory with no mark below it on the way to the start is the root of the start. -/
theorem IsCheckoutRoot.of_nearest {start root : Path} (marked : isMarked root) (above : root <+: start)
    (nearest : ∀ path, root <+: path → path <+: start → isMarked path → path = root) :
    IsCheckoutRoot isMarked start root := by
  refine ⟨marked, above, fun path pathAbove pathMarked => ?_⟩
  rcases List.prefix_or_prefix_of_prefix pathAbove above with upwards | downwards
  · exact upwards
  · rw [nearest path downwards pathAbove pathMarked]

/-- The search for the root of a checkout ends after a look at each directory from the start up at most. Submissions
are kept below the deepest directory with a mark, or below the start if there is none. So all directories from which
one meets a marked directory before any other share its store, whatever other checkouts there are, around this one or
inside of it. -/
theorem defaultStorageDirectory_of_checkout (isMarked : Path → Bool) (start : Path) :
    (CheckoutSearch.next isMarked)^[start.length + 1] (.lookingAt start) = .ended (checkoutRoot? isMarked start) ∧
    (∀ root, IsCheckoutRoot isMarked start root →
      defaultStorageDirectory isMarked start = root ++ [utf8 ".inspection"]) ∧
    ((∀ path, path <+: start → isMarked path = false) →
      defaultStorageDirectory isMarked start = start ++ [utf8 ".inspection"]) ∧
    ∀ root other, isMarked root → root <+: start → root <+: other →
      (∀ path, root <+: path → path <+: start ∨ path <+: other → isMarked path → path = root) →
      defaultStorageDirectory isMarked start = defaultStorageDirectory isMarked other := by
  have below {start root : Path} (ofStart : IsCheckoutRoot isMarked start root) :
      defaultStorageDirectory isMarked start = root ++ [utf8 ".inspection"] := by
    rw [defaultStorageDirectory, ofStart.checkoutRoot?_eq, Option.getD_some]
  refine ⟨CheckoutSearch.iterate_next isMarked start, fun root => below, fun unmarked => ?_,
    fun root other marked aboveStart aboveOther nearest => ?_⟩
  · rw [defaultStorageDirectory, checkoutRoot?_eq_none_iff.mpr unmarked, Option.getD_none]
  · have ofStart := IsCheckoutRoot.of_nearest marked aboveStart fun path down up => nearest path down (.inl up)
    have ofOther := IsCheckoutRoot.of_nearest marked aboveOther fun path down up => nearest path down (.inr up)
    rw [below ofStart, below ofOther]

/-- A checkout inside of another one has a store of its own. -/
example : defaultStorageDirectory (fun path => path = [[0x61]] || path = [[0x61], [0x62]]) [[0x61], [0x62], [0x63]] =
    [[0x61], [0x62], utf8 ".inspection"] := by
  decide

end InspectionForms
