import Mathlib
import InspectionForms.CommandLine.StoreFile
import InspectionForms.Proofs.TreeNodes

set_option mvcgen.warning false

namespace InspectionForms

open Std.Do

namespace FileTree

variable {tree : FileTree} {path other : Path}

theorem not_prefix_dropLast (nonempty : path ≠ []) (length : path.length ≤ other.length) :
    ¬ other <+: path.dropLast := by
  intro inside
  have bound := inside.length_le
  have positive := List.length_pos_of_ne_nil nonempty
  rw [List.length_dropLast] at bound
  omega

theorem HoldsPlace.put (place : tree.HoldsPlace path) (node : FileNode) (length : path.length ≤ other.length) :
    (tree.put other node).HoldsPlace path :=
  ⟨place.nonempty, (sameLeaf_put node (not_prefix_dropLast place.nonempty length)).isDirectory.trans place.parent⟩

theorem HoldsPlace.remove (place : tree.HoldsPlace path) (length : path.length ≤ other.length) :
    (tree.remove other).HoldsPlace path :=
  ⟨place.nonempty, (sameLeaf_remove (not_prefix_dropLast place.nonempty length)).isDirectory.trans place.parent⟩

/-- The directory of a file does not go away with anything that is no directory. -/
theorem HoldsPlace.remove_leaf (place : tree.HoldsPlace path)
    (leaf : (tree.node? other).any FileNode.isDirectory = false) : (tree.remove other).HoldsPlace path := by
  refine ⟨place.nonempty, (sameLeaf_remove ?_).isDirectory.trans place.parent⟩
  rintro ⟨back, split⟩
  have parent := place.parent
  rw [isDirectory, ← split, node?, FileNode.find?_append, ← node?] at parent
  cases found : tree.node? other with
  | none =>
    rw [found] at parent
    cases parent
  | some node =>
    rw [found] at parent leaf
    cases node with
    | directory entries => cases leaf
    | _ => cases back <;> cases parent

theorem sameRows_touch (tree : FileTree) (path : Path) (access : Access) : tree.SameRows (tree.touch path access) := by
  unfold touch
  split
  · next missing =>
    obtain ⟨_, absent, parent⟩ := missing
    have none : tree.node? path = none := Option.not_isSome_iff_eq_none.mp absent
    have nonempty : path ≠ [] := by
      rintro rfl
      cases none
    exact HoldsPlace.storedRows_put_new ⟨nonempty, parent⟩ none fun back => by cases back <;> rfl
  · exact fun _ => rfl

end FileTree

theorem Companion.length_path (companion : Companion) {path : Path} (nonempty : path ≠ []) :
    (companion.path path).length = path.length := by
  have positive := List.length_pos_of_ne_nil nonempty
  rw [Companion.path, List.length_append, List.length_dropLast, List.length_singleton]
  omega

theorem Companion.not_path_prefix (companion : Companion) {path : Path} (nonempty : path ≠ []) :
    ¬ companion.path path <+: path := by
  intro inside
  have same := inside.eq_of_length (companion.length_path nonempty)
  have ending : utf8 companion.ending ≠ [] := by cases companion <;> decide
  have last : companion.name (path.getLastD []) = path.getLastD [] := by
    conv => rhs; rw [← same]
    rw [Companion.path, List.getLastD_concat]
  exact ending (List.append_right_eq_self.mp last)

namespace StoreFile

variable (file : StoreFile)

/-- The steps of opening change companions of the file and the file itself. None of them takes away the directory that
the file is in. -/
@[grind ←]
theorem holdsPlace_put_companion {tree : FileTree} (place : tree.HoldsPlace file.path) (companion : Companion)
    (node : FileNode) : (tree.put (file.companionPath companion) node).HoldsPlace file.path :=
  place.put node (companion.length_path place.nonempty).ge

@[grind ←]
theorem holdsPlace_remove_companion {tree : FileTree} (place : tree.HoldsPlace file.path) (companion : Companion) :
    (tree.remove (file.companionPath companion)).HoldsPlace file.path :=
  place.remove (companion.length_path place.nonempty).ge

@[grind ←]
theorem holdsPlace_put_self {tree : FileTree} (place : tree.HoldsPlace file.path) (node : FileNode) :
    (tree.put file.path node).HoldsPlace file.path :=
  place.put node (le_refl _)

@[spec]
theorem acquire_spec :
    ⦃fun tree => ⌜tree.HoldsPlace file.path⌝⦄ file.acquire ⦃⇓? _ tree => ⌜tree.HoldsPlace file.path⌝⦄ := by
  mvcgen [acquire]

@[spec]
theorem passJournal_spec (isFresh : Bool) :
    ⦃fun tree => ⌜tree.HoldsPlace file.path⌝⦄ file.passJournal isFresh ⦃⇓? _ tree => ⌜tree.HoldsPlace file.path⌝⦄ := by
  mvcgen [passJournal] with grind

@[spec]
theorem openLog_spec :
    ⦃fun tree => ⌜tree.HoldsPlace file.path⌝⦄ file.openLog ⦃⇓? _ tree => ⌜tree.HoldsPlace file.path⌝⦄ := by
  mvcgen [openLog] with grind

@[spec]
theorem recoverLog?_spec (isFresh : Bool) :
    ⦃fun tree => ⌜tree.HoldsPlace file.path⌝⦄ file.recoverLog? isFresh ⦃⇓? _ tree => ⌜tree.HoldsPlace file.path⌝⦄ := by
  mvcgen [recoverLog?] with grind

@[spec]
theorem prepare_spec (log? : Option Log) (isFresh : Bool) (logged : FileNode) :
    ⦃fun tree => ⌜tree.HoldsPlace file.path⌝⦄ file.prepare log? isFresh logged
      ⦃⇓? _ tree => ⌜tree.HoldsPlace file.path⌝⦄ := by
  mvcgen [prepare] with grind

theorem holdsPlace_remove_resolved {tree : FileTree} (place : tree.HoldsPlace file.path) {cwd : Path}
    {name : List UInt8} {found : Place} (resolved : tree.resolve cwd name = .ok found)
    (leaf : ¬ (tree.nodeAt found).any FileNode.isDirectory) : (tree.remove (placePath found)).HoldsPlace file.path := by
  have leads : tree.Leads found := by
    unfold FileTree.resolve at resolved
    split at resolved
    · cases resolved
    · split at resolved
      · cases resolved
      · exact FileTree.leads_of_walkFrom resolved
  refine place.remove_leaf ?_
  rw [← leads.nodeAt_eq]
  exact Bool.not_eq_true _ ▸ leaf

/-- The journals on a list are only read, so the list itself is still what it was when it goes away. -/
theorem dropList_from {tree : FileTree} (place : tree.HoldsPlace file.path) (name : List UInt8) :
    ⦃fun now => ⌜now = tree⌝⦄ file.dropList name ⦃⇓? _ later => ⌜later.HoldsPlace file.path⌝⦄ := by
  mvcgen [dropList] invariants
  · ⇓? _ now => ⌜now = tree⌝
  with grind [holdsPlace_remove_resolved]

@[spec]
theorem dropList_spec (name : List UInt8) :
    ⦃fun tree => ⌜tree.HoldsPlace file.path⌝⦄ file.dropList name ⦃⇓? _ tree => ⌜tree.HoldsPlace file.path⌝⦄ :=
  fun tree place => file.dropList_from place name tree rfl

@[spec]
theorem takeBack_spec (journal bytes : List UInt8) :
    ⦃fun tree => ⌜tree.HoldsPlace file.path⌝⦄ file.takeBack journal bytes
      ⦃⇓? _ tree => ⌜tree.HoldsPlace file.path⌝⦄ := by
  mvcgen [takeBack] with grind

@[spec]
theorem recoverJournal_spec (bytes : List UInt8) :
    ⦃fun tree => ⌜tree.HoldsPlace file.path⌝⦄ file.recoverJournal bytes
      ⦃⇓? _ tree => ⌜tree.HoldsPlace file.path⌝⦄ := by
  mvcgen [recoverJournal] with grind

end StoreFile

/-- A store of our own that has been opened has a table with the rows that were stored before. It can be put back to
where it is kept, and nothing that goes away then is in its place. -/
structure OpenedStore.Continues (opened : OpenedStore) (first tree : FileTree) : Prop where
  table (store : Store) : opened.content = .own store → ∃ table, store.table = some table ∧
    ∀ home, opened.home = some home → table.rows = first.storedRows home.path
  place (home : StoreHome) : opened.home = some home → tree.HoldsPlace home.path
  leftovers (home : StoreHome) : opened.home = some home → ∀ leftover ∈ home.leftovers, ¬ leftover <+: home.path

namespace StoreFile

variable {file : StoreFile} {first tree : FileTree}

theorem not_prefix_of_mem_leftovers (nonempty : file.path ≠ []) {leftover : Path} (member : leftover ∈ file.leftovers) :
    ¬ leftover <+: file.path := by
  rw [leftovers, List.mem_cons] at member
  rcases member with rfl | index
  · exact Companion.log.not_path_prefix nonempty
  · split at index
    · rw [List.mem_singleton.mp index]
      exact Companion.index.not_path_prefix nonempty
    · cases index

theorem continues_opened (place : tree.HoldsPlace file.path) {content : StoreContent} (hasLog : Bool)
    (kept : ∀ store, content = .own store →
      ∃ table, store.table = some table ∧ table.rows = first.storedRows file.path) :
    (file.opened content hasLog).Continues first tree := by
  refine ⟨fun store own => ?_, fun home same => ?_, fun home same leftover member => ?_⟩
  · obtain ⟨table, present, rows⟩ := kept store own
    refine ⟨table, present, fun home same => ?_⟩
    obtain rfl := Option.some.inj same
    exact rows
  · obtain rfl := Option.some.inj same
    exact place
  · obtain rfl := Option.some.inj same
    dsimp only at member
    split at member
    · exact not_prefix_of_mem_leftovers place.nonempty member
    · cases member

@[spec]
theorem giveUp_spec {α : Type} (log? : Option Log) (pageSize : Nat) (error : StoreError) :
    ⦃fun _ => ⌜True⌝⦄ (file.giveUp log? pageSize error : Opening α) ⦃⇓? _ _ => ⌜False⌝⦄ := by
  mvcgen [giveUp, closeLog]

@[spec]
theorem openFresh_spec (noRows : first.storedRows file.path = []) (former : List UInt8) :
    ⦃fun tree => ⌜tree.HoldsPlace file.path⌝⦄ file.openFresh former
      ⦃⇓? opened tree => ⌜opened.Continues first tree⌝⦄ := by
  have kept (store : Store) (own : StoreContent.empty = .own store) :
      ∃ table, store.table = some table ∧ table.rows = first.storedRows file.path := by
    obtain rfl := StoreContent.own.inj own
    exact ⟨.empty, rfl, noRows.symm⟩
  mvcgen [openFresh, closeLog] with grind [continues_opened]

theorem discard_eq {α : Type} (action : Opening α) : discard action = action >>= fun _ => pure () :=
  map_eq_pure_bind _ action

@[spec]
theorem openDatabase_spec (content : StoreContent) (hasLog : Bool)
    (rows : content.ownRows = first.storedRows file.path) :
    ⦃fun tree => ⌜tree.HoldsPlace file.path⌝⦄ file.openDatabase content hasLog
      ⦃⇓? opened tree => ⌜opened.Continues first tree⌝⦄ := by
  have kept (later : StoreContent) (reopened : content.reopen file.clock = .ok later) (store : Store)
      (own : later = .own store) :
      ∃ table, store.table = some table ∧ table.rows = first.storedRows file.path := by
    subst own
    cases content with
    | own before =>
      obtain rfl := StoreContent.own.inj (Except.ok.inj reopened)
      exact ⟨before.table.getD .empty, rfl, rows⟩
    | foreign before =>
      rw [StoreContent.reopen] at reopened
      cases opened : before.opened file.clock <;> rw [opened] at reopened <;> cases reopened
  mvcgen [openDatabase, discard_eq] with grind [continues_opened]

@[spec]
theorem openPaged_spec (log? : Option Log) (paged : PagedImage) :
    ⦃fun tree => ⌜tree.HoldsPlace file.path⌝⦄ file.openPaged log? paged
      ⦃⇓? opened tree => ⌜opened.Continues first tree⌝⦄ := by
  mvcgen [openPaged] with grind [continues_opened]

@[spec]
theorem openBytes_spec (noRows : first.storedRows file.path = []) (bytes : List UInt8) :
    ⦃fun tree => ⌜tree.HoldsPlace file.path⌝⦄ file.openBytes bytes
      ⦃⇓? opened tree => ⌜opened.Continues first tree⌝⦄ := by
  mvcgen [openBytes] with grind

@[spec]
theorem openFile_spec (name : String) :
    ⦃fun tree => ⌜first.SameRows tree⌝⦄ file.openFile name ⦃⇓? opened tree => ⌜opened.Continues first tree⌝⦄ := by
  have rows {tree : FileTree} (same : first.SameRows tree) {node : FileNode}
      (there : tree.node? file.path = some node) : first.storedRows file.path = node.storedRows := by
    rw [← same, FileTree.storedRows, there]
    rfl
  mvcgen [openFile] with grind [FileTree.holdsPlace_of_node?, FileNode.storedRows, FileNode.isDirectory]

end StoreFile

namespace FileTree

variable {first tree : FileTree}

@[spec]
theorem openInMemory_spec (address : StoreAddress) (name : String) :
    ⦃fun _ => ⌜True⌝⦄ openInMemory address name ⦃⇓? opened tree => ⌜opened.Continues first tree⌝⦄ := by
  have kept (tree : FileTree) : (⟨.empty, none⟩ : OpenedStore).Continues first tree :=
    ⟨fun store own => ⟨.empty, StoreContent.own.inj own ▸ rfl, nofun⟩, nofun, nofun⟩
  mvcgen [openInMemory] with grind

@[spec]
theorem openNamed_spec (cwd : Path) (clock : Int) (name : String) :
    ⦃fun tree => ⌜first.SameRows tree⌝⦄ openNamed cwd clock name ⦃⇓? opened tree => ⌜opened.Continues first tree⌝⦄ := by
  mvcgen [openNamed, MonadExcept.ofExcept] with grind [SameRows.trans, sameRows_touch]

theorem openStore_spec (cwd : Path) (clock : Int) (directory : String) :
    ⦃fun tree => ⌜tree = first⌝⦄ openStore cwd clock directory ⦃⇓? opened tree => ⌜opened.Continues first tree⌝⦄ := by
  mvcgen [openStore, MonadExcept.ofExcept] with grind [sameRows_ensureDirectories]

theorem continues_of_openStore {cwd : Path} {clock : Int} {directory : String} {opened : OpenedStore}
    (ran : (openStore cwd clock directory).run first = (.ok opened, tree)) : opened.Continues first tree := by
  have ended := openStore_spec cwd clock directory first rfl
  simp only [wp, PredTrans.apply_pushExcept, PredTrans.apply_pushArg] at ended
  rw [StateT.run, ran] at ended
  exact ended

end FileTree

end InspectionForms
