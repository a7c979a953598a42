import InspectionForms.CommandLine.FileTree

namespace InspectionForms

/-- The rows of a store of our own. Another program may keep its rows in any other way. -/
def StoreContent.ownRows : StoreContent → List StoredRow
  | own store => (store.table.getD .empty).rows
  | foreign _ => []

def FileNode.storedRows : FileNode → List StoredRow
  | .database content _ => content.ownRows
  | _ => []

/-- The rows of the store that is kept at a path. -/
def FileTree.storedRows (tree : FileTree) (path : Path) : List StoredRow :=
  (tree.node? path).elim [] FileNode.storedRows

theorem FileNode.find?_append (node : FileNode) (front back : Path) :
    node.find? (front ++ back) = (node.find? front).bind (·.find? back) := by
  induction front generalizing node with
  | nil => rfl
  | cons name rest ih =>
    cases node with
    | directory entries =>
      rw [List.cons_append, find?, find?]
      cases entries.lookup name with
      | none => rfl
      | some inner => exact ih inner
    | _ => rfl

theorem FileNode.find?_cons (entries : List (FileName × FileNode)) (name : FileName) (rest : Path) :
    (directory entries).find? (name :: rest) = (entries.lookup name).bind (·.find? rest) := by
  rw [find?]
  cases entries.lookup name <;> rfl

/-- Only a directory has something below it. -/
theorem FileNode.eq_directory_of_find? {node found : FileNode} {name : FileName} {rest : Path}
    (there : node.find? (name :: rest) = some found) : ∃ entries, node = directory entries := by
  cases node with
  | directory entries => exact ⟨entries, rfl⟩
  | _ => cases there

theorem lookup_filter (keeps : FileName → Bool) (name : FileName) (entries : List (FileName × FileNode)) :
    (entries.filter fun entry => keeps entry.1).lookup name = if keeps name then entries.lookup name else none := by
  induction entries with
  | nil => simp
  | cons entry rest ih =>
    obtain ⟨found, node⟩ := entry
    rw [List.filter_cons]
    by_cases same : name = found
    · subst same
      cases kept : keeps name <;> simp [ih, kept]
    · have differs : (name == found) = false := by simpa using same
      cases kept : keeps found <;> simp [List.lookup_cons, ih, differs]

/-- What has been put at a path is found there, with all that is below it. -/
theorem find?_replaceEntry_below {entries inner : List (FileName × FileNode)} (node : Option FileNode) {front : Path}
    (within : (FileNode.directory entries).find? front = some (.directory inner)) (name : FileName) (back : Path) :
    (FileNode.directory (replaceEntry entries node (front ++ [name]))).find? (front ++ name :: back) =
      node.bind (·.find? back) := by
  induction front generalizing entries with
  | nil =>
    rw [List.nil_append, List.nil_append, FileNode.find?_cons, replaceEntry]
    cases node with
    | none => simp [lookup_filter (· != name) name entries]
    | some node => simp
  | cons first rest ih =>
    rw [FileNode.find?_cons] at within
    cases found : entries.lookup first with
    | none =>
      rw [found] at within
      cases within
    | some next =>
      rw [found] at within
      obtain ⟨lower, rfl⟩ : ∃ lower, next = .directory lower := by
        cases rest with
        | nil => exact ⟨inner, Option.some.inj within⟩
        | cons => exact FileNode.eq_directory_of_find? within
      rw [List.cons_append, List.cons_append, FileNode.find?_cons, replaceEntry, found]
      · simp only [List.lookup_cons, beq_self_eq_true, Option.bind_some]
        exact ih within
      · simp

/-- What a path leads to may change as long as it stays a directory. -/
def SameLeaf (before after : Option FileNode) : Prop :=
  after = before ∨ before.any FileNode.isDirectory ∧ after.any FileNode.isDirectory

/-- What is put at a path does not matter to the paths that do not go through it. -/
theorem sameLeaf_replaceEntry (entries : List (FileName × FileNode)) (node : Option FileNode) {path other : Path}
    (outside : ¬ path <+: other) :
    SameLeaf ((FileNode.directory entries).find? other)
      ((FileNode.directory (replaceEntry entries node path)).find? other) := by
  fun_induction replaceEntry entries node path generalizing other with
  | case1 => exact absurd List.nil_prefix outside
  | case2 entries name =>
    cases other with
    | nil => exact .inr ⟨rfl, rfl⟩
    | cons first rest =>
      have differs : first ≠ name := fun same => outside (by simp [same])
      have same : ((node.map (name, ·)).toList ++ entries.filter fun entry => entry.1 != name).lookup first =
          entries.lookup first := by
        have other : (first == name) = false := by simpa using differs
        cases node <;> simp [List.lookup_cons, lookup_filter (· != name) first entries, differs, other]
      rw [FileNode.find?_cons, FileNode.find?_cons, same]
      exact .inl rfl
  | case3 entries name rest notLast inner found ih =>
    cases other with
    | nil => exact .inr ⟨rfl, rfl⟩
    | cons first more =>
      rw [FileNode.find?_cons, FileNode.find?_cons]
      by_cases same : first = name
      · subst same
        rw [found, List.lookup_cons, beq_self_eq_true]
        exact ih fun inside => outside (List.prefix_cons_inj first |>.mpr inside)
      · simp only [List.lookup_cons, beq_eq_false_iff_ne.mpr same, lookup_filter (· != name) first entries,
          bne_iff_ne, ne_eq, same, not_false_eq_true, if_true]
        exact .inl rfl
  | case4 => exact .inl rfl

theorem SameLeaf.isDirectory {before after : Option FileNode} (same : SameLeaf before after) :
    after.any FileNode.isDirectory = before.any FileNode.isDirectory := by
  rcases same with rfl | ⟨earlier, later⟩
  · rfl
  · rw [earlier, later]

theorem elim_storedRows_of_directory {node : Option FileNode} (directory : node.any FileNode.isDirectory) :
    node.elim [] FileNode.storedRows = [] := by
  cases node with
  | none => rfl
  | some node =>
    cases node with
    | directory entries => rfl
    | _ => cases directory

theorem SameLeaf.storedRows {before after : Option FileNode} (same : SameLeaf before after) :
    after.elim [] FileNode.storedRows = before.elim [] FileNode.storedRows := by
  rcases same with rfl | ⟨earlier, later⟩
  · rfl
  · rw [elim_storedRows_of_directory earlier, elim_storedRows_of_directory later]

namespace FileTree

variable {tree : FileTree} {path other : Path}

/-- A path can have a file: there is a directory for it. -/
structure HoldsPlace (tree : FileTree) (path : Path) : Prop where
  nonempty : path ≠ []
  parent : tree.isDirectory path.dropLast

theorem HoldsPlace.exists_parent (place : tree.HoldsPlace path) :
    ∃ front name entries, path = front ++ [name] ∧ tree.root.find? front = some (.directory entries) := by
  have directory : (tree.root.find? path.dropLast).any FileNode.isDirectory := place.parent
  refine ⟨path.dropLast, path.getLast place.nonempty, ?_⟩
  cases found : tree.root.find? path.dropLast with
  | none =>
    rw [found] at directory
    cases directory
  | some node =>
    rw [found] at directory
    cases node with
    | directory entries => exact ⟨entries, (List.dropLast_concat_getLast _).symm, rfl⟩
    | _ => cases directory

/-- What is no directory lies in one. -/
theorem holdsPlace_of_node? {node : FileNode} (there : tree.node? path = some node) (leaf : node.isDirectory = false) :
    tree.HoldsPlace path := by
  have nonempty : path ≠ [] := by
    rintro rfl
    obtain rfl := Option.some.inj there
    cases leaf
  have split : path.dropLast ++ [path.getLast nonempty] = path := List.dropLast_concat_getLast _
  refine ⟨nonempty, ?_⟩
  rw [node?, ← split, FileNode.find?_append] at there
  obtain ⟨parent, found, below⟩ := Option.bind_eq_some_iff.mp there
  obtain ⟨entries, rfl⟩ := FileNode.eq_directory_of_find? below
  rw [isDirectory, node?, found]
  rfl

theorem sameLeaf_put (node : FileNode) (outside : ¬ path <+: other) :
    SameLeaf (tree.node? other) ((tree.put path node).node? other) :=
  sameLeaf_replaceEntry tree.entries (some node) outside

theorem sameLeaf_remove (outside : ¬ path <+: other) : SameLeaf (tree.node? other) ((tree.remove path).node? other) :=
  sameLeaf_replaceEntry tree.entries none outside

theorem HoldsPlace.node?_put (place : tree.HoldsPlace path) (node : FileNode) (back : Path) :
    (tree.put path node).node? (path ++ back) = node.find? back := by
  obtain ⟨front, name, entries, rfl, found⟩ := place.exists_parent
  rw [List.append_assoc]
  exact find?_replaceEntry_below (some node) found name back

theorem HoldsPlace.storedRows_put (place : tree.HoldsPlace path) (node : FileNode) :
    (tree.put path node).storedRows path = node.storedRows := by
  have found := place.node?_put node []
  rw [List.append_nil] at found
  rw [FileTree.storedRows, found]
  rfl

/-- Something new in which no rows are stored. -/
theorem HoldsPlace.storedRows_put_new (place : tree.HoldsPlace path) (missing : tree.node? path = none)
    {node : FileNode} (noRows : ∀ back, (node.find? back).elim [] FileNode.storedRows = []) (other : Path) :
    (tree.put path node).storedRows other = tree.storedRows other := by
  by_cases inside : path <+: other
  · obtain ⟨back, rfl⟩ := inside
    have nothing : tree.node? (path ++ back) = none := by
      rw [node?, FileNode.find?_append]
      exact (congrArg (Option.bind · _) missing).trans rfl
    rw [FileTree.storedRows, FileTree.storedRows, place.node?_put, noRows, nothing]
    rfl
  · exact (sameLeaf_put node inside).storedRows

/-- Where one can get to from the root of a tree by names. -/
inductive Leads (tree : FileTree) : Place → Prop
  | root : Leads tree []
  | enter {place : Place} {entries : List (FileName × FileNode)} (name : FileName) : Leads tree place →
      tree.nodeAt place = some (.directory entries) → Leads tree ((name, entries.lookup name) :: place)

theorem Leads.nodeAt_eq {place : Place} (leads : tree.Leads place) :
    tree.nodeAt place = tree.node? (placePath place) := by
  induction leads with
  | root => rfl
  | enter name _ directory ih =>
    have parent := ih.symm.trans directory
    rw [node?] at parent
    rw [placePath, List.map_cons, List.reverse_cons, node?, FileNode.find?_append, ← placePath, parent,
      Option.bind_some, FileNode.find?_cons]
    exact (Option.bind_fun_some _).symm

theorem Leads.tail {place : Place} (leads : tree.Leads place) : tree.Leads place.tail := by
  cases leads with
  | root => exact .root
  | enter _ before => exact before

theorem entriesAt_eq_ok {place : Place} {entries : List (FileName × FileNode)}
    (listed : tree.entriesAt place = .ok entries) : tree.nodeAt place = some (.directory entries) := by
  unfold entriesAt at listed
  split at listed
  · next found => rw [found, Except.ok.inj listed]
  · cases listed
  · cases listed

theorem Leads.walk {place : Place} (leads : tree.Leads place) {names : List FileName} {found : Place}
    (walked : tree.walk place names = .ok found) : tree.Leads found := by
  induction names generalizing place with
  | nil => exact Except.ok.inj walked ▸ leads
  | cons name rest ih =>
    rw [FileTree.walk] at walked
    cases listed : tree.entriesAt place with
    | error cause =>
      rw [listed] at walked
      cases walked
    | ok entries =>
      rw [listed] at walked
      dsimp only [bind, Except.bind] at walked
      split at walked
      · exact ih leads walked
      · split at walked
        · exact ih leads.tail walked
        · split at walked
          · cases walked
          · exact ih (.enter name leads (entriesAt_eq_ok listed)) walked

theorem leads_of_walkFrom {cwd : Path} {isAbsolute : Bool} {names : List FileName} {place : Place}
    (walked : tree.walkFrom cwd isAbsolute names = .ok place) : tree.Leads place := by
  unfold walkFrom at walked
  cases isAbsolute with
  | true => exact Leads.root.walk walked
  | false =>
    cases started : tree.walk [] cwd with
    | error cause =>
      rw [started] at walked
      cases walked
    | ok start =>
      rw [started] at walked
      exact (Leads.root.walk started).walk walked

/-- No store has other rows than before. -/
def SameRows (tree later : FileTree) : Prop := ∀ path, later.storedRows path = tree.storedRows path

theorem makeDirectory_eq_ok {cwd : Path} {file : List UInt8} {later : FileTree}
    (made : tree.makeDirectory cwd file = .ok later) :
    ∃ parent entries name, tree.Leads parent ∧ tree.nodeAt parent = some (.directory entries) ∧
      entries.lookup name = none ∧ later = tree.put (placePath parent ++ [name]) (.directory []) := by
  unfold makeDirectory at made
  dsimp only at made
  split at made
  · cases made
  · generalize ((pathNames file).reverse.dropWhile List.isEmpty).reverse = names at made
    cases walked : tree.walkFrom cwd (isAbsolutePath file) names.dropLast with
    | error cause =>
      rw [walked] at made
      cases made
    | ok parent =>
      cases listed : tree.entriesAt parent with
      | error cause =>
        simp only [walked, listed, bind, Except.bind] at made
        cases made
      | ok entries =>
        simp only [walked, listed, bind, Except.bind] at made
        split at made
        · cases made
        · next name last =>
          split at made
          · cases made
          · split at made
            · cases made
            · next free =>
              have missing : entries.lookup name = none := 
                Option.not_isSome_iff_eq_none.mp fun there => free (.inr (.inr there))
              exact ⟨parent, entries, name, leads_of_walkFrom walked, entriesAt_eq_ok listed, missing,
                (Except.ok.inj made).symm⟩

theorem sameRows_of_makeDirectory {cwd : Path} {file : List UInt8} {later : FileTree}
    (made : tree.makeDirectory cwd file = .ok later) : tree.SameRows later := by
  obtain ⟨parent, entries, name, leads, directory, missing, rfl⟩ := makeDirectory_eq_ok made
  have found : tree.node? (placePath parent) = some (.directory entries) := leads.nodeAt_eq.symm.trans directory
  have place : tree.HoldsPlace (placePath parent ++ [name]) := by
    refine ⟨by simp, ?_⟩
    rw [List.dropLast_concat, isDirectory, found]
    rfl
  refine place.storedRows_put_new ?_ fun back => ?_
  · rw [node?] at found ⊢
    rw [FileNode.find?_append, found, Option.bind_some, FileNode.find?_cons, missing]
    rfl
  · cases back <;> rfl

theorem SameRows.trans {later last : FileTree} (first : tree.SameRows later) (second : later.SameRows last) :
    tree.SameRows last :=
  fun path => (second path).trans (first path)

theorem sameRows_ensureDirectory (tree : FileTree) (cwd : Path) (file : List UInt8)
    {makeParents : FileTree → Except FileError Unit × FileTree}
    (keeps : ∀ tree : FileTree, tree.SameRows (makeParents tree).2) :
    tree.SameRows (tree.ensureDirectory cwd file makeParents).2 := by
  have accepted (tree : FileTree) (cause : FileError) : tree.SameRows
      (if tree.isDirectoryAt cwd file then ((.ok () : Except FileError Unit), tree) else (.error cause, tree)).2 := by
    split <;> exact fun _ => rfl
  unfold ensureDirectory
  dsimp only
  split
  · next made => exact sameRows_of_makeDirectory made
  · have parents := keeps tree
    split
    · next failed =>
      rw [failed] at parents
      exact parents
    · next done =>
      rw [done] at parents
      split
      · next made => exact parents.trans (sameRows_of_makeDirectory made)
      · exact parents.trans (accepted _ _)
  · exact accepted _ _

theorem sameRows_ensureParts (cwd : Path) (isAbsolute : Bool) (names : List FileName) (tree : FileTree) :
    tree.SameRows (ensureParts cwd isAbsolute names tree).2 := by
  induction names generalizing tree with
  | nil => exact fun _ => rfl
  | cons last before ih => exact sameRows_ensureDirectory tree cwd _ ih

theorem sameRows_ensureDirectories (tree : FileTree) (cwd : Path) (file : List UInt8) :
    tree.SameRows (tree.ensureDirectories cwd file).2 := by
  unfold ensureDirectories
  split
  · exact fun _ => rfl
  · exact sameRows_ensureDirectory tree cwd file (sameRows_ensureParts cwd _ _)

end FileTree

end InspectionForms
