import InspectionForms.CommandLine.Opening

namespace InspectionForms

def databaseName : String := "inspection.db"

/-- The name of the store of a directory. A slash is put between them unless the directory ends in one or is the
working directory. -/
def storeName (directory : String) : String :=
  if directory = "" ∨ directory.toList.getLast? = some '/' then directory ++ databaseName
  else directory ++ "/" ++ databaseName

def pathSize (path : Path) : Nat := (path.map fun name => name.length + 1).foldl (· + ·) 0

mutual

/-- The directories in a node that have a file for a store, as paths from the node. -/
def FileNode.storeDirectories : FileNode → List Path
  | .directory entries =>
    (if (entries.lookup (utf8 databaseName)).any fun node => !node.isDirectory then [[]] else []) ++
      storeDirectoriesIn entries
  | _ => []

def storeDirectoriesIn : List (FileName × FileNode) → List Path
  | [] => []
  | (name, node) :: rest => node.storeDirectories.map (name :: ·) ++ storeDirectoriesIn rest

end

namespace FileTree

/-- Whether a path could be that of a file: nothing on the way to it is a file or has a long name. -/
def allowsPath (tree : FileTree) (path : Path) : Bool :=
  match tree.walk [] path with
  | .ok _ | .error .notFound => true
  | .error _ => false

/-- The full path of the file of a store. Two dots take back the name before them, which need not be there. -/
def fullPath? (tree : FileTree) (cwd : Path) (file : List UInt8) : Option Path := do
  let path ← (pathNames file).foldlM (fun path name =>
    if name = [] ∨ name = currentName then some path
    else if name = parentName then some path.dropLast
    else if tree.allowsPath (path ++ [name]) ∧ pathSize (path ++ [name]) < 512 then some (path ++ [name])
    else none) (if isAbsolutePath file then [] else cwd)
  if path.isEmpty ∨ 504 < pathSize path then none else some path

/-- Makes a file that is missing, if that is allowed. -/
def touch (tree : FileTree) (path : Path) (access : Access) : FileTree :=
  if access = .create ∧ ¬tree.contains path ∧ tree.isDirectory path.dropLast then tree.put path (.file [])
  else tree

/-- Opens a store that has no file. The name of one that could have a file has at most 1016 bytes. -/
def openInMemory (address : StoreAddress) (name : String) : Opening OpenedStore := do
  if ¬address.isTransient ∧ 1016 < address.file.length then throw (.cannotOpen name)
  if address.isReadOnly then throw .readOnly
  return ⟨.empty, none⟩

def openNamed (cwd : Path) (clock : Int) (name : String) : Opening OpenedStore := do
  let address ← MonadExcept.ofExcept ((StoreAddress.ofText name).mapError .address)
  if address.isTransient ∨ address.layer = .memory then openInMemory address name
  else
    let tree ← get
    match tree.fullPath? cwd address.file with
    | none => throw (.cannotOpen name)
    | some path =>
      if address.modelFile.any fun model => (tree.resolveNode cwd model).isNone then throw .unreadable
      set (tree.touch path address.access)
      StoreFile.openFile ⟨address, cwd, path, clock⟩ name

def openStore (cwd : Path) (clock : Int) (directory : String) : Opening OpenedStore := do
  let (made, tree) := (← get).ensureDirectories cwd (utf8 directory)
  set tree
  MonadExcept.ofExcept (made.mapError .file)
  openNamed cwd clock (storeName directory)

/-- Keeps what a store has become since it was opened, and closes it. -/
def keep (tree : FileTree) (opened : OpenedStore) (content : StoreContent) : FileTree :=
  match opened.home with
  | none => tree
  | some home => home.leftovers.foldl remove (tree.put home.path (.database content home.hasLog))

/-- The directories below a path that have a file for a store, as paths from there. -/
def storeDirectories (tree : FileTree) (root : Path) : List Path :=
  ((tree.node? root).map FileNode.storeDirectories).getD []

end FileTree

end InspectionForms
