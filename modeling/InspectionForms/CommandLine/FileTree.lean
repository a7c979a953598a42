import InspectionForms.FileError
import InspectionForms.Store.Content
import InspectionForms.Text.Split
import InspectionForms.Text.Utf8

namespace InspectionForms

/-- Any bytes without a slash. -/
abbrev FileName := List UInt8

abbrev Path := List FileName

/-- What a name stands for. A database keeps its changes in a log once it has been opened with one. -/
inductive FileNode
  | directory (entries : List (FileName × FileNode))
  | file (bytes : List UInt8)
  | database (content : StoreContent) (hasLog : Bool)

/-- The entries of the root, which is always a directory. -/
structure FileTree where
  entries : List (FileName × FileNode)

def slash : UInt8 := 0x2F

def currentName : FileName := utf8 "."

def parentName : FileName := utf8 ".."

/-- The names in a path. Doubled slashes and a slash at the end leave empty names. -/
def pathNames (path : List UInt8) : List FileName := pieces slash path

def isAbsolutePath (path : List UInt8) : Bool := path.head? == some slash

/-- The names without those that lead nowhere: empty ones, and dots unless in front. -/
def pathParts (path : List UInt8) : List FileName :=
  let isStep (name : FileName) : Bool := !name.isEmpty && name != currentName
  match pathNames path with
  | [] => []
  | name :: rest => if name = currentName then name :: rest.filter isStep else (name :: rest).filter isStep

/-- A name has at most 255 bytes. -/
def isLongName (name : FileName) : Bool := 255 < name.length

/-- A path has less than 4096 bytes. -/
def isLongPath (path : List UInt8) : Bool := 4096 ≤ path.length

def joinNames (isAbsolute : Bool) (names : List FileName) : List UInt8 :=
  (if isAbsolute then [slash] else []) ++ [slash].intercalate names

def pathText (path : Path) : String := textOfBytes (joinNames true path)

/-- Where names have led to, with what is there: the last name first, and nothing at the root. -/
abbrev Place := List (FileName × Option FileNode)

def placePath (place : Place) : Path := (place.map Prod.fst).reverse

def FileNode.find? (node : FileNode) : Path → Option FileNode
  | [] => some node
  | name :: rest =>
    match node with
    | .directory entries =>
      match entries.lookup name with
      | some node => node.find? rest
      | none => none
    | _ => none

def FileNode.isDirectory : FileNode → Bool
  | .directory _ => true
  | _ => false

/-- Takes away what is at a path in entries, and puts another node there if one is given. The directories on the
way must be there. -/
def replaceEntry (entries : List (FileName × FileNode)) (node : Option FileNode) :
    Path → List (FileName × FileNode)
  | [] => entries
  | [name] => (node.map (name, ·)).toList ++ entries.filter fun entry => entry.1 != name
  | name :: rest =>
    match entries.lookup name with
    | some (.directory inner) =>
      (name, .directory (replaceEntry inner node rest)) :: entries.filter fun entry => entry.1 != name
    | _ => entries

namespace FileTree

def empty : FileTree := ⟨[]⟩

def root (tree : FileTree) : FileNode := .directory tree.entries

def node? (tree : FileTree) (path : Path) : Option FileNode := tree.root.find? path

def contains (tree : FileTree) (path : Path) : Bool := (tree.node? path).isSome

def isDirectory (tree : FileTree) (path : Path) : Bool := (tree.node? path).any FileNode.isDirectory

def put (tree : FileTree) (path : Path) (node : FileNode) : FileTree := ⟨replaceEntry tree.entries node path⟩

def remove (tree : FileTree) (path : Path) : FileTree := ⟨replaceEntry tree.entries none path⟩

def nodeAt (tree : FileTree) (place : Place) : Option FileNode :=
  match place with
  | [] => some tree.root
  | (_, node) :: _ => node

def entriesAt (tree : FileTree) (place : Place) : Except FileError (List (FileName × FileNode)) :=
  match tree.nodeAt place with
  | some (.directory entries) => .ok entries
  | some _ => .error .notDirectory
  | none => .error .notFound

/-- Follows names from a place. An empty name and a dot stay, two dots go up. -/
def walk (tree : FileTree) (place : Place) : List FileName → Except FileError Place
  | [] => .ok place
  | name :: rest => do
    let entries ← tree.entriesAt place
    if name = [] ∨ name = currentName then tree.walk place rest
    else if name = parentName then tree.walk place.tail rest
    else if isLongName name then throw .nameTooLong
    else tree.walk ((name, entries.lookup name) :: place) rest

/-- Follows names from the root if the path is absolute, else from a working directory. -/
def walkFrom (tree : FileTree) (cwd : Path) (isAbsolute : Bool) (names : List FileName) :
    Except FileError Place := do
  let start ← if isAbsolute then pure [] else tree.walk [] cwd
  tree.walk start names

def resolve (tree : FileTree) (cwd : Path) (path : List UInt8) : Except FileError Place :=
  if path.isEmpty then .error .notFound
  else if isLongPath path then .error .nameTooLong
  else tree.walkFrom cwd (isAbsolutePath path) (pathNames path)

def resolveNode (tree : FileTree) (cwd : Path) (path : List UInt8) : Option FileNode :=
  match tree.resolve cwd path with
  | .ok place => tree.nodeAt place
  | .error _ => none

def isDirectoryAt (tree : FileTree) (cwd : Path) (path : List UInt8) : Bool :=
  (tree.resolveNode cwd path).any FileNode.isDirectory

def readText (tree : FileTree) (cwd : Path) (path : String) : Except FileError String := do
  match tree.nodeAt (← tree.resolve cwd (utf8 path)) with
  | none => throw .notFound
  | some (.directory _) => throw .isDirectory
  | some (.database _ _) => throw .notText
  | some (.file bytes) =>
    match String.fromUTF8? ⟨bytes.toArray⟩ with
    | some content => return content
    | none => throw .notText

def makeDirectory (tree : FileTree) (cwd : Path) (path : List UInt8) : Except FileError FileTree := do
  if isLongPath path then throw .nameTooLong
  let names := ((pathNames path).reverse.dropWhile List.isEmpty).reverse
  let parent ← tree.walkFrom cwd (isAbsolutePath path) names.dropLast
  let entries ← tree.entriesAt parent
  match names.getLast? with
  | none => throw .alreadyExists
  | some name =>
    if isLongName name then throw .nameTooLong
    if name = currentName ∨ name = parentName ∨ (entries.lookup name).isSome then throw .alreadyExists
    return tree.put (placePath parent ++ [name]) (.directory [])

/-- Makes one directory unless it is there, and before that its parents if something on the way to it is
missing. What has been made stays, also if the rest fails. -/
def ensureDirectory (tree : FileTree) (cwd : Path) (path : List UInt8)
    (makeParents : FileTree → Except FileError Unit × FileTree) : Except FileError Unit × FileTree :=
  let accept (tree : FileTree) (error : FileError) : Except FileError Unit × FileTree :=
    if tree.isDirectoryAt cwd path then (.ok (), tree) else (.error error, tree)
  match tree.makeDirectory cwd path with
  | .ok tree => (.ok (), tree)
  | .error .notFound =>
    match makeParents tree with
    | (.error error, tree) => (.error error, tree)
    | (.ok (), tree) =>
      match tree.makeDirectory cwd path with
      | .ok tree => (.ok (), tree)
      | .error error => accept tree error
  | .error error => accept tree error

/-- Makes a directory and its parents, the names given from the last to the first. -/
def ensureParts (cwd : Path) (isAbsolute : Bool) : List FileName → FileTree → Except FileError Unit × FileTree
  | [], tree => (.ok (), tree)
  | last :: before, tree =>
    tree.ensureDirectory cwd (joinNames isAbsolute (last :: before).reverse) (ensureParts cwd isAbsolute before)

/-- Makes a directory and all of its parents that are missing. The empty path is the working directory. -/
def ensureDirectories (tree : FileTree) (cwd : Path) (path : List UInt8) : Except FileError Unit × FileTree :=
  if path.isEmpty then (.ok (), tree)
  else tree.ensureDirectory cwd path
    (ensureParts cwd (isAbsolutePath path) (pathParts path).dropLast.reverse)

end FileTree

end InspectionForms
