import InspectionForms.CommandLine.Run
import InspectionForms.Store.Archive
import Std.Time.DateTime.Timestamp

namespace InspectionForms

def FileError.ofSystem : IO.Error → FileError
  | .noFileOrDirectory _ _ _ => notFound
  | .alreadyExists _ _ _ => alreadyExists
  | .inappropriateType _ code _ => if code = 21 then isDirectory else notDirectory
  | error => other (toString error)

def readBytes (path : String) : IO (Except FileError ByteArray) := do
  try return .ok (← IO.FS.readBinFile path)
  catch error => return .error (.ofSystem error)

def readDisk (path : String) : IO (Except FileError String) := do
  match ← readBytes path with
  | .error error => return .error error
  | .ok bytes => return (String.fromUTF8? bytes).elim (.error .notText) .ok

/-- The contents of the files that a command names. -/
def diskReader (paths : List String) : IO FileReader := do
  let contents ← paths.mapM fun path => return (path, ← readDisk path)
  return fun path => (contents.lookup path).getD (.error .notFound)

/-- A store on a disk is kept as an archive, which is opened alone, without companions. -/
def openDisk (clock : Int) (directory : String) : IO (Except StoreError (StoreContent × Option String)) := do
  try
    unless directory.isEmpty do IO.FS.createDirAll directory
  catch error => return .error (.file (.ofSystem error))
  let name := storeName directory
  match StoreAddress.ofText name with
  | .error error => return .error (.address error)
  | .ok address =>
    let path := [utf8 databaseName]
    let file := textOfBytes address.file
    if address.isTransient || address.layer == .memory then
      return ((FileTree.openInMemory address name).run .empty).1.map fun opened => (opened.content, none)
    let tree : FileTree ← match ← readBytes file with
      | .error .notFound => pure (FileTree.empty.touch path address.access)
      | .error .isDirectory => pure (FileTree.empty.put path (.directory []))
      | .error _ => pure .empty
      | .ok bytes =>
        match (String.fromUTF8? bytes).bind StoreContent.ofArchive? with
        | some content => pure (FileTree.empty.put path (.database content false))
        | none => pure (FileTree.empty.put path (.file bytes.toList))
    let result := ((StoreFile.openFile ⟨address, [], path, clock⟩ name).run tree).1
    return result.map fun opened => (opened.content, some file)

/-- The directories from the root down to the working directory that are marked as checkouts. -/
def diskCheckouts (cwd : Path) : IO (List Path) := do
  let start ← IO.currentDir
  ((List.range (cwd.length + 1)).map cwd.take).filterM fun path =>
    (start / pathText (path ++ [utf8 ".git"])).pathExists

def diskStorageDirectory (config : Config) : IO String := do
  match config.storageDir with
  | some directory => return directory
  | none =>
    let cwd := pathParts (utf8 (← IO.currentDir).toString)
    let checkouts ← diskCheckouts cwd
    return pathText (defaultStorageDirectory checkouts.contains cwd)

def report (outcome : Outcome) : IO UInt32 := do
  IO.print outcome.stdout
  IO.eprint outcome.stderr
  return outcome.exitCode.toUInt32

def executeOnDisk (config : Config) : IO UInt32 := do
  let clock := (← Std.Time.Timestamp.now).toMillisecondsSinceUnixEpoch.toInt
  match config.command.plan (← diskReader config.command.inputPaths) with
  | .error error => report (.failure "" error)
  | .ok ⟨output, none⟩ => report (.success output)
  | .ok ⟨output, some task⟩ =>
    let directory ← diskStorageDirectory config
    match ← openDisk clock directory with
    | .error error => report (.failure output (.store error))
    | .ok (content, home) =>
      let (result, content) := task.run (config.nowMs.getD clock) content
      if let some file := home then IO.FS.writeFile file content.archive
      report (.ofTask output result)

end InspectionForms

open InspectionForms in
def main (arguments : List String) : IO UInt32 := do
  let names := ["INSP_STORAGE_DIR", "INSP_SCHEMA", "INSP_LOG"]
  let values ← names.mapM fun name => return (name, ← IO.getEnv name)
  match readCommandLine (trimmedEnvironment fun name => (values.lookup name).join) arguments with
  | .error outcome => report outcome
  | .ok config => executeOnDisk config
