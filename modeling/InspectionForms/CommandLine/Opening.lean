import InspectionForms.CommandLine.Companion
import InspectionForms.Database.Journal
import InspectionForms.Store.Content

namespace InspectionForms

/-- A store is opened in steps. What a step has done to the files stays if a later one fails. -/
abbrev Opening := ExceptT StoreError (StateM FileTree)

/-- Where a store in use is kept, with a log or without, and what goes away when it is closed. -/
structure StoreHome where
  path : Path
  hasLog : Bool
  leftovers : List Path

/-- A store in use. One without a home is forgotten. -/
structure OpenedStore where
  content : StoreContent
  home : Option StoreHome

/-- The file that an address has led to, seen from a working directory, and the time at which it is opened. -/
structure StoreFile where
  address : StoreAddress
  cwd : Path
  path : Path
  clock : Int

namespace StoreFile

def companionPath (file : StoreFile) (companion : Companion) : Path := companion.path file.path

/-- A companion of which there is more than an empty file. -/
def companion? (file : StoreFile) (tree : FileTree) (companion : Companion) : Option FileNode :=
  (tree.node? (file.companionPath companion)).filter fun node => !node.isEmptyFile

def lacksNameFor (file : StoreFile) (companion : Companion) : Bool :=
  isLongName (companion.name (file.path.getLastD []))

def isForReading (file : StoreFile) : Bool := file.address.access == .read

/-- Takes the lock that is a file. It is given back when the store is closed. -/
def acquire (file : StoreFile) : Opening Unit := do
  if file.address.layer = .lockFile ∧ ¬file.address.isUnlocked then
    if (← get).contains (file.companionPath .lock) then throw .locked
    if file.lacksNameFor .lock then throw .unreadable

/-- Someone else may be changing the store, as the lock is a file that has not been taken. -/
def isReserved (file : StoreFile) (tree : FileTree) : Bool :=
  file.address.layer == .lockFile && file.address.isUnlocked && tree.contains (file.companionPath .lock)

/-- Removes a list of journals once no journal of it names it any more. -/
def dropList (file : StoreFile) (name : List UInt8) : Opening Unit := do
  let tree ← get
  match tree.resolve file.cwd name with
  | .error _ => return
  | .ok place =>
    if (tree.nodeAt place).any FileNode.isDirectory then throw .unreadable
    for journal in pieces 0 ((tree.nodeAt place).elim [] FileNode.bytes) do
      match (tree.resolveNode file.cwd journal).filter fun node => !node.isEmptyFile with
      | none => pure ()
      | some node =>
        if node.isDirectory then throw .unreadable
        if Journal.listName? node.bytes = some name then return
    modify (·.remove (placePath place))

/-- Takes back the change of a journal in some bytes, which those of the file are. If the journal is on a list that
is gone, the change was finished. -/
def takeBack (file : StoreFile) (journal bytes : List UInt8) : Opening (List UInt8) := do
  let tree ← get
  let list? := Journal.listName? journal
  let isFinished := list?.any fun name =>
    ((tree.resolveNode file.cwd name).filter fun node => !node.isEmptyFile).isNone
  let restored := if isFinished then bytes
    else Journal.takeBack journal bytes file.address.sectorSize (Image.presumedPageSize bytes)
  if restored != bytes then modify (·.put file.path (.file restored))
  modify (·.remove (file.companionPath .journal))
  if let some name := list? then
    if !isFinished then file.dropList name
  return restored

/-- Takes back a change that was not finished, and removes its journal. A fresh store has none, and what stands in
its place is removed if that needs no lock or the lock can be had. The bytes of the file come back even if it has
been removed as a list of journals. -/
def recoverJournal (file : StoreFile) (bytes : List UInt8) : Opening (List UInt8) := do
  let tree ← get
  if file.isReserved tree then return bytes
  match file.companion? tree .journal with
  | none => return bytes
  | some node =>
    if Image.isFresh bytes then
      unless node.isDirectory || (file.isForReading && file.address.usesLog) do
        modify (·.remove (file.companionPath .journal))
      return bytes
    else if node.isDirectory then throw .unreadable
    else if node.isOpenJournal then
      if file.isForReading then throw .readOnly
      file.takeBack node.bytes bytes
    else return bytes

/-- The index cannot be written: by choice, or because a directory stands in its place. -/
def hasFixedIndex (file : StoreFile) (tree : FileTree) : Bool :=
  file.address.sharesIndex &&
    (file.address.hasFixedIndex || (tree.node? (file.companionPath .index)).any FileNode.isDirectory)

/-- Opens the log with its index, which is empty as long as the log has not been read. A log that others have
changed needs an index that can be written. Companions take their permissions from the file, which must be
there. -/
def openLog (file : StoreFile) : Opening Log := do
  unless file.address.usesLog do throw .cannotOpenCompanion
  unless (← get).contains file.path do throw .unreadable
  let bytes ← match (← get).node? (file.companionPath .log) with
    | some (.directory _) => throw .cannotOpenCompanion
    | some node => pure node.bytes
    | none =>
      modify (·.put (file.companionPath .log) (.file []))
      pure []
  let tree ← get
  if file.hasFixedIndex tree && !tree.contains (file.companionPath .index) then throw .cannotOpenCompanion
  let setIndex (header : List UInt8) : Opening Unit := do
    if file.address.sharesIndex && !file.hasFixedIndex tree then
      modify (·.put (file.companionPath .index) (.file (header.rightpad indexSize 0)))
  match Log.ofBytes? bytes with
  | none =>
    setIndex []
    throw .cannotOpenCompanion
  | some log =>
    if file.hasFixedIndex tree && Log.hasForeignSalt bytes then throw .logChanged
    setIndex indexHeader
    return log

/-- Opens the log if there is one. A fresh store has none, and what stands in its place is removed. -/
def recoverLog? (file : StoreFile) (isFresh : Bool) : Opening (Option Log) := do
  match file.companion? (← get) .log with
  | none => return none
  | some node =>
    if isFresh then
      if node.isDirectory then throw .unreadable
      modify (·.remove (file.companionPath .log))
      return none
    else return some (← file.openLog)

/-- What is left of an open log once its changes are in the file. -/
def leftovers (file : StoreFile) : List Path :=
  file.companionPath .log :: if file.address.sharesIndex then [file.companionPath .index] else []

/-- Writes the changes of an open log into the file, and removes the log. It stays if its pages have another size
than those of the file. -/
def closeLog (file : StoreFile) (log : Log) (pageSize : Nat) : Opening Unit := do
  let tree ← get
  unless file.isForReading || file.hasFixedIndex tree || (log.pageCount != 0 && log.pageSize != pageSize) do
    match tree.node? file.path with
    | some (.file bytes) =>
      match log.writeBack? bytes with
      | some bytes => set (file.leftovers.foldl FileTree.remove (tree.put file.path (.file bytes)))
      | none => return
    | _ => set (file.leftovers.foldl FileTree.remove tree)

def giveUp {α : Type} (file : StoreFile) (log? : Option Log) (pageSize : Nat) (error : StoreError) :
    Opening α := do
  if let some log := log? then file.closeLog log pageSize
  throw error

/-- A change of the file itself needs a journal, which is gone after it. A file that has been removed is not
changed. -/
def passJournal (file : StoreFile) (isFresh : Bool) : Opening Unit := do
  unless (← get).contains file.path do throw (if isFresh then .unreadable else .readOnly)
  if file.lacksNameFor .journal then throw .cannotOpenCompanion
  if ((← get).node? (file.companionPath .journal)).any FileNode.isDirectory then throw .cannotOpenCompanion
  modify (·.remove (file.companionPath .journal))

/-- Makes a store ready for changes, with a log from now on if it uses one. `logged` is what the file holds after
this has been written down. -/
def prepare (file : StoreFile) (log? : Option Log) (isFresh : Bool) (logged : FileNode) :
    Opening (Option Log) := do
  if file.isForReading then throw .readOnly
  let log? ← match log? with
    | some log => pure (some log)
    | none =>
      file.passJournal isFresh
      if file.address.usesLog then
        modify (·.put file.path logged)
        pure (some (← file.openLog))
      else pure none
  if log?.isSome && file.hasFixedIndex (← get) then throw .readOnly
  return log?

def opened (file : StoreFile) (content : StoreContent) (hasLog : Bool) : OpenedStore :=
  ⟨content, some ⟨file.path, hasLog, if file.address.usesLog then file.leftovers else []⟩⟩

/-- Makes a fresh store in a file that has been taken back to nothing, or was made just now. The pages keep what
the former header has reserved in them. If too little is left of a page, this shows only after the first page has
been written. -/
def openFresh (file : StoreFile) (former : List UInt8) : Opening OpenedStore := do
  let pageSize := Image.presumedPageSize former
  let reserve := Image.presumedReserve former
  if 480 ≤ pageSize - reserve then
    let log? ← file.prepare none true (.database .empty true)
    return file.opened .empty log?.isSome
  else
    if file.isForReading then throw .readOnly
    file.passJournal true
    modify (·.put file.path (.file (Image.firstPage pageSize reserve file.address.usesLog)))
    if file.address.usesLog then file.closeLog (← file.openLog) pageSize
    throw .notADatabase

def openDatabase (file : StoreFile) (content : StoreContent) (hasLog : Bool) : Opening OpenedStore := do
  if file.address.isImmutable then throw .readOnly
  file.acquire
  discard <| file.recoverJournal (Image.firstBytes hasLog)
  let log? ← file.recoverLog? false
  let log? ← if hasLog && log?.isNone then some <$> file.openLog else pure log?
  let isLogged ← file.prepare log? false (.database content true)
  match content.reopen file.clock with
  | .ok content => return file.opened content (hasLog || (log?.isNone && isLogged.isSome))
  | .error error => throw error

def loggedBytes (paged : PagedImage) : List UInt8 :=
  let file := paged.image.file
  let count := wordBytes (wordAt file 24 + 1)
  overwrite (overwrite (overwrite (overwrite file 18 [2, 2]) 24 count) 28 (wordBytes paged.pageCount)) 92
    (count ++ wordBytes Image.writerVersion)

def openPaged (file : StoreFile) (log? : Option Log) (paged : PagedImage) : Opening OpenedStore := do
  match paged.store with
  | .error error => file.giveUp log? paged.pageSize error.storeError
  | .ok store =>
    if paged.image.forbidsChanges then file.giveUp log? paged.pageSize .readOnly
    let fits := log?.all fun log => log.pageCount == 0 || log.pageSize == paged.pageSize
    let result : Except StoreError ForeignStore :=
      if fits && paged.takesChanges store then (store.opened file.clock).mapError .relation else .error .malformed
    match result with
    | .error error =>
      let isLogged ← file.prepare log? false (.file (loggedBytes paged))
      file.giveUp isLogged paged.pageSize error
    | .ok store =>
      let isLogged ← file.prepare log? false (.database (.foreign store) true)
      return file.opened (.foreign store)
        ((byteAt paged.image.header 19 == 2) || (log?.isNone && isLogged.isSome))

/-- Opens a file of any bytes. One without a second byte is a fresh store. -/
def openBytes (file : StoreFile) (bytes : List UInt8) : Opening OpenedStore := do
  if file.address.isImmutable then
    if Image.isFresh bytes then throw .readOnly
    match (Image.mk bytes .empty).paged (Image.presumedPageSize bytes) with
    | .error (error, _) => throw error.storeError
    | .ok paged => throw (match paged.store with
      | .error error => error.storeError
      | .ok _ => .readOnly)
  file.acquire
  let current ← file.recoverJournal bytes
  let log? ← file.recoverLog? (Image.isFresh current)
  if Image.isFresh current then file.openFresh bytes
  else
    let log? ← if log?.isNone && (Image.mk current .empty).needsLog then some <$> file.openLog else pure log?
    match (Image.mk current (log?.getD .empty)).paged (Image.presumedPageSize bytes) with
    | .error (error, pageSize) => file.giveUp log? pageSize error.storeError
    | .ok paged => file.openPaged log? paged

/-- Opens what is at the place of a store, `name` being shown if there is nothing to open. -/
def openFile (file : StoreFile) (name : String) : Opening OpenedStore := do
  match (← get).node? file.path with
  | none => throw (.cannotOpen name)
  | some (.directory _) => throw (if file.isForReading then .unreadable else .cannotOpen name)
  | some (.file bytes) => file.openBytes bytes
  | some (.database content hasLog) => file.openDatabase content hasLog

end StoreFile

end InspectionForms
