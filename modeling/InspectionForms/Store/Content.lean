import InspectionForms.Store.Foreign

namespace InspectionForms

/-- What the file of a store holds: tables of our own, or those that another program has made. -/
inductive StoreContent
  | own (store : Store)
  | foreign (store : ForeignStore)

namespace StoreContent

def empty : StoreContent := own .empty

def reopen (clock : Int) : StoreContent → Except StoreError StoreContent
  | own store => .ok (own store.reopen)
  | foreign store => ((store.opened clock).map foreign).mapError .relation

def insert (content : StoreContent) (record : SubmissionRecord) :
    Except StoreError SubmissionRow × StoreContent :=
  match content with
  | own store => (store.insert record).map id own
  | foreign store => (store.insert record).map id foreign

def add (content : StoreContent) (record : SubmissionRecord) : Except StoreError Int × StoreContent :=
  match content with
  | own store => (store.add record).map id own
  | foreign store => (store.add record).map id foreign

def list (content : StoreContent) (status : Option Status) (limit : Nat) : Except StoreError (List SubmissionRow) :=
  match content with
  | own store => store.list status limit 0
  | foreign store => store.list status limit

def setStatus (content : StoreContent) (id : Int) (status : Status) (updatedAt : Int) :
    Except StoreError SubmissionRow × StoreContent :=
  match content with
  | own store => (store.setStatus id status updatedAt).map (fun row => row) own
  | foreign store => (store.setStatus id status updatedAt).map (fun row => row) foreign

end StoreContent

def ImageError.storeError : ImageError → StoreError
  | notADatabase => .notADatabase
  | malformed => .malformed
  | malformedEntry name cause => .malformedEntry name cause
  | unknownFormat => .unknownFormat

namespace PagedImage

def partsFor (parts : List CatalogPart) (kind : CatalogKind) (tableName : String) : List CatalogPart :=
  parts.filter fun part => part.entry.kind == kind && isSameName part.entry.tableName tableName

def triggersFor (parts : List CatalogPart) (tableName : String) : List Trigger :=
  (partsFor parts .trigger tableName).filterMap fun part => Trigger.ofText? part.entry.name part.entry.statement

/-- A table, a view, or a table of a module, of which nothing but its statement and its triggers is known. -/
def relationOf? (parts : List CatalogPart) (part : CatalogPart) : Option Relation :=
  let indexes := (partsFor parts .index part.entry.name).map fun part => (part.entry.name, part.entry.statement)
  let relation? : Option Relation := match part.statement with
    | some (.table _) =>
      (part.definition?.toOption.join).map fun definition => .ofDefinition (definition.withIndexes indexes)
    | some (.view statement) => some (.ofView part.entry.statement statement)
    | some (.module statement) => some (.ofModule part.entry.statement statement)
    | _ => none
  relation?.map fun relation => { relation with triggers := triggersFor parts part.entry.name }

def moduleRows (paged : PagedImage) (parts : List CatalogPart) (relation : Relation) : List TableRow :=
  let width := relation.definition.columns.length
  match parts.find? fun part => part.entry.hasName (relation.definition.name ++ "_content") with
  | some part =>
    let rows := (paged.table part.entry.root).toOption.getD []
    rows.map fun row => ⟨row.id, ((row.cells.drop 1) ++ List.replicate width .null).take width⟩
  | none => []

/-- A table of numbers that are written down holds numbers, or what is read as such. -/
def plainSequences (paged : PagedImage) (rows : List TableRow) : List TableRow :=
  rows.map fun row => { row with cells := row.cells.map fun cell => match cell with
    | .blob bytes => .integer (Cell.text (paged.textEncoding.utf8Bytes bytes)).leadingInteger
    | cell => cell }

def damagedIndexes (paged : PagedImage) (entries : List CatalogEntry) (tableName : String) : List CatalogEntry :=
  entries.filter fun entry =>
    entry.kind == .index && lowerAscii entry.tableName == tableName && !(paged.index entry.root).isOk

/-- What is known of a part as a table. The rows of tables that are not needed may be damaged. -/
def readPart? (paged : PagedImage) (parts : List CatalogPart) (part : CatalogPart) :
    Except ImageError (Option Relation) := do
  let some relation := relationOf? parts part | return none
  let isSequence := part.entry.hasName Tables.sequenceName
  let isNeeded := isSequence || part.entry.hasName ForeignStore.tableName ||
    part.entry.hasName ForeignStore.versionTableName
  if relation.view.isSome then return some relation
  if relation.module.isSome then return some { relation with rows := paged.moduleRows parts relation }
  match relation.definition.readRows paged part.entry.root with
  | .ok rows => return some { relation with rows := if isSequence then paged.plainSequences rows else rows }
  | .error error => if isNeeded then throw error else return some relation

def store (paged : PagedImage) : Except ImageError ForeignStore := do
  let entries ← paged.catalog
  let parts ← CatalogPart.ofEntries entries
  let relations ← parts.filterMapM (paged.readPart? parts)
  return {
    tables := { Tables.empty with catalog := entries, relations }
    damaged := (paged.damagedIndexes entries ForeignStore.tableName).map CatalogEntry.name }

/-- The pages that opening a store writes can be written: those of the table with the version, and those that make
what is missing. -/
def takesChanges (paged : PagedImage) (store : ForeignStore) : Bool :=
  let names := [ForeignStore.versionTableName, ForeignStore.tableName] ++ ForeignStore.indexes.map Prod.fst
  let isComplete := names.all fun name => (store.kind? name).isSome
  let hasVersions := match paged.catalog with
    | .error _ => false
    | .ok entries => (paged.damagedIndexes entries ForeignStore.versionTableName).isEmpty &&
      (entries.filter fun entry => entry.kind == .table && entry.hasName ForeignStore.versionTableName).all
        fun entry => (paged.table entry.root).isOk || (paged.index entry.root).isOk
  hasVersions && (isComplete || (paged.hasSoundRoom && paged.hasSoundFreeList))

end PagedImage

end InspectionForms
