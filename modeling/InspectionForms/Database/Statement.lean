import InspectionForms.Database.Expression

namespace InspectionForms

/-- What happens to a row that breaks a rule: it is refused, perhaps without undoing what has been done before, left
out, or takes the place of others. -/
inductive Remedy
  | refuse
  | stop
  | leaveOut
  | replace
  deriving DecidableEq, Repr

/-- What happens to the rows that refer to one that goes away: nothing, it has to stay, they get other values, or they
follow it. -/
inductive ReferenceAction
  | keep
  | forbid
  | forget
  | reset
  | follow
  deriving DecidableEq, Repr

/-- Some columns of a table have the values of a row of another table, in its primary key if no columns are named. -/
structure Reference where
  columns : List String
  parent : String
  parentColumns : List String
  onDeletion : ReferenceAction
  onChange : ReferenceAction
  deriving DecidableEq, Repr

abbrev KeyColumn := String × Option String

/-- What is said about a column or a table. Keys of a column have no columns of their own. -/
inductive TableClause
  | primaryKey (columns : List KeyColumn) (isFalling counts : Bool) (remedy : Remedy)
  | unique (columns : List KeyColumn) (remedy : Remedy)
  | required (remedy : Remedy)
  | usual (value : Expression)
  | collation (name : String)
  | condition (text : String) (value : Expression)
  | computed (value : Expression) (isStored : Bool)
  | reference (reference : Reference)

/-- A column in a statement, with the name of its type in lower case. -/
structure ColumnStatement where
  name : String
  typeName : String
  clauses : List TableClause

/-- Makes a table. Words behind its columns say how rows are kept. -/
structure TableStatement where
  name : String
  columns : List ColumnStatement
  clauses : List TableClause
  options : List String

/-- Makes an index of a table. Only rows that meet the condition are in it. -/
structure IndexStatement where
  name : String
  table : String
  isUnique : Bool
  parts : List Expression
  condition : Option Expression

/-- Makes a view, whose columns may have names of their own. -/
structure ViewStatement where
  name : String
  columns : Option (List String)
  query : Query

/-- Makes a table that a module keeps. What is said about it is for the module. -/
structure ModuleStatement where
  name : String
  module : String
  arguments : List String

/-- What a trigger waits for. A change may have to be one of some columns. -/
inductive TriggerEvent
  | insertion
  | deletion
  | change (columns : Option (List String))
  deriving DecidableEq, Repr

/-- When a trigger acts: before a change, after it, or instead of it. -/
inductive TriggerTime
  | before
  | after
  | instead
  deriving DecidableEq, Repr

/-- Columns that get values together, from as many values or from a row. -/
structure Assignment where
  columns : List String
  value : Expression

/-- What a new row does that shares a key with another one: nothing, or it gives that row new values. The key is the
one with some columns, if any are named, which may only count for rows that meet a condition. -/
structure Upsert where
  columns : List Expression
  keyCondition : Option Expression
  assignments : Option (List Assignment)
  condition : Option Expression

/-- A step of a trigger, which may only be for some rows. New rows are what a query finds, for all columns of a table
unless some are named. -/
inductive TriggerStep
  | look (query : Query)
  | insert (table : String) (columns : Option (List String)) (query : Query) (remedy : Option Remedy)
      (upserts : List Upsert)
  | update (table : String) (assignments : List Assignment) (source : Source) (condition : Option Expression)
      (remedy : Option Remedy)
  | delete (table : String) (condition : Option Expression)

/-- Makes a trigger, which does something about each change of a kind. -/
structure TriggerStatement where
  name : String
  table : String
  time : TriggerTime
  event : TriggerEvent
  condition : Option Expression
  steps : List TriggerStep

/-- A statement that makes a part of a database. -/
inductive SchemaStatement
  | table (statement : TableStatement)
  | index (statement : IndexStatement)
  | view (statement : ViewStatement)
  | module (statement : ModuleStatement)
  | trigger (statement : TriggerStatement)

end InspectionForms
