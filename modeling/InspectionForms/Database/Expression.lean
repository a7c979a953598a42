import InspectionForms.Database.Operation

namespace InspectionForms

/-- How values follow each other in an order: from the least one on or from the greatest one on, with null in front or
at the end. -/
structure SortDirection where
  isFalling : Bool
  isNullLast : Bool
  deriving DecidableEq, Repr

/-- What happens to rows of two sources that do not fit any row of the other one: they are left out, or those of the
left one, the right one, or both are kept. -/
inductive JoinKind
  | inner
  | left
  | right
  | full
  deriving DecidableEq, Repr

/-- How the rows of two queries are put together. -/
inductive SetOperation
  | unionAll
  | union
  | except
  | intersect
  deriving DecidableEq, Repr

/-- What the distance from a row is counted in: rows, groups of rows with the same place in the order, or the value by
which rows are ordered. -/
inductive FrameUnit
  | rows
  | groups
  | range
  deriving DecidableEq, Repr

/-- Where a frame starts or stops: at an end of the rows, at the row itself, or at some distance before or behind it. -/
inductive FrameEdge
  | first
  | before
  | current
  | behind
  | last
  deriving DecidableEq, Repr

/-- The rows that are left out of a frame. -/
inductive FrameExclusion
  | nothing
  | current
  | group
  | ties
  deriving DecidableEq, Repr

/-- The rows around a row that a function looks at. -/
structure Frame where
  unit : FrameUnit
  start : FrameEdge
  stop : FrameEdge
  exclusion : FrameExclusion
  deriving DecidableEq, Repr

/-- The place of a value: how many queries further out its row is found, and where in the row it stands. Values in
columns come with an affinity, those of rows that a trigger is about without, unless they are numbers of rows. -/
structure CellPlace where
  depth : Nat
  index : Nat
  affinity : Option Affinity
  collation : Collation
  deriving DecidableEq, Repr

/-- The name of a value that a query gives, which has been given to it or is its text. -/
structure ResultLabel where
  text : String
  isGiven : Bool
  deriving DecidableEq, Repr

mutual

/-- A value that is computed from rows. It is read with the names of columns, for which the places are put in later. A
name in quotes for which there is no column is a text. `gathered` takes the values of all rows of a group together,
`framed` those of the rows around a row, of which an optional window may be named. `first` is a value of the first row
that a query finds, `presence` is whether there is any, and `within` whether a value is among them. `every` stands for
all columns. Inside of triggers a change may be refused. -/
inductive Expression
  | constant (value : Cell)
  | column (table : Option String) (name : String) (isQuoted : Bool)
  | field (place : CellPlace)
  | minus (value : Expression)
  | negation (value : Expression)
  | complement (value : Expression)
  | binary (operation : BinaryOperation) (left right : Expression)
  | member (value : Expression) (values : List Expression)
  | choice (condition positive negative : Expression)
  | call (name : String) (values : List Expression)
  | gathered (name : String) (isDistinct : Bool) (values orders : List Expression) (directions : List SortDirection)
      (conditions : List Expression)
  | framed (name : String) (values conditions : List Expression) (window : Option String)
      (parts orders : List Expression) (directions : List SortDirection) (frame : Option Frame)
      (distances : List Expression)
  | cast (value : Expression) (affinity : Affinity)
  | collated (value : Expression) (collation : String)
  | refusal (action : String) (message : Expression)
  | every (table : Option String)
  | row (values : List Expression)
  | first (index : Nat) (inner : Query)
  | presence (inner : Query)
  | within (value : Expression) (inner : Query)

/-- Finds rows: those that are computed from the rows of a source which meet all conditions, perhaps one for each
group, or those of two queries, or some of a query in an order. At most as many rows as the first bound says are found,
from the second one on. A query can be given a name inside of another one. -/
inductive Query
  | select (isDistinct : Bool) (values : List Expression) (labels : List ResultLabel) (source : Source)
      (conditions groups groupConditions orders : List Expression) (directions : List SortDirection)
      (bounds : List Expression) (windowNames : List String) (windows : List Expression)
  | compound (operation : SetOperation) (left right : Query)
  | ordered (inner : Query) (orders : List Expression) (directions : List SortDirection) (bounds : List Expression)
  | named (name : String) (columns : Option (List String)) (definition inner : Query)

/-- Where a query finds its rows: in a table, as the values of a function that gives rows, in another query, or in two
sources. Rows of two sources may have to agree in shared columns. -/
inductive Source
  | nothing
  | table (name : String) (label : Option String)
  | function (name : String) (values : List Expression) (label : Option String)
  | query (inner : Query) (label : Option String)
  | join (kind : JoinKind) (isNatural : Bool) (shared : Option (List String)) (conditions : List Expression)
      (leftWidth rightWidth : Nat) (left right : Source)

end

namespace Expression

instance : Inhabited Expression := ⟨constant .null⟩

def negatedIf (isNegated : Bool) (value : Expression) : Expression := if isNegated then negation value else value

def between (value low high : Expression) : Expression :=
  binary .both (binary .atLeast value low) (binary .atMost value high)

mutual

/-- The values that a value is computed from, with itself. Those inside of queries do not count. -/
def parts : Expression → List Expression
  | minus value => minus value :: value.parts
  | negation value => negation value :: value.parts
  | complement value => complement value :: value.parts
  | cast value affinity => cast value affinity :: value.parts
  | collated value collation => collated value collation :: value.parts
  | refusal action message => refusal action message :: message.parts
  | within value inner => within value inner :: value.parts
  | binary operation left right => binary operation left right :: (left.parts ++ right.parts)
  | member value values => member value values :: (value.parts ++ partsOfAll values)
  | choice condition positive negative =>
    choice condition positive negative :: (condition.parts ++ positive.parts ++ negative.parts)
  | call name values => call name values :: partsOfAll values
  | gathered name isDistinct values orders directions conditions =>
    gathered name isDistinct values orders directions conditions ::
      (partsOfAll values ++ partsOfAll orders ++ partsOfAll conditions)
  | framed name values conditions window parts orders directions frame distances =>
    framed name values conditions window parts orders directions frame distances ::
      (partsOfAll values ++ partsOfAll conditions ++ partsOfAll parts ++ partsOfAll orders)
  | row values => row values :: partsOfAll values
  | value => [value]

def partsOfAll : List Expression → List Expression
  | [] => []
  | value :: rest => value.parts ++ partsOfAll rest

end

def isTogether (value : Expression) : Bool := value.parts.any fun part => part matches gathered ..

def isFramed (value : Expression) : Bool := value.parts.any fun part => part matches framed ..

end Expression

mutual

def Expression.reaches (depth : Nat) : Expression → Bool
  | .field place => place.depth == depth
  | .minus value | .negation value | .complement value | .cast value _ | .collated value _ | .refusal _ value =>
    value.reaches depth
  | .binary _ left right => left.reaches depth || right.reaches depth
  | .member value values => value.reaches depth || Expression.anyReaches depth values
  | .choice condition positive negative =>
    condition.reaches depth || positive.reaches depth || negative.reaches depth
  | .call _ values | .row values => Expression.anyReaches depth values
  | .gathered _ _ values orders _ conditions =>
    Expression.anyReaches depth values || Expression.anyReaches depth orders || Expression.anyReaches depth conditions
  | .framed _ values conditions _ parts orders _ _ distances =>
    Expression.anyReaches depth values || Expression.anyReaches depth conditions ||
      Expression.anyReaches depth parts || Expression.anyReaches depth orders || Expression.anyReaches depth distances
  | .first _ inner | .presence inner => inner.reaches depth
  | .within value inner => value.reaches depth || inner.reaches depth
  | .constant _ | .column .. | .every _ => false

def Expression.anyReaches (depth : Nat) : List Expression → Bool
  | [] => false
  | value :: rest => value.reaches depth || Expression.anyReaches depth rest

def Query.reaches (depth : Nat) : Query → Bool
  | .select _ values _ source conditions groups groupConditions orders _ _ _ _ =>
    source.reaches depth || Expression.anyReaches (depth + 1) values || Expression.anyReaches (depth + 1) conditions ||
      Expression.anyReaches (depth + 1) groups || Expression.anyReaches (depth + 1) groupConditions ||
      Expression.anyReaches (depth + 1) orders
  | .compound _ left right => left.reaches depth || right.reaches depth
  | .ordered inner .. => inner.reaches depth
  | .named _ _ definition inner => definition.reaches depth || inner.reaches depth

def Source.reaches (depth : Nat) : Source → Bool
  | .nothing | .table .. => false
  | .function _ values _ => Expression.anyReaches (depth + 1) values
  | .query inner _ => inner.reaches depth
  | .join _ _ _ conditions _ _ left right =>
    Expression.anyReaches (depth + 1) conditions || left.reaches depth || right.reaches depth

end

namespace Expression

def hasDependentQuery (value : Expression) : Bool :=
  value.parts.any fun
    | first _ inner | presence inner | within _ inner => inner.reaches 0
    | _ => false

mutual

/-- Two values are written in the same way, apart from ways of comparing texts. Those with queries are not. -/
def isSame : Expression → Expression → Bool
  | constant a, constant b => a == b
  | field a, field b => a.depth == b.depth && a.index == b.index
  | minus a, minus b | negation a, negation b | complement a, complement b => a.isSame b
  | cast a affinity, cast b other => affinity == other && a.isSame b
  | collated a _, collated b _ => a.isSame b
  | binary operation a b, binary other c d => operation == other && a.isSame c && b.isSame d
  | member a as, member b bs => a.isSame b && areSame as bs
  | choice a b c, choice d e f => a.isSame d && b.isSame e && c.isSame f
  | call name as, call other bs => name == other && areSame as bs
  | _, _ => false

def areSame : List Expression → List Expression → Bool
  | [], [] => true
  | a :: as, b :: bs => a.isSame b && areSame as bs
  | _, _ => false

end

end Expression

end InspectionForms
