import InspectionForms.Json.Number
import InspectionForms.SortedMap

namespace InspectionForms

inductive Json
  | null
  | bool (value : Bool)
  | number (value : Number)
  | string (value : String)
  | array (items : List Json)
  | object (members : List (String × Json))

namespace Json

instance : Inhabited Json := ⟨null⟩

/-- An object from members of which each name comes once, in increasing order. -/
def ofMap (members : SortedMap String Json) : Json := .object members.entries

/-- An object from members in any order. Of two with one name the later stands. -/
def ofMembers (members : List (String × Json)) : Json := ofMap (SortedMap.ofList members)

/-- An integer as a number. There is none for an integer beyond 64 bits, which turns into null. -/
def ofInt (i : Int) : Json :=
  if h : -0x8000000000000000 ≤ i ∧ i < 0x10000000000000000 then .number (.integer i h) else .null

def ofNat (n : Nat) : Json := ofInt n

/-- An absent value is written as null. -/
def ofOption (value : Option Json) : Json := value.getD .null

def ofStrings (texts : List String) : Json := .array (texts.map .string)

mutual

/-- The object form in which the names of every object increase. Of repeated names the last one stands. -/
def normal : Json → Json
  | .array items => .array (normalItems items)
  | .object members => ofMembers (normalMembers members)
  | scalar => scalar

def normalItems : List Json → List Json
  | [] => []
  | item :: rest => item.normal :: normalItems rest

def normalMembers : List (String × Json) → List (String × Json)
  | [] => []
  | (name, value) :: rest => (name, value.normal) :: normalMembers rest

end

mutual

def depth : Json → Nat
  | .array items => depthOfItems items + 1
  | .object members => depthOfMembers members + 1
  | _ => 0

def depthOfItems : List Json → Nat
  | [] => 0
  | item :: rest => max item.depth (depthOfItems rest)

def depthOfMembers : List (String × Json) → Nat
  | [] => 0
  | (_, value) :: rest => max value.depth (depthOfMembers rest)

end

def member? (name : String) : Json → Option Json
  | .object members => lookupEntry name members
  | _ => none

/-- Everything counts as true but null, false, zero and the empty text. -/
def isTruthy : Json → Bool
  | .null => false
  | .bool value => value
  | .number value => !value.isZero
  | .string value => !value.isEmpty
  | .array _ => true
  | .object _ => true

end Json

end InspectionForms
