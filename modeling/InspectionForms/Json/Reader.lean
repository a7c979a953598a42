import InspectionForms.Json.Basic
import InspectionForms.Json.Token

namespace InspectionForms

/-- A container around the value that is being read, with what it holds so far, latest first. -/
inductive OpenContainer
  | array (items : List Json)
  | object (members : List (String × Json)) (name : String)

/-- What may come next. -/
inductive Awaited
  | value
  | valueOrClose
  | name (members : List (String × Json)) (mayClose : Bool)
  | colon (members : List (String × Json)) (name : String)
  | rest (value : Json)

/-- The containers around the place of reading, innermost first. An object stands among them while one of
its values is read. -/
structure JsonBuilder where
  around : List OpenContainer
  awaited : Awaited

namespace JsonBuilder

def start : JsonBuilder := ⟨[], .value⟩

/-- Begins a value. A container may have `limit` minus one others around it. -/
def openValue (limit : Nat) (around : List OpenContainer) : Token → Option JsonBuilder
  | .null => some ⟨around, .rest .null⟩
  | .bool value => some ⟨around, .rest (.bool value)⟩
  | .number value => some ⟨around, .rest (.number value)⟩
  | .string value => some ⟨around, .rest (.string value)⟩
  | .openArray => if around.length < limit then some ⟨.array [] :: around, .valueOrClose⟩ else none
  | .openObject => if around.length < limit then some ⟨around, .name [] true⟩ else none
  | _ => none

def step (limit : Nat) : JsonBuilder → Token → Option JsonBuilder
  | ⟨.array [] :: around, .valueOrClose⟩, .closeArray => some ⟨around, .rest (.array [])⟩
  | ⟨around, .valueOrClose⟩, token => openValue limit around token
  | ⟨around, .value⟩, token => openValue limit around token
  | ⟨around, .name members _⟩, .string name => some ⟨around, .colon members name⟩
  | ⟨around, .name _ true⟩, .closeObject => some ⟨around, .rest (.object [])⟩
  | ⟨around, .colon members name⟩, .colon => some ⟨.object members name :: around, .value⟩
  | ⟨.array items :: around, .rest value⟩, .comma => some ⟨.array (value :: items) :: around, .value⟩
  | ⟨.array items :: around, .rest value⟩, .closeArray =>
    some ⟨around, .rest (.array (value :: items).reverse)⟩
  | ⟨.object members name :: around, .rest value⟩, .comma =>
    some ⟨around, .name ((name, value) :: members) false⟩
  | ⟨.object members name :: around, .rest value⟩, .closeObject =>
    some ⟨around, .rest (.object ((name, value) :: members).reverse)⟩
  | _, _ => none

def finish : JsonBuilder → Option Json
  | ⟨[], .rest value⟩ => some value
  | _ => none

end JsonBuilder

namespace Json

/-- The value that a list of tokens spells out, members in the order of the text and repeated ones kept.
Containers nest at most `limit` deep. -/
def ofTokens? (limit : Nat) (tokens : List Token) : Option Json :=
  (tokens.foldlM (JsonBuilder.step limit) JsonBuilder.start).bind JsonBuilder.finish

def ofText? (limit : Nat) (text : String) : Option Json := (scanTokens text.toList).bind (ofTokens? limit)

/-- Containers nest at most this deep in a text that is read. -/
def nestingLimit : Nat := 127

def parse? (text : String) : Option Json := (ofText? nestingLimit text).map normal

end Json

end InspectionForms
