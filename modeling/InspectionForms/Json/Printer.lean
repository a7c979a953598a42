import InspectionForms.Json.Basic
import InspectionForms.Json.Token

namespace InspectionForms

namespace Json

mutual

def tokens : Json → List Token
  | .null => [.null]
  | .bool value => [.bool value]
  | .number value => [.number value]
  | .string value => [.string value]
  | .array [] => [.openArray, .closeArray]
  | .array (item :: rest) => .openArray :: (item.tokens ++ tokensOfItems rest ++ [.closeArray])
  | .object [] => [.openObject, .closeObject]
  | .object ((name, value) :: rest) =>
    .openObject :: .string name :: .colon :: (value.tokens ++ tokensOfMembers rest ++ [.closeObject])

/-- The items behind the first one, each with a comma in front. -/
def tokensOfItems : List Json → List Token
  | [] => []
  | item :: rest => .comma :: (item.tokens ++ tokensOfItems rest)

/-- The members behind the first one, each with a comma in front. -/
def tokensOfMembers : List (String × Json) → List Token
  | [] => []
  | (name, value) :: rest => .comma :: .string name :: .colon :: (value.tokens ++ tokensOfMembers rest)

end

/-- The text without any spaces. -/
def compact (json : Json) : String := String.ofList (json.tokens.flatMap Token.spelling)

def lineBreak (level : Nat) : List Char := '\n' :: List.replicate (2 * level) ' '

mutual

/-- The text with each item and each member on a line of its own. Empty containers stay on one line. -/
def prettyChars (level : Nat) : Json → List Char
  | .array [] => ['[', ']']
  | .array (item :: rest) =>
    '[' :: (lineBreak (level + 1) ++ item.prettyChars (level + 1) ++ prettyItems (level + 1) rest ++
      lineBreak level ++ [']'])
  | .object [] => ['\x7b', '\x7d']
  | .object ((name, value) :: rest) =>
    '\x7b' :: (lineBreak (level + 1) ++ (Token.string name).spelling ++ ':' :: ' ' ::
      value.prettyChars (level + 1) ++ prettyMembers (level + 1) rest ++ lineBreak level ++ ['\x7d'])
  | scalar => scalar.tokens.flatMap Token.spelling

def prettyItems (level : Nat) : List Json → List Char
  | [] => []
  | item :: rest => ',' :: (lineBreak level ++ item.prettyChars level ++ prettyItems level rest)

def prettyMembers (level : Nat) : List (String × Json) → List Char
  | [] => []
  | (name, value) :: rest =>
    ',' :: (lineBreak level ++ (Token.string name).spelling ++ ':' :: ' ' ::
      value.prettyChars level ++ prettyMembers level rest)

end

def pretty (json : Json) : String := String.ofList (json.prettyChars 0)

end Json

end InspectionForms
