namespace InspectionForms

def sameLetter (a b : Char) : Bool := a.toLower == b.toLower

/-- Whether a text fits a pattern in which `%` stands for any characters and `_` for one. Letters from A to Z are
the same in either case, and a character behind an escape mark stands for itself. -/
def fitsPattern (escape : Option Char) : List Char → List Char → Bool
  | [], text => text.isEmpty
  | p :: ps, text =>
    if some p = escape then
      match ps, text with
      | q :: qs, c :: cs => sameLetter q c && fitsPattern escape qs cs
      | _, _ => false
    else if p = '%' then
      fitsPattern escape ps text || match text with
        | [] => false
        | _ :: cs => fitsPattern escape (p :: ps) cs
    else match text with
      | [] => false
      | c :: cs => (p == '_' || sameLetter p c) && fitsPattern escape ps cs
termination_by ps text => ps.length + text.length

/-- Reads a set of characters up to its closing bracket: whether a character is in it, and what follows. `prior` is
the character with which a range can start. -/
def readSet (c : Char) (prior : Option Char) : List Char → Option (Bool × List Char)
  | [] => none
  | ']' :: rest => some (false, rest)
  | '-' :: d :: rest =>
    match prior with
    | some p =>
      if d = ']' then (readSet c (some '-') (d :: rest)).map fun (isSeen, rest) => (isSeen || c == '-', rest)
      else (readSet c none rest).map fun (isSeen, rest) => (isSeen || (decide (p ≤ c) && decide (c ≤ d)), rest)
    | none => (readSet c (some '-') (d :: rest)).map fun (isSeen, rest) => (isSeen || c == '-', rest)
  | d :: rest => (readSet c (some d) rest).map fun (isSeen, rest) => (isSeen || c == d, rest)

/-- A set with its mark for all other characters, and a bracket that may come first. -/
def readMarkedSet (c : Char) (cs : List Char) : Option (Bool × List Char) :=
  let isInverted := cs.head? == some '^'
  let set? : Option (Bool × List Char) := match if isInverted then cs.tail else cs with
    | ']' :: rest => (readSet c none rest).map fun (isSeen, rest) => (isSeen || c == ']', rest)
    | cs => readSet c none cs
  set?.map fun (isSeen, rest) => (isSeen != isInverted, rest)

/-- Whether a text fits a pattern in which `*` stands for any characters, `?` for one, and brackets for one of a set.
A bound says how many steps it can take. -/
def fitsShellPattern : Nat → List Char → List Char → Bool
  | 0, _, _ => false
  | _, [], text => text.isEmpty
  | bound + 1, p :: ps, text =>
    if p = '*' then
      fitsShellPattern bound ps text || match text with
        | [] => false
        | _ :: cs => fitsShellPattern bound (p :: ps) cs
    else match text with
      | [] => false
      | c :: cs =>
        if p = '[' then
          match readMarkedSet c ps with
          | some (isIn, rest) => isIn && fitsShellPattern bound rest cs
          | none => false
        else (p == '?' || p == c) && fitsShellPattern bound ps cs

end InspectionForms
