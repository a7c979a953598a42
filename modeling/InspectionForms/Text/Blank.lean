namespace InspectionForms

def blankRanges : List (Nat × Nat) :=
  [(0x09, 0x0D), (0x20, 0x20), (0x85, 0x85), (0xA0, 0xA0), (0x1680, 0x1680), (0x2000, 0x200A),
    (0x2028, 0x2029), (0x202F, 0x202F), (0x205F, 0x205F), (0x3000, 0x3000)]

def isBlank (c : Char) : Bool :=
  blankRanges.any fun range => decide (range.1 ≤ c.toNat) && decide (c.toNat ≤ range.2)

def isBlankText (text : String) : Bool := text.toList.all isBlank

/-- The characters between the first and the last one that is not blank. -/
def trimBlanks (cs : List Char) : List Char :=
  ((cs.dropWhile isBlank).reverse.dropWhile isBlank).reverse

def trim (text : String) : String := String.ofList (trimBlanks text.toList)

/-- Lowers the letters A to Z and no others. -/
def lowerAscii (text : String) : String := String.ofList (text.toList.map Char.toLower)

def isSameName (a b : String) : Bool := lowerAscii a == lowerAscii b

end InspectionForms
