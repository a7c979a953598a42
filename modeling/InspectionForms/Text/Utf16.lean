namespace InspectionForms

/-- The units that bytes stand for, two bytes each. A byte that is left over is dropped. -/
def unitsOfBytes (highFirst : Bool) : List UInt8 → List Nat
  | a :: b :: rest =>
    (if highFirst then 256 * a.toNat + b.toNat else a.toNat + 256 * b.toNat) :: unitsOfBytes highFirst rest
  | _ => []

/-- The code points that units stand for. Each surrogate is taken together with the unit behind it, whichever that
is, and stands alone at the end. -/
def codesOfUnits : List Nat → List Nat
  | [] => []
  | [unit] => [unit]
  | unit :: second :: rest =>
    if 0xD800 ≤ unit ∧ unit < 0xE000 then
      (0x10000 + unit % 0x400 * 0x400 + second % 0x400) :: codesOfUnits rest
    else unit :: codesOfUnits (second :: rest)

/-- The bytes of a code point in UTF-8. A surrogate has some too, which are no text. -/
def utf8OfCode (code : Nat) : List UInt8 :=
  let further (shift : Nat) : UInt8 := UInt8.ofNat (0x80 + code / shift % 0x40)
  if code < 0x80 then [UInt8.ofNat code]
  else if code < 0x800 then [UInt8.ofNat (0xC0 + code / 0x40), further 1]
  else if code < 0x10000 then [UInt8.ofNat (0xE0 + code / 0x1000), further 0x40, further 1]
  else [UInt8.ofNat (0xF0 + code / 0x40000), further 0x1000, further 0x40, further 1]

def utf8OfUtf16 (highFirst : Bool) (bytes : List UInt8) : List UInt8 :=
  (codesOfUnits (unitsOfBytes highFirst bytes)).flatMap utf8OfCode

end InspectionForms
