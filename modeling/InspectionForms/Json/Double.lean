namespace InspectionForms

/-- A non-negative decimal: `coefficient * 10 ^ exponent`. -/
structure Decimal where
  coefficient : Nat
  exponent : Int
  deriving DecidableEq, Repr

def Decimal.ratio (d : Decimal) : Nat × Nat :=
  if 0 ≤ d.exponent then (d.coefficient * Nat.pow 10 d.exponent.toNat, 1)
  else (d.coefficient, Nat.pow 10 (-d.exponent).toNat)

/-- How many magnitudes of binary64 numbers are finite, which is also the rank of what lies beyond them. -/
abbrev Double.infiniteRank : Nat := 0x7FF0000000000000

/-- A finite binary64 number: its sign, and how many finite non-negative ones lie below its magnitude. -/
structure Double where
  negative : Bool
  rank : Fin Double.infiniteRank
  deriving DecidableEq, Repr

namespace Double

/-- How many ranks follow each other at the same distance: `2 ^ 52`. -/
abbrev blockSize : Nat := 0x10000000000000

/-- One, in units of the least positive number `2 ^ (-1074)`. -/
def unitsOfOne : Nat := 1 <<< 1074

/-- The magnitude of a rank in units of the least positive number. In the first two blocks all multiples of the unit are
numbers; from there on each block has steps twice as wide as the block before. -/
def units (rank : Nat) : Nat :=
  if rank < 2 * blockSize then rank else (rank % blockSize + blockSize) <<< (rank / blockSize - 1)

/-- The rank nearest to `numerator / denominator`, a tie going to the even rank. It may lie above the
finite numbers. -/
def nearestRank (numerator denominator : Nat) : Nat :=
  let scaled := numerator * unitsOfOne
  let shift := (scaled / denominator).log2 - 52
  let step := denominator <<< shift
  let below := scaled / step
  let twice := 2 * (scaled % step)
  let nearest := if step < twice ∨ (step = twice ∧ below % 2 = 1) then below + 1 else below
  shift * blockSize + nearest

/-- The rank nearest to a decimal. A decimal from `10 ^ 310` on is beyond all finite numbers, and one below
`10 ^ (-330)` is nearest to zero. Both show in the number of digits, without any great power of ten. -/
def rankOfDecimal (d : Decimal) : Nat :=
  let top := d.exponent + (Nat.toDigits 10 d.coefficient).length
  if d.coefficient = 0 ∨ top < -330 then 0
  else if 310 < top then infiniteRank
  else nearestRank d.ratio.1 d.ratio.2

def productRank (a b : Nat) : Nat := nearestRank (units a * units b) (unitsOfOne * unitsOfOne)

def quotientRank (a b : Nat) : Nat := nearestRank (units a) (units b)

def powerOfTen (places : Nat) : Nat := nearestRank (Nat.pow 10 places) 1

/-- The rank that a decimal with a coefficient below `2 ^ 64` is read as. The coefficient and the power of ten
are rounded, and so is their product or quotient, so that the result may be a few ranks off the nearest one.
A quotient is taken by at most `10 ^ 308` at a time, and two times leave nothing. -/
def readRank (d : Decimal) : Nat :=
  let coefficient := nearestRank d.coefficient 1
  let places := d.exponent.natAbs
  if coefficient = 0 then 0
  else if 0 ≤ d.exponent then
    if places ≤ 308 then productRank coefficient (powerOfTen places) else infiniteRank
  else if places ≤ 308 then quotientRank coefficient (powerOfTen places)
  else if places ≤ 616 then
    quotientRank (quotientRank coefficient (powerOfTen 308)) (powerOfTen (places - 308))
  else 0

/-- The number that a decimal is read as, unless that is too large to be finite. -/
def ofDecimal? (negative : Bool) (d : Decimal) : Option Double :=
  if h : readRank d < infiniteRank then some ⟨negative, ⟨readRank d, h⟩⟩ else none

/-- Of the two multiples of `10 ^ power` around the magnitude of a rank, the nearer one to which no other rank
is nearer. A tie goes to the even multiple. -/
def decimalOnGrid? (rank : Nat) (power : Int) : Option Decimal :=
  let numerator := units rank * Nat.pow 10 (-power).toNat
  let denominator := unitsOfOne * Nat.pow 10 power.toNat
  let below := numerator / denominator
  let twice := 2 * (numerator % denominator)
  let candidates :=
    if twice < denominator ∨ (twice = denominator ∧ below % 2 = 0) then [below, below + 1]
    else [below + 1, below]
  (candidates.map fun c => ⟨c, power⟩).find? fun d => rankOfDecimal d == rank

def leadingPower (rank : Nat) : Int :=
  (Nat.toDigits 10 (units rank * Nat.pow 10 324 / unitsOfOne)).length - 325

def roundedDecimal (places rank : Nat) : Decimal :=
  let power := leadingPower rank - (places - 1 : Nat)
  let numerator := units rank * Nat.pow 10 (-power).toNat
  let denominator := unitsOfOne * Nat.pow 10 power.toNat
  ⟨(2 * numerator + denominator) / (2 * denominator), power⟩

/-- The magnitude of a rank without any rounding. -/
def exactDecimal (rank : Nat) : Decimal := ⟨units rank * Nat.pow 5 1074, -1074⟩

/-- The decimal with the fewest digits to which the rank is nearest, and of those the one that is nearest to
it. Seventeen digits are always enough. -/
def shortestDecimal (rank : Nat) : Decimal :=
  let top := leadingPower rank
  ((List.range 17).findSome? fun further : Nat => decimalOnGrid? rank (top - further)).getD (exactDecimal rank)

end Double

/-- The digits of a coefficient without the zeros at its end. -/
def significantDigits (coefficient : Nat) : List Char :=
  ((Nat.toDigits 10 coefficient).reverse.dropWhile (· == '0')).reverse

/-- How decimals are written: between which powers of ten the first digit stands in positional notation, how many
digits exponents have at least, and whether a fraction always stands before one. -/
structure DecimalFormat where
  leastPower : Int
  mostPower : Int
  exponentWidth : Nat
  hasFraction : Bool

/-- A decimal as text: in positional notation, always with a fraction, or in scientific notation. -/
def Decimal.text (format : DecimalFormat) (d : Decimal) : List Char :=
  let digits := significantDigits d.coefficient
  let power := d.exponent + (Nat.toDigits 10 d.coefficient).length - 1
  if digits.isEmpty then ['0', '.', '0']
  else if format.leastPower ≤ power ∧ power < 0 then
    '0' :: '.' :: (List.replicate (-power - 1).toNat '0' ++ digits)
  else if 0 ≤ power ∧ power ≤ format.mostPower then
    let width := power.toNat + 1
    let fraction := digits.drop width
    digits.take width ++ List.replicate (width - digits.length) '0' ++
      '.' :: (if fraction.isEmpty then ['0'] else fraction)
  else
    let fraction := if digits.tail.isEmpty && format.hasFraction then ['0'] else digits.tail
    digits.take 1 ++ (if fraction.isEmpty then [] else '.' :: fraction) ++
      'e' :: (if power < 0 then '-' else '+') :: (Nat.toDigits 10 power.natAbs).leftpad format.exponentWidth '0'

/-- Numbers are written in positional notation if the first digit stands between `10 ^ (-5)` and `10 ^ 15`. -/
def Double.format : DecimalFormat := ⟨-5, 15, 1, false⟩

def Double.text (d : Double) : List Char :=
  let magnitude := (Double.shortestDecimal d.rank).text Double.format
  if d.negative then '-' :: magnitude else magnitude

end InspectionForms
