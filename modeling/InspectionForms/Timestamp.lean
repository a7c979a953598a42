import InspectionForms.Text.Digits

namespace InspectionForms

/-- A date of the Gregorian calendar, extended over all years from 0 on. Month and day count from 1. -/
@[ext]
structure Date where
  year : Nat
  month : Nat
  day : Nat
  deriving DecidableEq, Repr

namespace Date

def isLeapYear (year : Nat) : Bool := year % 4 == 0 && (year % 100 != 0 || year % 400 == 0)

/-- The days from 1 January of year 0 to 1 January of the year. -/
def daysBeforeYear (year : Nat) : Nat :=
  365 * year + (year + 3) / 4 - (year + 99) / 100 + (year + 399) / 400

/-- The year of the day that comes this many days after 1 January of year 0. The average year is off by
at most one. -/
def yearOfDay (days : Nat) : Nat :=
  let average := 400 * days / 146097
  if days < daysBeforeYear average then average - 1
  else if daysBeforeYear (average + 1) ≤ days then average + 1
  else average

def monthLengths (year : Nat) : List Nat :=
  [31, if isLeapYear year then 29 else 28, 31, 30, 31, 30, 31, 31, 30, 31, 30, 31]

/-- Month and day of a day of the year, the lengths being those of the months from `month` on. -/
def locate (month : Nat) : List Nat → Nat → Nat × Nat
  | [], day => (month, day + 1)
  | length :: later, day => if day < length then (month, day + 1) else locate (month + 1) later (day - length)

/-- The date that comes this many days after 1 January of year 0. -/
def ofDays (days : Nat) : Date :=
  let year := yearOfDay days
  let place := locate 1 (monthLengths year) (days - daysBeforeYear year)
  ⟨year, place.1, place.2⟩

def text (date : Date) : List Char :=
  paddedDigits 4 date.year ++ '-' :: paddedDigits 2 date.month ++ '-' :: paddedDigits 2 date.day

end Date

/-- Nanoseconds since midnight, with the fraction of a second only as long as it has to be. -/
def timeOfDayText (ns : Nat) : List Char :=
  let fraction := (((paddedDigits 9 (ns % 1000000000)).reverse.dropWhile (· == '0')).reverse)
  paddedDigits 2 (ns / 3600000000000) ++ ':' :: paddedDigits 2 (ns / 60000000000 % 60) ++
    ':' :: paddedDigits 2 (ns / 1000000000 % 60) ++ (if fraction.isEmpty then [] else '.' :: fraction)

def nsPerDay : Nat := 86400000000000

/-- Nanoseconds from the start of year 0 to the Unix epoch. -/
def epochOffset : Int := 719528 * 86400000000000

/-- The length of the years 0 to 9999, which four digits can name. -/
def namedSpan : Int := 3652425 * 86400000000000

def epochText : String := "1970-01-01T00:00:00Z"

/-- A Unix time in milliseconds, scaled to nanoseconds in a signed integer of 128 bits. -/
def epochNanoseconds (ms : Int) : Int := (ms * 1000000).bmod 0x100000000000000000000000000000000

/-- The UTC text of a Unix time in milliseconds. A time outside the years 0 to 9999 reads as the epoch. -/
def timestampText (ms : Int) : String :=
  let sinceYearZero := epochNanoseconds ms + epochOffset
  if 0 ≤ sinceYearZero ∧ sinceYearZero < namedSpan then
    let n := sinceYearZero.toNat
    String.ofList ((Date.ofDays (n / nsPerDay)).text ++ 'T' :: timeOfDayText (n % nsPerDay) ++ ['Z'])
  else epochText

end InspectionForms
