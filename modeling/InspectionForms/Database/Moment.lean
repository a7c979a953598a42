import InspectionForms.Database.Argument
import InspectionForms.Database.Template

namespace InspectionForms

/-- Why a text or a number stands for no moment: it cannot be read, or it stands for the present one. -/
inductive NoMoment
  | illegible
  | present
  deriving DecidableEq, Repr

/-- A moment as far as it is known: in milliseconds from noon of the first Julian day, by its year, month and day, by
its hour, minute and nanoseconds, or as a number of which nobody has said yet what it counts, in units of the least
real number. `zone` is by how many minutes the clock is ahead, and `excess` by how many days the day lies behind the
end of its month. -/
structure Moment where
  instant : Option Int
  date : Option (Int × Int × Int)
  time : Option (Nat × Nat × Nat)
  number : Option Int
  zone : Int
  excess : Int
  isFine : Bool
  deriving DecidableEq, Repr

namespace Moment

def unknown : Moment := ⟨none, none, none, none, 0, 0, false⟩

def takeNumber? (count least most : Nat) (cs : List Char) : Option (Nat × List Char) :=
  let digits := cs.take count
  let value := Nat.ofDigitChars 10 digits 0
  if digits.length = count ∧ digits.all Char.isDigit ∧ least ≤ value ∧ value ≤ most then some (value, cs.drop count)
  else none

def skip? (c : Char) (cs : List Char) : Option (List Char) := if cs.head? = some c then some (cs.drop 1) else none

def skipBlanks (cs : List Char) : List Char := cs.dropWhile Cell.isNumeralBlank

def readZone? (cs : List Char) : Option Int :=
  match skipBlanks cs with
  | [] => some 0
  | c :: rest =>
    if c = 'Z' ∨ c = 'z' then if (skipBlanks rest).isEmpty then some 0 else none
    else if c ≠ '+' ∧ c ≠ '-' then none
    else do
      let (hour, rest) ← takeNumber? 2 0 14 rest
      let (minute, rest) ← takeNumber? 2 0 59 (← skip? ':' rest)
      if !(skipBlanks rest).isEmpty then none
      let minutes : Int := 60 * hour + minute
      return if c = '-' then -minutes else minutes

def readTime? (cs : List Char) : Option ((Nat × Nat × Nat) × Int) := do
  let (hour, rest) ← takeNumber? 2 0 24 cs
  let (minute, rest) ← takeNumber? 2 0 59 (← skip? ':' rest)
  if rest.head? ≠ some ':' then return ((hour, minute, 0), ← readZone? rest)
  let (second, rest) ← takeNumber? 2 0 59 (rest.drop 1)
  let fraction := if rest.head? = some '.' then (rest.drop 1).takeWhile Char.isDigit else []
  let rest := if fraction.isEmpty then rest else rest.drop (fraction.length + 1)
  let nanoseconds := Nat.ofDigitChars 10 ((fraction.take 9).rightpad 9 '0') 0
  return ((hour, minute, 1000000000 * second + nanoseconds), ← readZone? rest)

def monthLength (year month : Int) : Int :=
  if [4, 6, 9, 11].contains month then 30
  else if month ≠ 2 then 31
  else if year % 4 = 0 ∧ (year % 100 ≠ 0 ∨ year % 400 = 0) then 29 else 28

def withExcess (moment : Moment) : Moment :=
  match moment.date with
  | some (year, month, day) => { moment with excess := max 0 (day - monthLength year month) }
  | none => moment

def startOfDay (year month day : Int) : Int :=
  let (year, month) := if month ≤ 2 then (year - 1, month + 12) else (year, month)
  let century := (year + 4800) / 100
  let days := 36525 * (year + 4716) / 100 + 306001 * (month + 1) / 10000 + day + 38 - century + century / 4
  (2 * days - 3049) * 43200000

def dateOfInstant (instant : Int) : Int × Int × Int :=
  let day := (instant + 43200000) / 86400000
  let alpha := (4 * day + 128179) / 146097 - 52
  let b := day + 1 + alpha - (alpha + 100) / 4 + 25 + 1524
  let c := (100 * b - 12210) / 36525
  let d := 36525 * c / 100
  let e := (b - d) * 10000 / 306001
  let month := if e < 14 then e - 1 else e - 13
  (if 2 < month then c - 4716 else c - 4715, month, b - d - 306001 * e / 10000)

def milliseconds (nanoseconds : Nat) : Nat := (nanoseconds + 500000) / 1000000

/-- The moment by its milliseconds. Without a date it is on the first day of the year 2000. -/
def settled (moment : Moment) : Except NoMoment (Int × Moment) :=
  match moment.instant with
  | some instant => .ok (instant, moment)
  | none =>
    let (year, month, day) := moment.date.getD (2000, 1, 1)
    if year < -4713 ∨ 9999 < year ∨ moment.number.isSome then .error .illegible else
    let start := startOfDay year month day
    match moment.time with
    | none => .ok (start, { moment with instant := some start })
    | some (hour, minute, nanoseconds) =>
      let instant := start + hour * 3600000 + minute * 60000 + milliseconds nanoseconds
      if moment.zone = 0 then .ok (instant, { moment with instant := some instant })
      else
        let instant := instant - moment.zone * 60000
        .ok (instant, { moment with instant := some instant, date := none, time := none, zone := 0 })

def lastInstant : Int := 464269060799999

def dated (moment : Moment) : Except NoMoment ((Int × Int × Int) × Moment) :=
  match moment.date, moment.instant with
  | some date, _ => .ok (date, moment)
  | none, none => .ok ((2000, 1, 1), { moment with date := some (2000, 1, 1) })
  | none, some instant =>
    if instant < 0 ∨ lastInstant < instant then .error .illegible
    else .ok (dateOfInstant instant, { moment with date := some (dateOfInstant instant) })

def timed (moment : Moment) : Except NoMoment ((Nat × Nat × Nat) × Moment) :=
  match moment.time with
  | some time => .ok (time, moment)
  | none => do
    let (instant, moment) ← moment.settled
    let day := ((instant + 43200000) % 86400000).toNat
    let time := (day / 3600000, day / 60000 % 60, day % 60000 * 1000000)
    return (time, { moment with time := some time, number := none })

def withInstant (moment : Moment) (instant : Int) : Moment :=
  { moment with instant := some instant, date := none, time := none, zone := 0 }

/-- A moment that a number stands for, of which it is not known yet what it counts. If it can count days, it does. -/
def ofNumber (units : Int) : Moment :=
  let isDay := 0 ≤ units ∧ 2 * units < 10746969 * Double.unitsOfOne
  { unknown with
    number := some units
    instant := if isDay then some ((2 * units * 86400000 + Double.unitsOfOne) / (2 * Double.unitsOfOne)) else none }

/-- The milliseconds that a number stands for which counts seconds from the start of 1970. -/
def instantOfSeconds (units : Int) : Int :=
  (2 * units * 1000 + Double.unitsOfOne) / (2 * Double.unitsOfOne) + 210866760000000

def readDate? (cs : List Char) : Option Moment := do
  let (sign, rest) : Int × List Char := if cs.head? = some '-' then (-1, cs.drop 1) else (1, cs)
  let (year, rest) ← takeNumber? 4 0 9999 rest
  let (month, rest) ← takeNumber? 2 1 12 (← skip? '-' rest)
  let (day, rest) ← takeNumber? 2 1 31 (← skip? '-' rest)
  let rest := rest.dropWhile fun c => Cell.isNumeralBlank c || c == 'T'
  let moment := { unknown with date := some (sign * year, (month : Int), (day : Int)) }
  if rest.isEmpty then return moment.withExcess
  let (time, zone) ← readTime? rest
  let moment := { moment with time := some time, zone }.withExcess
  if zone = 0 then return moment else return (← moment.settled.toOption).2

def units? (cs : List Char) : Option Int := (Cell.ofNumeral? (String.ofList cs)).map Cell.units

def read (cs : List Char) : Except NoMoment Moment :=
  let word := String.ofList (cs.map Char.toLower)
  match readDate? cs, readTime? cs, units? cs with
  | some moment, _, _ => .ok moment
  | _, some (time, zone), _ => .ok { unknown with time := some time, zone }
  | _, _, some units => if word = "now" then .error .present else .ok (ofNumber units)
  | _, _, none => .error (if ["now", "subsec", "subsecond"].contains word then .present else .illegible)

/-- The units in which times can be added, how many there are at most, and how many seconds each has. -/
def spans : List (String × Int × Int) :=
  [("second", 464270000000000, 1), ("minute", 7737900000000, 60), ("hour", 128970000000, 3600),
    ("day", 5373485, 86400), ("month", 176546, 2592000), ("year", 14713, 31536000)]

def addMonths (count : Int) (date : Int × Int × Int) : Int × Int × Int :=
  let (year, month, day) := date
  let months := 12 * year + month - 1 + count
  (months / 12, months % 12 + 1, day)

def addSpan (moment : Moment) (units : Int) (name : String) : Except NoMoment Moment := do
  let (_, moment) ← moment.settled
  let moment := { moment with excess := 0 }
  let some (_, most, seconds) := spans.find? fun (other, _) => other == name | throw .illegible
  if most * Double.unitsOfOne ≤ units.natAbs then throw .illegible
  let whole := Int.tdiv units Double.unitsOfOne
  let part := if seconds < 2592000 then units else units - whole * Double.unitsOfOne
  let moment ← if seconds < 2592000 then pure moment else do
    let (date, moment) ← moment.dated
    let (_, moment) ← moment.timed
    let date := addMonths (if name = "year" then 12 * whole else whole) date
    pure { moment with date := some date, instant := none }.withExcess
  let (instant, moment) ← moment.settled
  let distance := 2 * part * 1000 * seconds
  let rounder : Int := if units < 0 then -Double.unitsOfOne else Double.unitsOfOne
  return moment.withInstant (instant + Int.tdiv (distance + rounder) (2 * Double.unitsOfOne))

def addTime (moment : Moment) (isBack : Bool) (cs : List Char) : Except NoMoment Moment := do
  let some (time, zone) := readTime? cs | throw .illegible
  let (distance, _) ← settled { unknown with time := some time, zone }
  let distance := (distance - 43200000) % 86400000
  let (instant, moment) ← moment.settled
  return moment.withInstant (if isBack then instant - distance else instant + distance)

def addDate (moment : Moment) (isBack : Bool) (cs : List Char) (places : Nat) : Except NoMoment Moment := do
  let parts? : Option (Nat × Nat × Nat × List Char) := do
    let (year, rest) ← takeNumber? places 0 14712 cs
    let (month, rest) ← takeNumber? 2 0 11 (← skip? '-' rest)
    let (day, rest) ← takeNumber? 2 0 30 (← skip? '-' rest)
    return (year, month, day, rest)
  let some (year, month, day, rest) := parts? | throw .illegible
  let (date, moment) ← moment.dated
  let (_, moment) ← moment.timed
  let sign : Int := if isBack then -1 else 1
  let moment := { moment with date := some (addMonths (sign * (12 * year + month)) date), instant := none }.withExcess
  let (instant, moment) ← moment.settled
  let moment := moment.withInstant (instant + sign * day * 86400000)
  if rest.isEmpty then return moment
  if !rest.head?.any Cell.isNumeralBlank then throw .illegible
  moment.addTime isBack (rest.drop 1)

def toWeekday (moment : Moment) (weekday : Int) : Except NoMoment Moment := do
  let (_, moment) ← moment.dated
  let (_, moment) ← moment.timed
  let (instant, moment) ← settled { moment with zone := 0, instant := none }
  let day := (instant + 129600000) / 86400000 % 7
  return moment.withInstant (instant + (weekday - if weekday < day then day - 7 else day) * 86400000)

def toStart (moment : Moment) (name : String) : Except NoMoment Moment := do
  if moment.instant.isNone && moment.date.isNone && moment.time.isNone then throw .illegible
  let ((year, month, day), moment) ← moment.dated
  let moment := { moment with time := some (0, 0, 0), number := none, zone := 0, instant := none }
  match name with
  | "year" => return { moment with date := some (year, 1, 1) }
  | "month" => return { moment with date := some (year, month, 1) }
  | "day" => return { moment with date := some (year, month, day) }
  | _ => throw .illegible

def numberLength (cs : List Char) : Nat :=
  let rec go (n : Nat) : List Char → Nat
    | [] => n
    | c :: rest =>
      let isYear := c == '-' && (n == 5 || n == 6) && (takeNumber? (n - 1) 0 14712 (cs.drop 1)).isSome
      if c == ':' || Cell.isNumeralBlank c || isYear then n else go (n + 1) rest
  go 1 (cs.drop 1)

def add (moment : Moment) (cs : List Char) : Except NoMoment Moment := do
  let length := numberLength cs
  let isSigned := cs.head? = some '+' ∨ cs.head? = some '-'
  let some units := units? (cs.take length) | throw .illegible
  let isBack := cs.head? = some '-'
  match cs[length]? with
  | some '-' => if isSigned then moment.addDate isBack (cs.drop 1) (length - 1) else throw .illegible
  | some ':' => moment.addTime isBack (if isSigned then cs.drop 1 else cs)
  | _ =>
    let name := (skipBlanks (cs.drop length)).map Char.toLower
    if name.length < 3 ∨ 10 < name.length then throw .illegible
    moment.addSpan units (String.ofList (if name.getLast? = some 's' then name.dropLast else name))

/-- Changes a moment as a text says. Some changes have to be the first one. -/
def change (moment : Moment) (isFirst : Bool) (cs : List Char) : Except NoMoment Moment :=
  let word := String.ofList (cs.map Char.toLower)
  let afterBlank (count : Nat) : String := String.ofList ((cs.map Char.toLower).drop count)
  match word with
  | "subsec" | "subsecond" => .ok { moment with isFine := true }
  | "ceiling" => do
    let (instant, moment) ← moment.settled
    return { moment.withInstant instant with excess := 0 }
  | "floor" => do
    let (instant, moment) ← moment.settled
    return moment.withInstant (instant - moment.excess * 86400000)
  | "auto" =>
    if !isFirst then .error .illegible else
    match moment.number, moment.instant with
    | some units, none =>
      if -210866760000 * Double.unitsOfOne ≤ units ∧ units ≤ 253402300799 * Double.unitsOfOne then
        .ok { moment.withInstant (instantOfSeconds units) with number := none }
      else .ok moment
    | _, _ => .ok { moment with number := none }
  | "julianday" =>
    if isFirst ∧ moment.instant.isSome ∧ moment.number.isSome then .ok { moment with number := none }
    else .error .illegible
  | "unixepoch" =>
    match moment.number with
    | none => .error .illegible
    | some units =>
      let instant := instantOfSeconds units
      if isFirst ∧ 0 ≤ units * 1000 + 210866760000000 * Double.unitsOfOne ∧ instant ≤ lastInstant then
        .ok { moment.withInstant instant with number := none }
      else .error .illegible
  | "localtime" | "utc" => .error .present
  | _ =>
    if word.startsWith "weekday " then
      match units? (cs.drop 8) with
      | none => .error .illegible
      | some units =>
        if 0 ≤ units ∧ units < 7 * Double.unitsOfOne ∧ units % Double.unitsOfOne = 0 then
          moment.toWeekday (units / Double.unitsOfOne)
        else .error .illegible
    else if word.startsWith "start of " then moment.toStart (afterBlank 9)
    else if cs.head?.any fun c => c.isDigit || c == '+' || c == '-' then moment.add cs
    else .error .illegible

def changes (moment : Moment) (isFirst : Bool) : List Cell → Except NoMoment Moment
  | [] => .ok moment
  | cell :: rest => do
    let some cs := cell.characters? | throw .illegible
    (← moment.change isFirst (cs.takeWhile (· != '\x00'))).changes false rest

def ofCells (cells : List Cell) : Except NoMoment (Int × Moment) := do
  let moment ← match cells.head? with
    | none => throw .present
    | some (.integer value) => pure (ofNumber (Cell.integer value).toReal.units)
    | some (.real negative rank) => pure (ofNumber (Cell.real negative rank).units)
    | some cell =>
      let some cs := cell.characters? | throw .illegible
      read (cs.takeWhile (· != '\x00'))
  let (instant, moment) ← (← moment.changes true (cells.drop 1)).settled
  if instant < 0 ∨ lastInstant < instant then throw .illegible
  let isLate := cells.length = 1 ∧ moment.date.any fun (_, _, day) => 28 < day
  return (instant, if isLate then { moment with date := none } else moment)

def padded (width : Nat) (value : Int) : List Char :=
  if value < 0 then '-' :: paddedDigits (width - 1) value.natAbs else paddedDigits width value.natAbs

def blankPadded (width : Nat) (value : Nat) : List Char := (decimalDigits value).leftpad width ' '

def dateText (date : Int × Int × Int) : List Char :=
  let (year, month, day) := date
  (if year < 0 then ['-'] else []) ++ paddedDigits 4 year.natAbs ++ '-' :: padded 2 month ++ '-' :: padded 2 day

def fractionText (milliseconds : Nat) : List Char :=
  paddedDigits 2 (milliseconds / 1000) ++ '.' :: paddedDigits 3 (milliseconds % 1000)

def timeText (isFine : Bool) (time : Nat × Nat × Nat) : List Char :=
  let (hour, minute, nanoseconds) := time
  let ms := milliseconds nanoseconds
  paddedDigits 2 hour ++ ':' :: paddedDigits 2 minute ++ ':' ::
    (if isFine then paddedDigits 2 (ms / 1000 % 100) ++ '.' :: paddedDigits 3 (ms % 1000)
      else paddedDigits 2 (nanoseconds / 1000000000))

def secondsOf (instant : Int) : Int := instant / 1000 - 210866760000

/-- The days from the first day of the year to that of a moment with a date and a time of the day. -/
def dayOfYear (instant : Int) (date : Int × Int × Int) (time : Nat × Nat × Nat) : Int :=
  let (hour, minute, nanoseconds) := time
  let start := startOfDay date.1 1 1 + hour * 3600000 + minute * 60000 + milliseconds nanoseconds
  (instant - start + 43200000) / 86400000

def daysAfterMonday (instant : Int) : Int := (instant + 43200000) / 86400000 % 7

def daysAfterSunday (instant : Int) : Int := (instant + 129600000) / 86400000 % 7

def letterText? (isFine : Bool) (instant : Int) (date : Int × Int × Int) (time : Nat × Nat × Nat) (letter : Char) :
    Option (List Char) :=
  let (year, month, day) := date
  let (hour, minute, nanoseconds) := time
  let hourOfTwelve := if 12 < hour then hour - 12 else if hour = 0 then 12 else hour
  let thursday := instant + (3 - daysAfterMonday instant) * 86400000
  let dayOfYear := dayOfYear instant date time
  match letter with
  | 'd' => some (padded 2 day)
  | 'e' => some (blankPadded 2 day.toNat)
  | 'f' => some (fractionText (min (milliseconds nanoseconds) 59999))
  | 'F' => some (padded 4 year ++ '-' :: padded 2 month ++ '-' :: padded 2 day)
  | 'G' => some (padded 4 (dateOfInstant thursday).1)
  | 'g' => some (padded 2 (Int.tmod (dateOfInstant thursday).1 100))
  | 'H' => some (paddedDigits 2 hour)
  | 'k' => some (blankPadded 2 hour)
  | 'I' => some (paddedDigits 2 hourOfTwelve)
  | 'l' => some (blankPadded 2 hourOfTwelve)
  | 'j' => some (padded 3 (dayOfYear + 1))
  | 'J' =>
    match Cell.realOfRatio instant 86400000 with
    | .real negative rank =>
      some (Template.realText { Template.plainField with precision := some 16 } .general false negative rank)
    | _ => none
  | 'm' => some (padded 2 month)
  | 'M' => some (paddedDigits 2 minute)
  | 'p' => some (if 12 ≤ hour then ['P', 'M'] else ['A', 'M'])
  | 'P' => some (if 12 ≤ hour then ['p', 'm'] else ['a', 'm'])
  | 'R' => some (paddedDigits 2 hour ++ ':' :: paddedDigits 2 minute)
  | 's' =>
    if isFine then
      let ms := instant - 210866760000000
      let sign := if ms < 0 then ['-'] else []
      some (sign ++ decimalDigits (ms.natAbs / 1000) ++ '.' :: paddedDigits 3 (ms.natAbs % 1000))
    else some (intDigits (secondsOf instant))
  | 'S' => some (paddedDigits 2 (nanoseconds / 1000000000))
  | 'T' => some (timeText false time)
  | 'u' => some (decimalDigits (if daysAfterSunday instant = 0 then 7 else (daysAfterSunday instant).toNat))
  | 'w' => some (decimalDigits (daysAfterSunday instant).toNat)
  | 'U' => some (padded 2 ((dayOfYear - daysAfterSunday instant + 7) / 7))
  | 'V' =>
    some (padded 2 (Moment.dayOfYear thursday (dateOfInstant thursday) time / 7 + 1))
  | 'W' => some (padded 2 ((dayOfYear - daysAfterMonday instant + 7) / 7))
  | 'Y' => some (padded 4 year)
  | '%' => some ['%']
  | _ => none

/-- Fills a moment into a template. A letter that stands for nothing leaves nothing of it. -/
def fill? (letterText? : Char → Option (List Char)) : List Char → Option (List Char)
  | '%' :: letter :: rest => do return (← letterText? letter) ++ (← fill? letterText? rest)
  | ['%'] => none
  | c :: rest => (fill? letterText? rest).map (c :: ·)
  | [] => some []

/-- The last moment like `other`, counted from its year and month, that does not lie behind `instant`, and by how many
months it lies before that. With `isBack` everything is the other way round. A bound says how many steps it can take. -/
def approach (isBack : Bool) (instant : Int) (time : Nat × Nat × Nat) (bound : Nat) (months : Int)
    (date : Int × Int × Int) : Int × Int :=
  let (year, month, day) := date
  let (hour, minute, nanoseconds) := time
  let other := startOfDay year month day + hour * 3600000 + minute * 60000 + milliseconds nanoseconds
  match bound with
  | 0 => (months, other)
  | bound + 1 =>
    if if isBack then other < instant else instant < other then
      approach isBack instant time bound (months - 1) (addMonths (if isBack then 1 else -1) date)
    else (months, other)

def difference (a b : Int × Moment) : Except NoMoment (List Char) := do
  let ((y, m, _), _) ← a.2.dated
  let ((y', m', day), b') ← b.2.dated
  let (time, _) ← b'.timed
  let isBack := decide (a.1 < b.1)
  let months := if isBack then (12 * y' + m') - (12 * y + m) else (12 * y + m) - (12 * y' + m')
  let (months, start) := approach isBack a.1 time 3 months (y, m, day)
  let rest := (if isBack then start - a.1 else a.1 - start) + 148699540800000
  let (_, _, days) := dateOfInstant rest
  let ms := ((rest + 43200000) % 86400000).toNat
  return (if isBack then '-' else '+') :: padded 4 (Int.tdiv months 12) ++ '-' :: padded 2 (Int.tmod months 12) ++
    '-' :: padded 2 (days - 1) ++ ' ' :: paddedDigits 2 (ms / 3600000) ++ ':' :: paddedDigits 2 (ms / 60000 % 60) ++
    ':' :: fractionText (ms % 60000)

def compute (name : String) (cells : List Cell) : Except NoMoment Cell := do
  let ofChars (cs : List Char) : Cell := .ofString (String.ofList cs)
  match name, cells with
  | "timediff", [a, b] => return ofChars (← difference (← ofCells [a]) (← ofCells [b]))
  | "strftime", [] => return .null
  | "strftime", template :: cells =>
    let some template := template.characters? | return .null
    let (instant, moment) ← ofCells cells
    let (date, moment) ← moment.dated
    let (time, moment) ← moment.timed
    let filled := fill? (letterText? moment.isFine instant date time) (template.takeWhile (· != '\x00'))
    return (filled.map ofChars).getD .null
  | _, cells =>
    let (instant, moment) ← ofCells cells
    match name with
    | "julianday" => return .realOfRatio instant 86400000
    | "unixepoch" =>
      return if moment.isFine then .realOfRatio (instant - 210866760000000) 1000 else .integer (secondsOf instant)
    | "date" => return ofChars (dateText (← moment.dated).1)
    | "time" => return ofChars (timeText moment.isFine (← moment.timed).1)
    | _ => return ofChars (dateText (← moment.dated).1 ++ ' ' :: timeText moment.isFine (← moment.timed).1)

/-- The values of a function with a moment in place of the present, which stands where no moment is given. -/
def atPresent (present : Cell) (name : String) (cells : List Cell) : List Cell :=
  let isPresent (cell : Cell) : Bool := cell.characters?.any fun cs => lowerAscii (String.ofList cs) == "now"
  let replace (cell : Cell) : Cell := if isPresent cell then present else cell
  match name, cells with
  | "timediff", cells => cells.map replace
  | "strftime", template :: cell :: rest => template :: replace cell :: rest
  | "strftime", [template] => [template, present]
  | "strftime", [] => []
  | _, [] => [present]
  | _, cell :: rest => replace cell :: rest

def functions : List String := ["date", "time", "datetime", "julianday", "unixepoch", "strftime", "timediff"]

/-- The value of a function on moments, unless it is none. What cannot be read is null. -/
def call? (name : String) (cells : List Cell) : Option (Except Obstacle Cell) :=
  if !functions.contains name then none
  else match compute name cells with
    | .ok cell => some (.ok cell)
    | .error .illegible => some (.ok .null)
    | .error .present => some (.error (.changing name))

end Moment

end InspectionForms
