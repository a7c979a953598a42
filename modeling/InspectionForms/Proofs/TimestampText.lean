import InspectionForms.Proofs.CalendarDays
import InspectionForms.Proofs.NumberText
import Mathlib.Data.List.DropRight
import Mathlib.Tactic.IntervalCases

namespace InspectionForms

/-- The number stands there in so many digits. -/
structure IsNumeral (width n : Nat) (cs : List Char) : Prop where
  length : cs.length = width
  value : naturalOfDigits? cs = some n

theorem isNumeral_paddedDigits {width n : Nat} (pos : 0 < width) (fits : n < 10 ^ width) :
    IsNumeral width n (paddedDigits width n) where
  length := by
    have short := (Nat.length_toDigits_le_iff (by decide) pos).mpr fits
    rw [paddedDigits, List.length_leftpad]
    exact Nat.max_eq_left short
  value := by
    refine naturalOfDigits?_eq_some_iff.mpr ⟨?_, fun c => isDigit_of_mem_paddedDigits, ?_⟩
    · rw [paddedDigits, List.leftpad]
      exact List.append_ne_nil_of_right_ne_nil _ (decimalDigits_ne_nil n)
    · rw [paddedDigits, List.leftpad, Nat.ofDigitChars_append, Nat.ofDigitChars_replicate_zero, Nat.mul_zero]
      exact Nat.ofDigitChars_toDigits (by decide) (by decide)

theorem IsNumeral.unique {width n m : Nat} {cs : List Char} (h : IsNumeral width n cs) (h' : IsNumeral width m cs) :
    n = m :=
  Option.some.inj (h.value.symm.trans h'.value)

/-- How thousandths are written behind the seconds: not at all when there are none, and never with a zero at the end. -/
inductive ThousandthsWritten : Nat → List Char → Prop
  | none : ThousandthsWritten 0 []
  | digits {ds : List Char} {n : Nat} : ds.length ≤ 3 → ds.getLast? ≠ some '0' → naturalOfDigits? ds = some n →
      ThousandthsWritten (n * 10 ^ (3 - ds.length)) ('.' :: ds)

theorem ThousandthsWritten.unique {n m : Nat} {cs : List Char} (h : ThousandthsWritten n cs)
    (h' : ThousandthsWritten m cs) : n = m := by
  cases h with
  | none =>
    cases h'
    rfl
  | digits _ _ value =>
    cases h' with
    | digits _ _ value' => rw [Option.some.inj (value.symm.trans value')]

/-- Zeros at the end of a numeral are factors of ten. -/
theorem ofDigitChars_rdropWhile (cs : List Char) :
    Nat.ofDigitChars 10 cs 0 = Nat.ofDigitChars 10 (cs.rdropWhile (· == '0')) 0 *
      10 ^ (cs.length - (cs.rdropWhile (· == '0')).length) := by
  have split := List.rdropWhile_append_rtakeWhile (p := (· == '0')) (l := cs)
  have zeros : cs.rtakeWhile (· == '0') = List.replicate (cs.rtakeWhile (· == '0')).length '0' :=
    List.eq_replicate_iff.mpr ⟨rfl, fun c member => by simpa using List.mem_rtakeWhile_imp member⟩
  have length := congrArg List.length split
  rw [List.length_append] at length
  conv_lhs => rw [← split, zeros, Nat.ofDigitChars_append, Nat.ofDigitChars_replicate_zero]
  rw [Nat.mul_comm, ← length, Nat.add_sub_cancel_left]

/-- A numeral that does not end in zero is no multiple of ten. -/
theorem ofDigitChars_mod_ten {cs : List Char} (nonempty : cs ≠ []) (digits : ∀ c ∈ cs, c.isDigit)
    (last : cs.getLast nonempty ≠ '0') : Nat.ofDigitChars 10 cs 0 % 10 ≠ 0 := by
  obtain ⟨low, high⟩ := Char.isDigit_iff_toNat.mp (digits _ (List.getLast_mem nonempty))
  have notZero : (cs.getLast nonempty).toNat ≠ '0'.toNat := fun same => last (Char.toNat_inj.mp same)
  rw [← List.dropLast_append_getLast nonempty, Nat.ofDigitChars_append, Nat.ofDigitChars_cons, Nat.ofDigitChars_nil]
  simp only [Char.reduceToNat] at low high notZero ⊢
  omega

/-- Of a time to the millisecond, the zeros at the end are at least six of the nine digits. -/
theorem thousandthsWritten_trimmed {ms : Nat} (fits : ms < 1000) {ds : List Char}
    (trimmed : ((paddedDigits 9 (ms * 1000000)).reverse.dropWhile (· == '0')).reverse = ds) :
    ThousandthsWritten ms (if ds.isEmpty then [] else '.' :: ds) := by
  rw [← List.rdropWhile] at trimmed
  have numeral : IsNumeral 9 (ms * 1000000) (paddedDigits 9 (ms * 1000000)) :=
    isNumeral_paddedDigits (by decide) (by omega)
  obtain ⟨-, -, value⟩ := naturalOfDigits?_eq_some_iff.mp numeral.value
  have inside : ds <+: paddedDigits 9 (ms * 1000000) := trimmed ▸ List.rdropWhile_prefix _ _
  have length := inside.length_le
  rw [numeral.length] at length
  rw [ofDigitChars_rdropWhile, trimmed, numeral.length] at value
  rcases eq_or_ne ds [] with rfl | nonempty
  · rw [Nat.ofDigitChars_nil, Nat.zero_mul] at value
    obtain rfl : ms = 0 := by omega
    exact .none
  · have digits : ∀ c ∈ ds, c.isDigit := fun c member => isDigit_of_mem_paddedDigits (inside.mem member)
    have last : ds.getLast nonempty ≠ '0' := by
      subst trimmed
      simpa using List.rdropWhile_last_not _ _ nonempty
    have notTen := ofDigitChars_mod_ten nonempty digits last
    -- With a fourth digit there are fewer than six zeros behind, and the digits are a multiple of ten.
    have short : ds.length ≤ 3 := by
      by_contra long
      interval_cases ds.length <;> omega
    have number : ms = Nat.ofDigitChars 10 ds 0 * 10 ^ (3 - ds.length) := by
      interval_cases ds.length <;> omega
    rw [if_neg (by simpa using nonempty), number]
    refine .digits short ?_ (naturalOfDigits?_eq_some_iff.mpr ⟨nonempty, digits, rfl⟩)
    rw [List.getLast?_eq_some_getLast nonempty]
    exact fun same => last (Option.some.inj same)

namespace Date

def WrittenAs (date : Date) (cs : List Char) : Prop :=
  ∃ year month day, IsNumeral 4 date.year year ∧ IsNumeral 2 date.month month ∧ IsNumeral 2 date.day day ∧
    cs = year ++ '-' :: month ++ '-' :: day

theorem WrittenAs.length {date : Date} {cs : List Char} (h : date.WrittenAs cs) : cs.length = 10 := by
  obtain ⟨_, _, _, year, month, day, rfl⟩ := h
  simp only [List.length_append, List.length_cons, year.length, month.length, day.length]

theorem WrittenAs.unique {date other : Date} {cs : List Char} (h : date.WrittenAs cs) (h' : other.WrittenAs cs) :
    date = other := by
  obtain ⟨_, _, _, year, month, day, rfl⟩ := h
  obtain ⟨_, _, _, year', month', day', same⟩ := h'
  obtain ⟨front, dayText⟩ := List.append_inj' same (by simp only [List.length_cons, day.length, day'.length])
  obtain ⟨yearText, monthText⟩ :=
    List.append_inj' front (by simp only [List.length_cons, month.length, month'.length])
  obtain rfl := yearText
  obtain rfl := List.tail_eq_of_cons_eq monthText
  obtain rfl := List.tail_eq_of_cons_eq dayText
  exact Date.ext (year.unique year') (month.unique month') (day.unique day')

theorem Valid.writtenAs_text {date : Date} (valid : date.Valid) (named : date.year ≤ 9999) :
    date.WrittenAs date.text := by
  have month := valid.month_le
  have day : date.day ≤ 31 := valid.day_le.trans (monthLength_le _ _)
  exact ⟨_, _, _, isNumeral_paddedDigits (by decide) (by omega), isNumeral_paddedDigits (by decide) (by omega),
    isNumeral_paddedDigits (by decide) (by omega), rfl⟩

end Date

/-- A time of day to the millisecond. -/
@[ext]
structure TimeOfDay where
  hour : Nat
  minute : Nat
  second : Nat
  millisecond : Nat
  deriving DecidableEq, Repr

namespace TimeOfDay

/-- A time that the clock shows. -/
structure Valid (time : TimeOfDay) : Prop where
  hour_lt : time.hour < 24
  minute_lt : time.minute < 60
  second_lt : time.second < 60
  millisecond_lt : time.millisecond < 1000

/-- The milliseconds from midnight to the time. -/
def sinceMidnight (time : TimeOfDay) : Nat :=
  ((time.hour * 60 + time.minute) * 60 + time.second) * 1000 + time.millisecond

def WrittenAs (time : TimeOfDay) (cs : List Char) : Prop :=
  ∃ hour minute second fraction, IsNumeral 2 time.hour hour ∧ IsNumeral 2 time.minute minute ∧
    IsNumeral 2 time.second second ∧ ThousandthsWritten time.millisecond fraction ∧
    cs = hour ++ ':' :: minute ++ ':' :: second ++ fraction

variable {time other : TimeOfDay} {cs : List Char}

theorem WrittenAs.unique (h : time.WrittenAs cs) (h' : other.WrittenAs cs) : time = other := by
  obtain ⟨_, _, _, _, hour, minute, second, fraction, rfl⟩ := h
  obtain ⟨_, _, _, _, hour', minute', second', fraction', same⟩ := h'
  obtain ⟨clock, fractionText⟩ := List.append_inj same (by
    simp only [List.length_append, List.length_cons, hour.length, hour'.length, minute.length, minute'.length,
      second.length, second'.length])
  obtain ⟨front, secondText⟩ := List.append_inj' clock (by simp only [List.length_cons, second.length, second'.length])
  obtain ⟨hourText, minuteText⟩ :=
    List.append_inj' front (by simp only [List.length_cons, minute.length, minute'.length])
  obtain rfl := hourText
  obtain rfl := List.tail_eq_of_cons_eq minuteText
  obtain rfl := List.tail_eq_of_cons_eq secondText
  obtain rfl := fractionText
  exact TimeOfDay.ext (hour.unique hour') (minute.unique minute') (second.unique second') (fraction.unique fraction')

theorem Valid.sinceMidnight_lt (valid : time.Valid) : time.sinceMidnight < 86400000 := by
  obtain ⟨hour, minute, second, millisecond⟩ := valid
  rw [sinceMidnight]
  omega

theorem exists_sinceMidnight {ms : Nat} (inside : ms < 86400000) :
    ∃ time : TimeOfDay, time.Valid ∧ time.sinceMidnight = ms := by
  refine ⟨⟨ms / 3600000, ms / 60000 % 60, ms / 1000 % 60, ms % 1000⟩, ⟨?_, ?_, ?_, ?_⟩, ?_⟩
  all_goals simp only [sinceMidnight]; omega

/-- What the clock shows is found by division. -/
theorem Valid.shown (valid : time.Valid) :
    time.sinceMidnight / 3600000 = time.hour ∧ time.sinceMidnight / 60000 % 60 = time.minute ∧
      time.sinceMidnight / 1000 % 60 = time.second ∧ time.sinceMidnight % 1000 = time.millisecond := by
  obtain ⟨hour, minute, second, millisecond⟩ := valid
  rw [sinceMidnight]
  omega

theorem Valid.writtenAs_timeOfDayText (valid : time.Valid) :
    time.WrittenAs (timeOfDayText (time.sinceMidnight * 1000000)) := by
  obtain ⟨atHour, atMinute, atSecond, atFraction⟩ := valid.shown
  obtain ⟨hour, minute, second, millisecond⟩ := valid
  have scaled {n k : Nat} (scale : n = k * 1000000) :
      time.sinceMidnight * 1000000 / n = time.sinceMidnight / k := by
    rw [scale, Nat.mul_div_mul_right _ _ (by decide)]
  have fraction : time.sinceMidnight * 1000000 % 1000000000 = time.millisecond * 1000000 := by
    rw [← atFraction]
    exact Nat.mul_mod_mul_right 1000000 _ 1000
  rw [timeOfDayText, scaled (k := 3600000) rfl, scaled (k := 60000) rfl, scaled (k := 1000) rfl, fraction,
    atHour, atMinute, atSecond]
  exact ⟨_, _, _, _, isNumeral_paddedDigits (by decide) (by omega), isNumeral_paddedDigits (by decide) (by omega),
    isNumeral_paddedDigits (by decide) (by omega), thousandthsWritten_trimmed millisecond rfl, rfl⟩

end TimeOfDay

/-- A moment of UTC to the millisecond. -/
@[ext]
structure Instant where
  date : Date
  time : TimeOfDay
  deriving DecidableEq, Repr

namespace Instant

/-- A moment of the years that four digits can name. -/
structure Valid (instant : Instant) : Prop where
  date : instant.date.Valid
  year_le : instant.date.year ≤ 9999
  time : instant.time.Valid

/-- The milliseconds from the start of 1970 to the moment. -/
def unixTime (instant : Instant) : Int :=
  ((instant.date.dayNumber : Int) - (⟨1970, 1, 1⟩ : Date).dayNumber) * 86400000 + instant.time.sinceMidnight

def WrittenAs (instant : Instant) (cs : List Char) : Prop :=
  ∃ date time, instant.date.WrittenAs date ∧ instant.time.WrittenAs time ∧ cs = date ++ 'T' :: time ++ ['Z']

variable {instant other : Instant} {cs : List Char} {ms : Int}

theorem WrittenAs.unique (h : instant.WrittenAs cs) (h' : other.WrittenAs cs) : instant = other := by
  obtain ⟨_, _, date, time, rfl⟩ := h
  obtain ⟨_, _, date', time', same⟩ := h'
  obtain ⟨dateText, timeText⟩ := List.append_inj (List.append_cancel_right same) (date.length.trans date'.length.symm)
  obtain rfl := dateText
  obtain rfl := List.tail_eq_of_cons_eq timeText
  exact Instant.ext (date.unique date') (time.unique time')

theorem Valid.unixTime_bounds (valid : instant.Valid) :
    -62167219200000 ≤ instant.unixTime ∧ instant.unixTime < 253402300800000 := by
  have days := valid.date.dayNumber_lt_iff.mpr valid.year_le
  have time := valid.time.sinceMidnight_lt
  rw [unixTime, Date.dayNumber_epoch]
  omega

theorem exists_unixTime (start : -62167219200000 ≤ ms) (finish : ms < 253402300800000) :
    ∃ instant : Instant, instant.Valid ∧ instant.unixTime = ms := by
  obtain ⟨sinceYearZero, count⟩ := Int.eq_ofNat_of_zero_le (show 0 ≤ ms + 62167219200000 by omega)
  obtain ⟨date, validDate, days⟩ := Date.exists_dayNumber (sinceYearZero / 86400000)
  obtain ⟨time, validTime, sinceMidnight⟩ :=
    TimeOfDay.exists_sinceMidnight (Nat.mod_lt sinceYearZero (show 86400000 > 0 by decide))
  refine ⟨⟨date, time⟩, ⟨validDate, validDate.dayNumber_lt_iff.mp (by omega), validTime⟩, ?_⟩
  rw [unixTime, days, sinceMidnight, Date.dayNumber_epoch]
  omega

/-- From the first to the last millisecond of the years that four digits can name. -/
theorem exists_unixTime_iff : (∃ instant : Instant, instant.Valid ∧ instant.unixTime = ms) ↔
    -62167219200000 ≤ ms ∧ ms < 253402300800000 := by
  constructor
  · rintro ⟨instant, valid, rfl⟩
    exact valid.unixTime_bounds
  · rintro ⟨start, finish⟩
    exact exists_unixTime start finish

end Instant

theorem epochNanoseconds_eq {ms : Int} (range : InInt64 ms) : epochNanoseconds ms = ms * 1000000 := by
  obtain ⟨low, high⟩ := range
  exact Int.bmod_eq_of_le (by omega) (by omega)

theorem Instant.Valid.writtenAs_timestampText {instant : Instant} (valid : instant.Valid) :
    instant.WrittenAs (timestampText instant.unixTime).toList := by
  obtain ⟨start, finish⟩ := valid.unixTime_bounds
  have time := valid.time.sinceMidnight_lt
  have sinceYearZero : instant.unixTime * 1000000 + epochOffset =
      ((instant.date.dayNumber * 86400000 + instant.time.sinceMidnight) * 1000000 : Nat) := by
    rw [unixTime, Date.dayNumber_epoch, epochOffset]
    omega
  have day : (instant.date.dayNumber * 86400000 + instant.time.sinceMidnight) * 1000000 / nsPerDay =
      instant.date.dayNumber := by
    rw [nsPerDay]
    omega
  have rest : (instant.date.dayNumber * 86400000 + instant.time.sinceMidnight) * 1000000 % nsPerDay =
      instant.time.sinceMidnight * 1000000 := by
    rw [nsPerDay]
    omega
  have named : 0 ≤ instant.unixTime * 1000000 + epochOffset ∧ instant.unixTime * 1000000 + epochOffset < namedSpan := by
    rw [epochOffset, namedSpan]
    omega
  rw [timestampText, epochNanoseconds_eq ⟨by omega, by omega⟩]
  dsimp only
  rw [if_pos named, sinceYearZero, Int.toNat_natCast, day, rest, valid.date.ofDays_dayNumber, String.toList_ofList]
  exact ⟨_, _, valid.date.writtenAs_text valid.year_le, valid.time.writtenAs_timeOfDayText, rfl⟩

theorem timestampText_of_unnamed {ms : Int} (range : InInt64 ms)
    (unnamed : ¬ ∃ instant : Instant, instant.Valid ∧ instant.unixTime = ms) : timestampText ms = epochText := by
  rw [Instant.exists_unixTime_iff] at unnamed
  rw [timestampText, epochNanoseconds_eq range]
  refine if_neg fun named => unnamed ?_
  rw [epochOffset, namedSpan] at named
  omega

/-- Each time in the years that four digits can name is printed as its moment, and the text can be read as this moment
only, so different times have different texts. All other times have the text of the epoch. Scaled to nanoseconds, no
time that 64 bits hold leaves 128 bits. -/
theorem timestampText_exact {ms : Int} (range : InInt64 ms) :
    epochNanoseconds ms = ms * 1000000 ∧
      ((∃ instant : Instant, instant.Valid ∧ instant.unixTime = ms) ↔
        -62167219200000 ≤ ms ∧ ms < 253402300800000) ∧
      (∀ instant : Instant, instant.Valid → instant.unixTime = ms →
        (∀ read : Instant, read.WrittenAs (timestampText ms).toList ↔ read = instant) ∧
          ∀ other : Instant, other.Valid → timestampText other.unixTime = timestampText ms → other.unixTime = ms) ∧
      ((¬ ∃ instant : Instant, instant.Valid ∧ instant.unixTime = ms) → timestampText ms = epochText) := by
  refine ⟨epochNanoseconds_eq range, Instant.exists_unixTime_iff, ?_, timestampText_of_unnamed range⟩
  rintro instant valid rfl
  have written := valid.writtenAs_timestampText
  constructor
  · intro read
    constructor
    · exact fun readWritten => readWritten.unique written
    · rintro rfl
      exact written
  · intro other otherValid same
    have otherWritten := otherValid.writtenAs_timestampText
    rw [same] at otherWritten
    rw [otherWritten.unique written]

/-- The epoch itself has this text as its own. -/
example : timestampText 0 = epochText := by decide

/-- A leap day of a century before the epoch, whose thousandths begin and end with zeros. -/
def lateLeapDay : Instant := ⟨⟨1600, 2, 29⟩, ⟨23, 59, 59, 50⟩⟩

/-- The leap day is printed to the hundredth of its second, and the last time that 64 bits hold as the epoch. -/
theorem timestampText_exact_lateLeapDay :
    (InInt64 (-11670912000950) ∧ lateLeapDay.Valid ∧ lateLeapDay.unixTime = -11670912000950 ∧
      (∀ read : Instant, read.WrittenAs (timestampText (-11670912000950)).toList ↔ read = lateLeapDay) ∧
      timestampText (-11670912000950) = "1600-02-29T23:59:59.05Z") ∧
    InInt64 0x7fffffffffffffff ∧ timestampText 0x7fffffffffffffff = epochText := by
  constructor
  · have range : InInt64 (-11670912000950) := by decide
    have valid : lateLeapDay.Valid := ⟨by decide, by decide, ⟨by decide, by decide, by decide, by decide⟩⟩
    have time : lateLeapDay.unixTime = -11670912000950 := by
      rw [Instant.unixTime, Date.dayNumber_epoch, Date.dayNumber, Date.sum_yearLength]
      decide
    exact ⟨range, valid, time, ((timestampText_exact range).2.2.1 lateLeapDay valid time).1, by decide⟩
  · have range : InInt64 0x7fffffffffffffff := by decide
    obtain ⟨-, named, -, otherwise⟩ := timestampText_exact range
    exact ⟨range, otherwise fun inside => absurd (named.mp inside).2 (by decide)⟩

end InspectionForms
