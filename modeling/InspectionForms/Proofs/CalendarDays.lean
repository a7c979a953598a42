import InspectionForms.Timestamp
import Mathlib.Algebra.BigOperators.Intervals
import Mathlib.Algebra.Order.BigOperators.Group.Finset

namespace InspectionForms

/-- Every fourth year is a leap year, but of the centuries only every fourth. -/
def Leap (year : Nat) : Prop := 4 ∣ year ∧ (100 ∣ year → 400 ∣ year)

instance (year : Nat) : Decidable (Leap year) := inferInstanceAs (Decidable (_ ∧ _))

def yearLength (year : Nat) : Nat := if Leap year then 366 else 365

def monthLength (year month : Nat) : Nat :=
  match month with
  | 4 | 6 | 9 | 11 => 30
  | 2 => if Leap year then 29 else 28
  | _ => 31

theorem monthLength_le (year month : Nat) : monthLength year month ≤ 31 := by
  simp only [monthLength]
  split
  any_goals decide
  split <;> decide

namespace Date

/-- A date that the calendar has. -/
structure Valid (date : Date) : Prop where
  month_pos : 1 ≤ date.month
  month_le : date.month ≤ 12
  day_pos : 1 ≤ date.day
  day_le : date.day ≤ monthLength date.year date.month

instance (date : Date) : Decidable date.Valid :=
  decidable_of_iff
    ((1 ≤ date.month ∧ date.month ≤ 12) ∧ 1 ≤ date.day ∧ date.day ≤ monthLength date.year date.month)
    ⟨fun ⟨⟨a, b⟩, c, d⟩ => ⟨a, b, c, d⟩, fun ⟨a, b, c, d⟩ => ⟨⟨a, b⟩, c, d⟩⟩

/-- The days from 1 January of year 0 to the date, counted year by year and month by month. -/
def dayNumber (date : Date) : Nat :=
  ∑ year ∈ Finset.range date.year, yearLength year +
    ∑ month ∈ Finset.Ico 1 date.month, monthLength date.year month + (date.day - 1)

variable {date : Date} {year days : Nat}

theorem isLeapYear_iff : isLeapYear year ↔ Leap year := by
  simp only [isLeapYear, Leap, Bool.and_eq_true, Bool.or_eq_true, beq_iff_eq, bne_iff_ne]
  omega

theorem daysBeforeYear_succ (year : Nat) : daysBeforeYear (year + 1) = daysBeforeYear year + yearLength year := by
  simp only [yearLength, daysBeforeYear]
  -- The cases say which of the three quotients go up with the year.
  by_cases fourth : 4 ∣ year
  · by_cases century : 100 ∣ year
    · by_cases fourthCentury : 400 ∣ year
      · rw [if_pos ⟨fourth, fun _ => fourthCentury⟩]
        omega
      · rw [if_neg fun leap => fourthCentury (leap.2 century)]
        omega
    · rw [if_pos ⟨fourth, fun whole => absurd whole century⟩]
      omega
  · rw [if_neg fun leap => fourth leap.1]
    omega

theorem sum_yearLength (year : Nat) : ∑ earlier ∈ Finset.range year, yearLength earlier = daysBeforeYear year := by
  induction year with
  | zero => rfl
  | succ year ih => rw [Finset.sum_range_succ, ih, daysBeforeYear_succ]

theorem daysBeforeYear_strictMono : StrictMono daysBeforeYear := by
  refine strictMono_nat_of_lt_succ fun year => ?_
  have pos : 0 < yearLength year := by
    rw [yearLength]
    split <;> decide
  rw [daysBeforeYear_succ]
  omega

/-- Years begin less than two days off from what their average length says. -/
theorem daysBeforeYear_near (year : Nat) :
    146097 * year ≤ 400 * daysBeforeYear year + 400 ∧ 400 * daysBeforeYear year ≤ 146097 * year + 700 := by
  rw [daysBeforeYear]
  omega

theorem yearOfDay_spec (days : Nat) :
    daysBeforeYear (yearOfDay days) ≤ days ∧ days < daysBeforeYear (yearOfDay days + 1) := by
  have near := daysBeforeYear_near
  rw [yearOfDay]
  -- A second year before or behind the average one would start further off than `near` allows.
  generalize average : 400 * days / 146097 = year
  split
  · next early =>
    obtain ⟨earlier, rfl⟩ : ∃ earlier, year = earlier + 1 := by
      refine Nat.exists_eq_succ_of_ne_zero ?_
      rintro rfl
      exact absurd early (Nat.not_lt_zero _)
    have := near earlier
    rw [Nat.add_sub_cancel]
    exact ⟨by omega, early⟩
  · split
    · next late =>
      have := near (year + 1 + 1)
      exact ⟨late, by omega⟩
    · next onTime inTime => exact ⟨by omega, by omega⟩

theorem yearOfDay_eq (start : daysBeforeYear year ≤ days) (finish : days < daysBeforeYear (year + 1)) :
    yearOfDay days = year := by
  obtain ⟨spanStart, spanFinish⟩ := yearOfDay_spec days
  have notLater := daysBeforeYear_strictMono.lt_iff_lt.mp (spanStart.trans_lt finish)
  have notEarlier := daysBeforeYear_strictMono.lt_iff_lt.mp (start.trans_lt spanFinish)
  omega

theorem monthLengths_eq (year : Nat) : monthLengths year = (List.range' 1 12).map (monthLength year) := by
  simp only [monthLengths, isLeapYear_iff]
  rfl

theorem sum_monthLength (year : Nat) : ∑ month ∈ Finset.Ico 1 13, monthLength year month = yearLength year := by
  rw [yearLength]
  by_cases leap : Leap year <;> simp [Finset.sum_Ico_succ_top, monthLength, leap]

/-- A day is found in the month where its count comes to. -/
theorem locate_eq {length : Nat → Nat} {first count month day : Nat} (notBefore : first ≤ month)
    (before : month < first + count) (short : day < length month) :
    locate first ((List.range' first count).map length) (∑ earlier ∈ Finset.Ico first month, length earlier + day) =
      (month, day + 1) := by
  induction count generalizing first with
  | zero => omega
  | succ count ih =>
    rw [List.range'_succ, List.map_cons, locate]
    rcases notBefore.eq_or_lt with rfl | later
    · rw [Finset.Ico_self, Finset.sum_empty, Nat.zero_add, if_pos short]
    · rw [Finset.sum_eq_sum_Ico_succ_bot later, if_neg (by omega), Nat.add_assoc, Nat.add_sub_cancel_left]
      exact ih later (by omega)

/-- Each day before the end of the months is in one of them. -/
theorem exists_month {length : Nat → Nat} {first count : Nat}
    (inside : days < ∑ month ∈ Finset.Ico first (first + count), length month) :
    ∃ month day, first ≤ month ∧ month < first + count ∧ day < length month ∧
      days = ∑ earlier ∈ Finset.Ico first month, length earlier + day := by
  induction count with
  | zero => simp at inside
  | succ count ih =>
    rw [← Nat.add_assoc, Finset.sum_Ico_succ_top (by omega)] at inside
    by_cases early : days < ∑ month ∈ Finset.Ico first (first + count), length month
    · obtain ⟨month, day, notBefore, before, found⟩ := ih early
      exact ⟨month, day, notBefore, by omega, found⟩
    · exact ⟨first + count, days - ∑ month ∈ Finset.Ico first (first + count), length month, by omega, by omega,
        by omega, by omega⟩

/-- The days of a year are those of its dates. -/
theorem Valid.dayNumber_lt (valid : date.Valid) :
    daysBeforeYear date.year ≤ date.dayNumber ∧ date.dayNumber < daysBeforeYear (date.year + 1) := by
  have months : ∑ month ∈ Finset.Ico 1 (date.month + 1), monthLength date.year month ≤ yearLength date.year := by
    rw [← sum_monthLength]
    exact Finset.sum_le_sum_of_subset (Finset.Ico_subset_Ico_right (by have := valid.month_le; omega))
  rw [Finset.sum_Ico_succ_top valid.month_pos] at months
  have day := valid.day_le
  have pos := valid.day_pos
  rw [dayNumber, sum_yearLength, daysBeforeYear_succ]
  omega

theorem Valid.ofDays_dayNumber (valid : date.Valid) : ofDays date.dayNumber = date := by
  obtain ⟨start, finish⟩ := valid.dayNumber_lt
  have inYear : date.dayNumber - daysBeforeYear date.year =
      ∑ month ∈ Finset.Ico 1 date.month, monthLength date.year month + (date.day - 1) := by
    rw [dayNumber, sum_yearLength]
    omega
  have monthBound := valid.month_le
  have dayBound := valid.day_le
  have dayPos := valid.day_pos
  have found : locate 1 (monthLengths date.year) (date.dayNumber - daysBeforeYear date.year) =
      (date.month, date.day) := by
    rw [monthLengths_eq, inYear, locate_eq valid.month_pos (by omega) (by omega), Nat.sub_add_cancel dayPos]
  simp only [ofDays, yearOfDay_eq start finish, found]

theorem exists_dayNumber (days : Nat) : ∃ date : Date, date.Valid ∧ date.dayNumber = days := by
  obtain ⟨start, finish⟩ := yearOfDay_spec days
  have inside : days - daysBeforeYear (yearOfDay days) <
      ∑ month ∈ Finset.Ico 1 (1 + 12), monthLength (yearOfDay days) month := by
    rw [daysBeforeYear_succ] at finish
    rw [sum_monthLength]
    omega
  obtain ⟨month, day, pos, before, short, found⟩ := exists_month inside
  refine ⟨⟨yearOfDay days, month, day + 1⟩, ⟨pos, Nat.lt_succ_iff.mp before, Nat.succ_pos _, short⟩, ?_⟩
  simp only [dayNumber, sum_yearLength, Nat.add_sub_cancel]
  omega

/-- The years that four digits can name end after so many days. -/
theorem Valid.dayNumber_lt_iff (valid : date.Valid) : date.dayNumber < 3652425 ↔ date.year ≤ 9999 := by
  obtain ⟨start, finish⟩ := valid.dayNumber_lt
  have last : daysBeforeYear 10000 = 3652425 := by decide
  rw [← last]
  constructor
  · intro early
    have := daysBeforeYear_strictMono.lt_iff_lt.mp (start.trans_lt early)
    omega
  · intro named
    exact finish.trans_le (daysBeforeYear_strictMono.monotone (by omega))

theorem dayNumber_epoch : (⟨1970, 1, 1⟩ : Date).dayNumber = 719528 := by
  rw [dayNumber, sum_yearLength]
  rfl

end Date

end InspectionForms
