import InspectionForms.Database.Moment
import InspectionForms.Proofs.CalendarDays
import Mathlib.Tactic.IntervalCases

namespace InspectionForms

/-- The days of a year before a month, as they are counted from March on. -/
theorem sum_monthLength_fromMarch {year month : Nat} (positive : 1 ≤ month) (least : month ≤ 12) :
    ((∑ earlier ∈ Finset.Ico 1 month, monthLength year earlier : Nat) : Int) =
      if month ≤ 2 then 306001 * ((month : Int) + 12 + 1) / 10000 - 428
      else 306001 * ((month : Int) + 1) / 10000 - 63 + if Leap year then 1 else 0 := by
  by_cases leap : Leap year <;> interval_cases month <;> simp [Finset.sum_Ico_succ_top, monthLength, leap]

theorem daysBeforeYear_fromMarch (year : Nat) :
    (Date.daysBeforeYear year : Int) = 36525 * ((year : Int) - 1 + 4716) / 100 - ((year : Int) - 1 + 4800) / 100 +
      ((year : Int) - 1 + 4800) / 100 / 4 - 1722117 := by
  have fourths : 36525 * ((year : Int) - 1 + 4716) / 100 =
      365 * ((year : Int) + 4715) + (((year + 3) / 4 : Nat) + 1178) := by omega
  have centuries : ((year : Int) - 1 + 4800) / 100 = ((year + 99) / 100 : Nat) + 47 := by omega
  have fourCenturies : (((year + 99) / 100 : Nat) + 47 : Int) / 4 = ((year + 399) / 400 : Nat) + 11 := by omega
  rw [fourths, centuries, fourCenturies, Date.daysBeforeYear]
  omega

theorem daysBeforeYear_succ_fromMarch (year : Nat) :
    (Date.daysBeforeYear (year + 1) : Int) = 36525 * ((year : Int) + 4716) / 100 - ((year : Int) + 4800) / 100 +
      ((year : Int) + 4800) / 100 / 4 - 1722117 := by
  rw [daysBeforeYear_fromMarch, Nat.cast_succ, add_sub_cancel_right]

/-- A year by its place among four centuries. -/
theorem exists_parts_of_year (year : Int) : ∃ fourCenturies centuries fours years : Int,
    year = 400 * fourCenturies + 100 * centuries + 4 * fours + years ∧ 0 ≤ centuries ∧ centuries ≤ 3 ∧ 0 ≤ fours ∧
      fours ≤ 24 ∧ 0 ≤ years ∧ years ≤ 3 :=
  ⟨year / 400, year % 400 / 100, year % 100 / 4, year % 4, by omega, by omega, by omega, by omega, by omega, by omega,
    by omega⟩

namespace Moment

/-- The calendar of moments counts the same days as that of timestamps. -/
theorem startOfDay_eq {date : Date} (valid : date.Valid) :
    startOfDay date.year date.month date.day = 86400000 * (date.dayNumber : Int) + 148699540800000 := by
  have months := @sum_monthLength_fromMarch date.year date.month valid.month_pos valid.month_le
  have positive := valid.day_pos
  rw [Date.dayNumber, Date.sum_yearLength, startOfDay]
  generalize ∑ month ∈ Finset.Ico 1 date.month, InspectionForms.monthLength date.year month = elapsed at months
  by_cases early : date.month ≤ 2
  · have years := daysBeforeYear_fromMarch date.year
    rw [if_pos early] at months
    rw [if_pos (by omega)]
    dsimp only
    omega
  · have years := daysBeforeYear_succ_fromMarch date.year
    rw [Date.daysBeforeYear_succ, yearLength] at years
    rw [if_neg early] at months
    rw [if_neg (by omega)]
    dsimp only
    by_cases leap : Leap date.year
    · rw [if_pos leap] at months years
      omega
    · rw [if_neg leap] at months years
      omega

/-- The months of a year that begins in March have the numbers from 3 to 14. -/
theorem dateOfInstant_fromMarch {year month day milliseconds : Int} (least : 3 ≤ month) (most : month ≤ 14)
    (positive : 1 ≤ day) (short : 306001 * (month + 1) / 10000 + day ≤ 306001 * (month + 2) / 10000)
    (leapDay : month = 14 → day ≤ 29 ∧ (day = 29 → year % 4 = 3 ∧ (year % 100 = 99 → year % 400 = 399)))
    (since : 0 ≤ milliseconds) (within : milliseconds < 86400000) :
    dateOfInstant ((2 * (36525 * (year + 4716) / 100 + 306001 * (month + 1) / 10000 + day + 38 - (year + 4800) / 100 +
      (year + 4800) / 100 / 4) - 3049) * 43200000 + milliseconds) =
      if month < 13 then (year, month, day) else (year + 1, month - 12, day) := by
  obtain ⟨q, c, f, y, rfl, cl, cm, fl, fm, yl, ym⟩ := exists_parts_of_year year
  have fourths : 36525 * (400 * q + 100 * c + 4 * f + y + 4716) / 100 =
      365 * (400 * q + 100 * c + 4 * f + y + 4716) + 100 * q + 25 * c + f + 1179 := by omega
  have centuries : (400 * q + 100 * c + 4 * f + y + 4800) / 100 = 4 * q + c + 48 := by omega
  have fourCenturies : (4 * q + c + 48) / 4 = q + 12 := by omega
  rw [fourths, centuries, fourCenturies]
  unfold dateOfInstant
  dsimp only
  generalize months : 306001 * (month + 1) / 10000 = elapsed at *
  have days : ((2 * (365 * (400 * q + 100 * c + 4 * f + y + 4716) + 100 * q + 25 * c + f + 1179 + elapsed + day + 38 -
      (4 * q + c + 48) + (q + 12)) - 3049) * 43200000 + milliseconds + 43200000) / 86400000 =
      146097 * q + 36524 * c + 1461 * f + 365 * y + elapsed + day + 1720997 := by omega
  -- Only a leap day is the 366th one from March on.
  have bounds : 123 ≤ elapsed + day ∧ elapsed + day ≤ 488 ∧ (elapsed + day = 488 → y = 3 ∧ (f = 24 → c = 3)) := by
    interval_cases month <;> simp at months short leapDay <;> omega
  have century : (4 * (146097 * q + 36524 * c + 1461 * f + 365 * y + elapsed + day + 1720997) + 128179) / 146097 =
      4 * q + c + 48 := by omega
  have quarter : (4 * q + c + 48 - 52 + 100) / 4 = q + 24 := by omega
  have years : (100 * (146097 * q + 36524 * c + 1461 * f + 365 * y + elapsed + day + 1720997 + 1 +
      (4 * q + c + 48 - 52) - (q + 24) + 25 + 1524) - 12210) / 36525 = 400 * q + 100 * c + 4 * f + y + 4716 := by omega
  rw [days, century, quarter, years, fourths]
  have rest : 146097 * q + 36524 * c + 1461 * f + 365 * y + elapsed + day + 1720997 + 1 + (4 * q + c + 48 - 52) -
      (q + 24) + 25 + 1524 - (365 * (400 * q + 100 * c + 4 * f + y + 4716) + 100 * q + 25 * c + f + 1179) =
      elapsed + day := by omega
  have inMonth : (elapsed + day) * 10000 / 306001 = month + 1 := by
    interval_cases month <;> simp at months short <;> omega
  rw [rest, inMonth, months]
  split <;> split <;> split <;> simp only [Prod.mk.injEq] <;> omega

/-- A moment shows the date on which it lies. -/
theorem dateOfInstant_startOfDay {date : Date} (valid : date.Valid) {milliseconds : Int} (since : 0 ≤ milliseconds)
    (within : milliseconds < 86400000) :
    dateOfInstant (startOfDay date.year date.month date.day + milliseconds) =
      ((date.year : Int), (date.month : Int), (date.day : Int)) := by
  obtain ⟨year, month, day⟩ := date
  obtain ⟨monthPos, monthLe, dayPos, dayLe⟩ := valid
  dsimp only at *
  rw [startOfDay]
  by_cases early : month ≤ 2
  · have short : 306001 * ((month : Int) + 12 + 1) / 10000 + day ≤ 306001 * ((month : Int) + 12 + 2) / 10000 := by
      have longest := monthLength_le year month
      interval_cases month
      · simp
        omega
      · have dayLe : day ≤ if Leap year then 29 else 28 := dayLe
        simp
        split at dayLe <;> omega
    have leapDay : (month : Int) + 12 = 14 → (day : Int) ≤ 29 ∧ ((day : Int) = 29 →
        ((year : Int) - 1) % 4 = 3 ∧ (((year : Int) - 1) % 100 = 99 → ((year : Int) - 1) % 400 = 399)) := by
      intro same
      obtain rfl : month = 2 := by omega
      have dayLe : day ≤ if Leap year then 29 else 28 := dayLe
      split at dayLe
      · next leap =>
        unfold Leap at leap
        omega
      · omega
    have shown := dateOfInstant_fromMarch (by omega) (by omega) (by omega) short leapDay since within
    rw [if_neg (by omega)] at shown
    rw [if_pos (by omega)]
    dsimp only
    rw [shown, sub_add_cancel, add_sub_cancel_right]
  · have short : 306001 * ((month : Int) + 1) / 10000 + day ≤ 306001 * ((month : Int) + 2) / 10000 := by
      interval_cases month <;> simp [InspectionForms.monthLength] at early dayLe ⊢ <;> omega
    have leapDay : (month : Int) = 14 → (day : Int) ≤ 29 ∧ ((day : Int) = 29 →
        (year : Int) % 4 = 3 ∧ ((year : Int) % 100 = 99 → (year : Int) % 400 = 399)) := by omega
    have shown := dateOfInstant_fromMarch (by omega) (by omega) (by omega) short leapDay since within
    rw [if_pos (by omega)] at shown
    rw [if_neg (by omega)]
    exact shown

theorem monthLength_eq {date : Date} (valid : date.Valid) :
    monthLength date.year date.month = InspectionForms.monthLength date.year date.month := by
  obtain ⟨year, month, day⟩ := date
  have positive : 1 ≤ month := valid.month_pos
  have least : month ≤ 12 := valid.month_le
  have leaps : ((year : Int) % 4 = 0 ∧ ((year : Int) % 100 ≠ 0 ∨ (year : Int) % 400 = 0)) ↔ Leap year := by
    unfold Leap
    omega
  simp only [monthLength, leaps]
  by_cases leap : Leap year <;> interval_cases month <;> simp [InspectionForms.monthLength, leap]

/-- Only a day that its month does not have lies behind the end of it. -/
theorem withExcess_of_valid {moment : Moment} {date : Date} (valid : date.Valid)
    (dated : moment.date = some ((date.year : Int), (date.month : Int), (date.day : Int))) :
    moment.withExcess = { moment with excess := 0 } := by
  have inMonth := valid.day_le
  unfold withExcess
  rw [dated]
  dsimp only
  rw [monthLength_eq valid, max_eq_left (by omega)]

end Moment

end InspectionForms
