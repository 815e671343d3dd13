import AccountLedger.Timestamp
import Mathlib.Tactic.IntervalCases

/-!
The calendar: every day has one valid date, and the date gives the day back.
-/

namespace AccountLedger.CivilDate

/-- A day of the 400 years from a March by its century, by the cycle of four years in it, and by
its place there. Only the last cycle of the last century is as long as 25 full ones. -/
structure DayOfEra (day century cycle place : Nat) : Prop where
  century_le : century ≤ 3
  cycle_le : cycle ≤ 24
  place_le : place ≤ 1460
  day_eq : day = 36524 * century + 1461 * cycle + place
  last : cycle = 24 → place = 1460 → century = 3

theorem exists_dayOfEra {day : Nat} (bounded : day < 146097) :
    ∃ century cycle place, DayOfEra day century cycle place := by
  have century : ∃ century ≤ 3, 36524 * century ≤ day ∧
      (day < 36524 * (century + 1) ∨ century = 3 ∧ day = 146096) := by
    by_cases last : day = 146096
    · exact ⟨3, by omega, by omega, Or.inr ⟨rfl, last⟩⟩
    · exact ⟨day / 36524, by omega, by omega, by omega⟩
  obtain ⟨century, bound, starts, ends⟩ := century
  exact ⟨century, (day - 36524 * century) / 1461, (day - 36524 * century) % 1461, bound, by omega,
    by omega, by omega, by omega⟩

def yearOfEra (day : Nat) : Nat := (day - day / 1460 + day / 36524 - day / 146096) / 365

def dayOfYear (day : Nat) : Nat :=
  day - (365 * yearOfEra day + yearOfEra day / 4 - yearOfEra day / 100)

variable {shifted century cycle place : Nat}

/-- The years of a cycle have 365 days, but the last of them takes what is left. -/
theorem DayOfEra.year (split : DayOfEra shifted century cycle place) :
    yearOfEra shifted = 100 * century + 4 * cycle + min (place / 365) 3 := by
  obtain ⟨centuries, cycles, places, rfl, last⟩ := split
  -- Dividing by 1460 counts the cycles, but the days that centuries and cycles have beyond
  -- multiples of 1460 may carry over on the last days of a cycle.
  have carry : (36524 * century + 1461 * cycle + place) / 1460 =
      25 * century + cycle + (24 * century + cycle + place) / 1460 := by
    omega
  have hundreds : (36524 * century + 1461 * cycle + place) / 36524 =
      century + (36524 * century + 1461 * cycle + place) / 146096 := by
    by_cases final : cycle = 24 ∧ place = 1460
    · have := last final.1 final.2
      omega
    · have shorter : 1461 * cycle + place < 36524 := by omega
      omega
  have days : 36524 * century + 1461 * cycle + place -
        (36524 * century + 1461 * cycle + place) / 1460 +
        (36524 * century + 1461 * cycle + place) / 36524 -
        (36524 * century + 1461 * cycle + place) / 146096 =
      365 * (100 * century + 4 * cycle) + (place - (24 * century + cycle + place) / 1460) := by
    omega
  rw [yearOfEra, days]
  omega

/-- The leap days before a year of the era. -/
theorem DayOfEra.leapDays (split : DayOfEra shifted century cycle place) :
    yearOfEra shifted / 4 = 25 * century + cycle ∧ yearOfEra shifted / 100 = century := by
  rw [split.year]
  obtain ⟨centuries, cycles, places, rfl, last⟩ := split
  omega

theorem DayOfEra.dayOfYear (split : DayOfEra shifted century cycle place) :
    dayOfYear shifted = place - 365 * min (place / 365) 3 := by
  obtain ⟨fourths, hundredths⟩ := split.leapDays
  rw [CivilDate.dayOfYear, fourths, hundredths, split.year, split.day_eq]
  omega

theorem DayOfEra.dayOfYear_le (split : DayOfEra shifted century cycle place) :
    CivilDate.dayOfYear shifted ≤ 365 := by
  have short := split.place_le
  rw [split.dayOfYear]
  omega

/-- The months from March on, of 31 and 30 days in turn but for two in a row of 31. -/
def monthFromMarch (day : Nat) : Nat := (5 * day + 2) / 153

def dayOfMonth (day : Nat) : Nat := day - (153 * monthFromMarch day + 2) / 5 + 1

def monthOf (day : Nat) : Nat :=
  if monthFromMarch day < 10 then monthFromMarch day + 3 else monthFromMarch day - 9

/-- The date of a day of the era. -/
def ofEra (era : Int) (day : Nat) : CivilDate :=
  let month := monthOf (CivilDate.dayOfYear day)
  let year := (yearOfEra day : Int) + era * 400
  ⟨if month ≤ 2 then year + 1 else year, month, dayOfMonth (CivilDate.dayOfYear day)⟩

theorem ofDays_eq (days : Int) :
    ofDays days = ofEra ((days + 719468) / 146097) ((days + 719468) % 146097).toNat := by
  have era : (days + 719468).fdiv 146097 = (days + 719468) / 146097 :=
    Int.fdiv_eq_ediv_of_nonneg _ (by decide)
  have day : days + 719468 - (days + 719468) / 146097 * 146097 = (days + 719468) % 146097 := by
    omega
  simp only [ofDays, era, day]
  rfl

theorem monthFromMarch_monthOf {day : Nat} (bounded : day ≤ 365) :
    (monthOf day + 9) % 12 = monthFromMarch day := by
  rw [monthOf, monthFromMarch]
  split <;> omega

theorem dayOfMonth_spec {day : Nat} :
    (153 * monthFromMarch day + 2) / 5 + dayOfMonth day - 1 = day := by
  rw [dayOfMonth, monthFromMarch]
  omega

theorem toDays_ofEra {era : Int} (split : DayOfEra shifted century cycle place) :
    (ofEra era shifted).toDays = era * 146097 + shifted - 719468 := by
  obtain ⟨fourths, hundredths⟩ := split.leapDays
  have year := split.year
  have dayOfYear := split.dayOfYear
  have placed := split.day_eq
  have shortPlace := split.place_le
  have cycles := split.cycle_le
  have centuries := split.century_le
  have month := monthFromMarch_monthOf split.dayOfYear_le
  have marchYear : (if (ofEra era shifted).month ≤ 2 then (ofEra era shifted).year - 1
      else (ofEra era shifted).year) = yearOfEra shifted + era * 400 := by
    simp only [ofEra]
    split <;> omega
  have floors : ∀ (n : Int) (d : Nat), n.fdiv d = n / d := fun n d =>
    Int.fdiv_eq_ediv_of_nonneg n (Int.natCast_nonneg d)
  have rest : (yearOfEra shifted + era * 400 - era * 400 : Int) = yearOfEra shifted := by omega
  have eraOf : (yearOfEra shifted + era * 400 : Int).fdiv 400 = era :=
    (floors _ 400).trans (by omega)
  rw [toDays]
  simp only [marchYear, eraOf, rest]
  have fourth : (yearOfEra shifted : Int).fdiv 4 = (yearOfEra shifted / 4 : Nat) := floors _ 4
  have hundredth : (yearOfEra shifted : Int).fdiv 100 = (yearOfEra shifted / 100 : Nat) :=
    floors _ 100
  rw [fourth, hundredth]
  simp only [ofEra, month, dayOfMonth_spec]
  omega

theorem exists_dayOfEra_emod (days : Int) :
    ∃ century cycle place, DayOfEra (days % 146097).toNat century cycle place :=
  exists_dayOfEra (by omega)

theorem toDays_ofDays (days : Int) : (ofDays days).toDays = days := by
  obtain ⟨century, cycle, place, split⟩ := exists_dayOfEra_emod (days + 719468)
  rw [ofDays_eq, toDays_ofEra split]
  omega

theorem monthFromMarch_le {day : Nat} (bounded : day ≤ 365) : monthFromMarch day ≤ 11 := by
  rw [monthFromMarch]
  omega

theorem monthOf_bounds {day : Nat} (bounded : day ≤ 365) :
    1 ≤ monthOf day ∧ monthOf day ≤ 12 := by
  have months := monthFromMarch_le bounded
  rw [monthOf]
  split <;> omega

theorem daysInMonth_le (year : Int) (month : Nat) : daysInMonth year month ≤ 31 := by
  rw [daysInMonth]
  split
  · split <;> decide
  · split <;> decide

/-- Only the last day of a leap year is more than the months of other years hold. -/
theorem dayOfMonth_le {day : Nat} {year : Int} (bounded : day ≤ 365)
    (leap : day = 365 → isLeapYear year = true) :
    dayOfMonth day ≤ daysInMonth year (monthOf day) := by
  have months := monthFromMarch_le bounded
  have starts : 153 * monthFromMarch day ≤ 5 * day + 2 ∧
      5 * day + 2 < 153 * (monthFromMarch day + 1) := by
    rw [monthFromMarch]
    omega
  rw [dayOfMonth, monthOf]
  interval_cases monthFromMarch day
  case «11» =>
    by_cases last : day = 365
    · simp [daysInMonth, leap last, last]
    · have : day - (153 * 11 + 2) / 5 + 1 ≤ 28 := by omega
      have short : 28 ≤ if isLeapYear year = true then 29 else 28 := by
        split <;> omega
      exact this.trans short
  all_goals
    simp [daysInMonth]
    omega

theorem isValid_ofEra {era : Int} (split : DayOfEra shifted century cycle place)
    (covered : (ofEra era shifted).inRange = true) : (ofEra era shifted).isValid = true := by
  have year := split.year
  have day := split.dayOfYear
  have shortPlace := split.place_le
  have cycles := split.cycle_le
  have last := split.last
  have withinYear := split.dayOfYear_le
  have leap : CivilDate.dayOfYear shifted = 365 → isLeapYear (ofEra era shifted).year = true := by
    intro longest
    have february : monthOf (CivilDate.dayOfYear shifted) = 2 := by
      rw [longest]
      decide
    simp [isLeapYear, ofEra, february]
    omega
  have months := monthOf_bounds withinYear
  have fits : (ofEra era shifted).day ≤
      daysInMonth (ofEra era shifted).year (ofEra era shifted).month :=
    dayOfMonth_le withinYear leap
  have positive : 1 ≤ (ofEra era shifted).day := Nat.le_add_left _ _
  simp only [isValid, covered, Bool.and_eq_true, decide_eq_true_eq, Bool.true_and]
  exact ⟨⟨⟨months.1, months.2⟩, positive⟩, fits⟩

/-- Dates within the range of years exist in the calendar. -/
theorem isValid_ofDays {days : Int} (covered : (ofDays days).inRange = true) :
    (ofDays days).isValid = true := by
  obtain ⟨century, cycle, place, split⟩ := exists_dayOfEra_emod (days + 719468)
  rw [ofDays_eq] at covered ⊢
  exact isValid_ofEra split covered

/-! ## The days that the calendar covers -/

theorem monthOf_le_two {day : Nat} (bounded : day ≤ 365) : monthOf day ≤ 2 ↔ 306 ≤ day := by
  rw [monthOf, monthFromMarch]
  split <;> omega

/-- A year ends when 306 days have passed since its March. -/
theorem ofEra_year {era : Int} (split : DayOfEra shifted century cycle place) :
    (ofEra era shifted).year = 400 * era + 100 * century + 4 * cycle + min (place / 365) 3 +
      (if 306 + 365 * min (place / 365) 3 ≤ place then 1 else 0) := by
  have year := split.year
  have day := split.dayOfYear
  have late := @monthOf_le_two (CivilDate.dayOfYear shifted) split.dayOfYear_le
  simp only [ofEra]
  split <;> split <;> omega

/-- The first of January of the first year. -/
def firstDay : Int := -96465292

/-- The last of December of the last year. -/
def lastDay : Int := 95026236

theorem inRange_ofEra {era : Int} (split : DayOfEra shifted century cycle place) :
    (ofEra era shifted).inRange = true ↔
      firstDay ≤ era * 146097 + shifted - 719468 ∧ era * 146097 + shifted - 719468 ≤ lastDay := by
  have year := @ofEra_year _ _ _ _ era split
  obtain ⟨centuries, cycles, places, rfl, last⟩ := split
  simp only [inRange, Bool.and_eq_true, decide_eq_true_eq, minYear, maxYear, firstDay, lastDay,
    year]
  split <;> omega

theorem inRange_ofDays (days : Int) :
    (ofDays days).inRange = true ↔ firstDay ≤ days ∧ days ≤ lastDay := by
  obtain ⟨century, cycle, place, split⟩ := exists_dayOfEra_emod (days + 719468)
  rw [ofDays_eq, inRange_ofEra split]
  omega

end AccountLedger.CivilDate
