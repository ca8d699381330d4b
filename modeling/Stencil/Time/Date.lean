/-!
# Dates

The Gregorian calendar extended to all years, with a year zero. Dates are
numbered by days, day zero being 1970-01-01. Both directions count years from
the first of March, which puts the leap day at the end of a year.
-/

namespace Stencil

/-- A day of the calendar. Months and days count from one. -/
structure Date where
  year : Int
  month : Nat
  day : Nat
  deriving DecidableEq, Repr

namespace Date

/-- The number of days from the first of March to the first of the month that
lies the given number of months later, within one year. -/
def daysBeforeMonth (monthsSinceMarch : Nat) : Nat :=
  (153 * monthsSinceMarch + 2) / 5

/-- The number of days from the first of March of year zero to the first of March
of the given year. -/
def daysBeforeYear (year : Int) : Int :=
  365 * year + year / 4 - year / 100 + year / 400

/-- The number of days from the first of March of year zero to 1970-01-01. -/
def epoch : Int := 719468

/-- The number of the day. A day count beyond the end of the month runs on into
the months that follow. -/
def toDayNumber (date : Date) : Int :=
  let year := if date.month ≤ 2 then date.year - 1 else date.year
  daysBeforeYear year + daysBeforeMonth ((date.month + 9) % 12) + date.day - 1 - epoch

/-- The date that lies the given number of days after the first of March of the
given year. -/
def ofMarch (year : Int) (inYear : Nat) : Date :=
  let monthsSinceMarch := (5 * inYear + 2) / 153
  let month := (monthsSinceMarch + 2) % 12 + 1
  { year := if month ≤ 2 then year + 1 else year
    month
    day := inYear - daysBeforeMonth monthsSinceMarch + 1 }

/-- The number of whole blocks of the given length, but no more than `most`, and
the days left over. -/
def blocks (length most days : Nat) : Nat × Nat :=
  let count := min (days / length) most
  (count, days - length * count)

/-- The year that the day with the given count falls into and the days since the
first of March of that year. Days count from the first of March of year zero. A
cycle of 400 years has four centuries, a century 25 leap cycles and a leap cycle
four years; the last of each may be a day longer. -/
def marchYear (days : Int) : Int × Nat :=
  let cycle := days / 146097
  let (century, inCentury) := blocks 36524 3 (days % 146097).toNat
  let (leapCycle, inLeapCycle) := blocks 1461 24 inCentury
  let (year, inYear) := blocks 365 3 inLeapCycle
  (400 * cycle + (100 * century + 4 * leapCycle + year : Nat), inYear)

/-- The day with the number. -/
def ofDayNumber (number : Int) : Date :=
  let (year, inYear) := marchYear (number + epoch)
  ofMarch year inYear

/-- The month and the day of a numbered day lie within their bounds. -/
theorem ofMarch_bounds {year : Int} {inYear : Nat} (_ : inYear ≤ 365) :
    1 ≤ (ofMarch year inYear).month ∧ (ofMarch year inYear).month ≤ 12 ∧
      1 ≤ (ofMarch year inYear).day ∧ (ofMarch year inYear).day ≤ 31 := by
  simp only [ofMarch, daysBeforeMonth]
  omega

/-- A date found by its distance from the first of March has the number that its
year and the distance give. -/
theorem toDayNumber_ofMarch {year : Int} {inYear : Nat} (inYear_le : inYear ≤ 365) :
    (ofMarch year inYear).toDayNumber = daysBeforeYear year + inYear - epoch := by
  simp only [toDayNumber, ofMarch]
  have before : daysBeforeMonth ((5 * inYear + 2) / 153) ≤ inYear := by
    unfold daysBeforeMonth
    omega
  have same : (((5 * inYear + 2) / 153 + 2) % 12 + 1 + 9) % 12 = (5 * inYear + 2) / 153 := by
    omega
  rw [same]
  split
  · rw [Int.add_sub_cancel]
    omega
  · omega

/-- Whole blocks and the days left over make up the days. -/
theorem days_of_blocks (length most days : Nat) :
    days = length * (blocks length most days).1 + (blocks length most days).2 := by
  simp only [blocks]
  have product : length * min (days / length) most ≤ days :=
    Nat.le_trans (Nat.mul_le_mul_left _ (Nat.min_le_left _ _)) (Nat.mul_div_le days length)
  omega

/-- A year within a cycle of 400 years starts behind the cycles, centuries, leap
cycles and years that came before it. -/
theorem daysBeforeYear_of_parts {cycle : Int} {century leapCycle year : Nat}
    (century_le : century ≤ 3) (leapCycle_le : leapCycle ≤ 24) (year_le : year ≤ 3) :
    daysBeforeYear (400 * cycle + (100 * century + 4 * leapCycle + year : Nat)) =
      146097 * cycle + (36524 * century + 1461 * leapCycle + 365 * year : Nat) := by
  have quarters : (400 * cycle + (100 * century + 4 * leapCycle + year : Nat)) / 4 =
      100 * cycle + 25 * century + leapCycle := by omega
  have centuries : (400 * cycle + (100 * century + 4 * leapCycle + year : Nat)) / 100 =
      4 * cycle + century := by omega
  have cycles : (400 * cycle + (100 * century + 4 * leapCycle + year : Nat)) / 400 = cycle := by
    omega
  unfold daysBeforeYear
  rw [quarters, centuries, cycles]
  omega

/-- The year and the days since its first of March make up the day count. -/
theorem marchYear_spec (days : Int) :
    days = daysBeforeYear (marchYear days).1 + (marchYear days).2 ∧ (marchYear days).2 ≤ 365 := by
  have cycles : days = 146097 * (days / 146097) + (days % 146097).toNat := by omega
  have inCycle_lt : (days % 146097).toNat < 146097 := by omega
  simp only [marchYear]
  generalize days / 146097 = cycle at *
  generalize (days % 146097).toNat = inCycle at *
  have centuries := days_of_blocks 36524 3 inCycle
  have century_le : (blocks 36524 3 inCycle).1 ≤ 3 ∧ (blocks 36524 3 inCycle).2 ≤ 36524 := by
    simp only [blocks]
    omega
  generalize blocks 36524 3 inCycle = century at *
  have leapCycles := days_of_blocks 1461 24 century.2
  have leapCycle_le : (blocks 1461 24 century.2).1 ≤ 24 ∧ (blocks 1461 24 century.2).2 ≤ 1460 := by
    simp only [blocks]
    omega
  generalize blocks 1461 24 century.2 = leapCycle at *
  have years := days_of_blocks 365 3 leapCycle.2
  have year_le : (blocks 365 3 leapCycle.2).1 ≤ 3 ∧ (blocks 365 3 leapCycle.2).2 ≤ 365 := by
    simp only [blocks]
    omega
  generalize blocks 365 3 leapCycle.2 = year at *
  rw [daysBeforeYear_of_parts century_le.1 leapCycle_le.1 year_le.1]
  omega

/-- Every day has the number that it was found by. -/
@[simp] theorem toDayNumber_ofDayNumber (number : Int) :
    (ofDayNumber number).toDayNumber = number := by
  have spec := marchYear_spec (number + epoch)
  unfold ofDayNumber
  rw [toDayNumber_ofMarch spec.2]
  omega

end Date
end Stencil
