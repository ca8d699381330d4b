import Stencil.Proofs.Time.Months

/-!
# The lengths of months

Every month has the number of days that the Gregorian rules give it, and the numbers
of the days run on from one month to the next. So numbering a day and finding the day
with that number undo one another for every day that a month has:
`ofDayNumber_toDayNumber`. Counting on from the first of a month by more days than the
month has leads into the month after it: `ofDayNumber_first_add`.
-/

namespace Stencil.Date

/-- A leap year can be divided by four, and if it can be divided by a hundred then by
four hundred too. -/
def IsLeapYear (year : Int) : Prop :=
  year % 4 = 0 ∧ (year % 100 = 0 → year % 400 = 0)

instance (year : Int) : Decidable (IsLeapYear year) :=
  inferInstanceAs (Decidable (_ ∧ _))

/-- The number of days of a month. -/
def daysInMonth (year : Int) : Nat → Nat
  | 2 => if IsLeapYear year then 29 else 28
  | 4 | 6 | 9 | 11 => 30
  | _ => 31

/-- The first day of the month after a month. -/
def firstOfMonthAfter (year : Int) (month : Nat) : Date :=
  if month = 12 then ⟨year + 1, 1, 1⟩ else ⟨year, month + 1, 1⟩

/-- The date names a day that its month has. -/
structure IsDay (date : Date) : Prop where
  one_le_month : 1 ≤ date.month
  month_le : date.month ≤ 12
  one_le_day : 1 ≤ date.day
  day_le : date.day ≤ daysInMonth date.year date.month

/-- February has a leap day in leap years. -/
theorem daysInMonth_february (year : Int) :
    daysInMonth year 2 = if IsLeapYear year then 29 else 28 := rfl

/-- A month has between 28 and 31 days. -/
theorem daysInMonth_bounds (year : Int) (month : Nat) :
    28 ≤ daysInMonth year month ∧ daysInMonth year month ≤ 31 := by
  unfold daysInMonth
  split
  · split <;> omega
  all_goals omega

/-- A year that starts in March ends with the February of the next year. -/
theorem daysBeforeYear_succ (year : Int) :
    daysBeforeYear (year + 1) = daysBeforeYear year + 337 + daysInMonth (year + 1) 2 := by
  rw [daysInMonth_february]
  split <;> next leap =>
    unfold IsLeapYear at leap
    unfold daysBeforeYear
    omega

/-- A day lies before the end of the year that it is found in. -/
theorem lt_daysBeforeYear_marchYear_succ (days : Int) :
    days < daysBeforeYear ((marchYear days).1 + 1) := by
  have spec := marchYear_spec days
  have lastDay : (marchYear days).2 = 365 → IsLeapYear ((marchYear days).1 + 1) := by
    unfold IsLeapYear
    simp only [marchYear, blocks]
    omega
  rw [daysBeforeYear_succ, daysInMonth_february]
  split
  · omega
  · next common =>
    have short : (marchYear days).2 ≠ 365 := fun full => common (lastDay full)
    omega

/-- A day is found in the year that it lies in. -/
theorem marchYear_eq {year : Int} {inYear : Nat}
    (before : daysBeforeYear year + inYear < daysBeforeYear (year + 1)) :
    marchYear (daysBeforeYear year + inYear) = (year, inYear) := by
  have spec := (marchYear_spec (daysBeforeYear year + inYear)).1
  have ends := lt_daysBeforeYear_marchYear_succ (daysBeforeYear year + inYear)
  generalize marchYear (daysBeforeYear year + inYear) = found at *
  have sameYear : found.1 = year := by
    rcases Int.lt_trichotomy found.1 year with earlier | same | later
    · have apart := daysBeforeYear_add_le (show found.1 + 1 ≤ year by omega)
      omega
    · exact same
    · have apart := daysBeforeYear_add_le (show year + 1 ≤ found.1 by omega)
      omega
  rw [sameYear] at spec
  ext
  · exact sameYear
  · simp only
    omega

/-- Every month but February is as long as its distance to the next. -/
theorem daysBeforeMonth_succ (year : Int) {month : Nat} (low : 1 ≤ month) (high : month ≤ 12)
    (notFebruary : month ≠ 2) :
    daysBeforeMonth ((month + 9) % 12 + 1) =
      daysBeforeMonth ((month + 9) % 12) + daysInMonth year month := by
  obtain rfl | rfl | rfl | rfl | rfl | rfl | rfl | rfl | rfl | rfl | rfl : month = 1 ∨ month = 3 ∨
      month = 4 ∨ month = 5 ∨ month = 6 ∨ month = 7 ∨ month = 8 ∨ month = 9 ∨ month = 10 ∨
      month = 11 ∨ month = 12 := by omega
  all_goals rfl

/-- No month is longer than the distance that its successor has in the count from March. -/
theorem daysBeforeMonth_add_le (year : Int) {month : Nat} (low : 1 ≤ month) (high : month ≤ 12) :
    daysBeforeMonth ((month + 9) % 12) + daysInMonth year month ≤
      daysBeforeMonth ((month + 9) % 12 + 1) := by
  by_cases february : month = 2
  · subst february
    rw [daysInMonth_february]
    unfold daysBeforeMonth
    split <;> omega
  · exact Nat.le_of_eq (daysBeforeMonth_succ year low high february).symm

/-- A day of a month is found by its distance from the first of March. -/
theorem ofMarch_eq {year : Int} {month day : Nat} (isDay : IsDay ⟨year, month, day⟩) :
    ofMarch (if month ≤ 2 then year - 1 else year)
      (daysBeforeMonth ((month + 9) % 12) + (day - 1)) = ⟨year, month, day⟩ := by
  obtain ⟨low, high, positive, inMonth⟩ := isDay
  simp only at low high positive inMonth
  have ends := daysBeforeMonth_add_le year low high
  have sameMonth : (5 * (daysBeforeMonth ((month + 9) % 12) + (day - 1)) + 2) / 153 =
      (month + 9) % 12 := by
    unfold daysBeforeMonth at ends ⊢
    omega
  have back : ((month + 9) % 12 + 2) % 12 + 1 = month := by omega
  unfold ofMarch
  simp only [sameMonth, back, mk.injEq, true_and]
  constructor
  · split <;> omega
  · omega

/-- A day of a month lies within the year from March to February that its month is in. -/
theorem IsDay.lt_daysBeforeYear {year : Int} {month day : Nat} (isDay : IsDay ⟨year, month, day⟩) :
    daysBeforeYear (if month ≤ 2 then year - 1 else year) +
        (daysBeforeMonth ((month + 9) % 12) + (day - 1) : Nat) <
      daysBeforeYear ((if month ≤ 2 then year - 1 else year) + 1) := by
  obtain ⟨low, high, positive, inMonth⟩ := isDay
  simp only at low high positive inMonth
  by_cases february : month = 2
  · subst february
    have ends := daysBeforeYear_succ (year - 1)
    rw [Int.sub_add_cancel] at ends
    simp only [Nat.le_refl, if_true, Int.sub_add_cancel, daysBeforeMonth]
    omega
  · have ends := daysBeforeMonth_succ year low high february
    have february := daysInMonth_bounds ((if month ≤ 2 then year - 1 else year) + 1) 2
    rw [daysBeforeYear_succ]
    unfold daysBeforeMonth at ends ⊢
    omega

/-- Every day of a month is the day that has its number. -/
theorem ofDayNumber_toDayNumber {date : Date} (isDay : date.IsDay) :
    ofDayNumber date.toDayNumber = date := by
  obtain ⟨year, month, day⟩ := date
  have positive : 1 ≤ day := isDay.one_le_day
  have sinceMarch : toDayNumber ⟨year, month, day⟩ + epoch =
      daysBeforeYear (if month ≤ 2 then year - 1 else year) +
        (daysBeforeMonth ((month + 9) % 12) + (day - 1) : Nat) := by
    simp only [toDayNumber]
    omega
  rw [ofDayNumber, sinceMarch, marchYear_eq isDay.lt_daysBeforeYear]
  exact ofMarch_eq isDay

/-- The first of the next month follows the last day of a month. -/
theorem toDayNumber_firstOfMonthAfter (year : Int) {month : Nat} (low : 1 ≤ month)
    (high : month ≤ 12) :
    (firstOfMonthAfter year month).toDayNumber =
      toDayNumber ⟨year, month, 1⟩ + daysInMonth year month := by
  by_cases february : month = 2
  · subst february
    have ends := daysBeforeYear_succ (year - 1)
    rw [Int.sub_add_cancel] at ends
    have march : firstOfMonthAfter year 2 = ⟨year, 3, 1⟩ := rfl
    simp only [march, toDayNumber, daysBeforeMonth, Nat.reduceLeDiff, Nat.le_refl, if_true,
      if_false]
    omega
  · have ends := daysBeforeMonth_succ year low high february
    have next : (firstOfMonthAfter year month).toDayNumber =
        daysBeforeYear (if month ≤ 2 then year - 1 else year) +
          daysBeforeMonth ((month + 9) % 12 + 1) - epoch := by
      unfold firstOfMonthAfter
      split
      · next december =>
        subst december
        simp [toDayNumber]
      · have sameYear : month + 1 ≤ 2 ↔ month ≤ 2 := by omega
        have nextMonth : (month + 1 + 9) % 12 = (month + 9) % 12 + 1 := by omega
        simp only [toDayNumber, sameYear, nextMonth]
        omega
    rw [next, ends]
    simp only [toDayNumber]
    omega

/-- Counting on from the first of a month leads to a day of the month, or if the month is
too short for it into the next. -/
theorem ofDayNumber_first_add (year : Int) {month day : Nat} (low : 1 ≤ month)
    (high : month ≤ 12) (positive : 1 ≤ day) (small : day ≤ 31) :
    ofDayNumber (toDayNumber ⟨year, month, 1⟩ + (day - 1 : Nat)) =
      if day ≤ daysInMonth year month then ⟨year, month, day⟩
      else { firstOfMonthAfter year month with day := day - daysInMonth year month } := by
  have length := daysInMonth_bounds year month
  split
  · next inMonth =>
    rw [toDayNumber_first_add year month positive]
    exact ofDayNumber_toDayNumber ⟨low, high, positive, inMonth⟩
  · next long =>
    have next := toDayNumber_firstOfMonthAfter year low high
    obtain ⟨laterYear, laterMonth, isFirst, laterLow, laterHigh⟩ : ∃ laterYear laterMonth,
        firstOfMonthAfter year month = ⟨laterYear, laterMonth, 1⟩ ∧ 1 ≤ laterMonth ∧
          laterMonth ≤ 12 := by
      unfold firstOfMonthAfter
      split
      · exact ⟨_, _, rfl, by omega, by omega⟩
      · exact ⟨_, _, rfl, by omega, by omega⟩
    have laterLength := daysInMonth_bounds laterYear laterMonth
    rw [isFirst] at next ⊢
    have sameDay : toDayNumber ⟨year, month, 1⟩ + (day - 1 : Nat) =
        toDayNumber ⟨laterYear, laterMonth, day - daysInMonth year month⟩ := by
      rw [← toDayNumber_first_add laterYear laterMonth (by omega), next]
      omega
    rw [sameDay]
    exact ofDayNumber_toDayNumber ⟨laterLow, laterHigh, by simp only; omega, by simp only; omega⟩

end Stencil.Date
