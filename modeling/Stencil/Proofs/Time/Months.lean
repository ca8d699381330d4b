import Stencil.Proofs.Time.Limits

/-!
# Months beyond the calendar

The wall clock so many months later, whether the calendar holds it or not. It is in
the calendar exactly if the month is in one of the years of the calendar, so adding
months is only this with a check behind it, and the words that months are counted in
are wide enough: `addMonths?_eq`.
-/

namespace Stencil

namespace Date

/-- The years that the calendar runs from and to. -/
theorem calendar_years : first.year = -262143 ∧ last.year = 262142 :=
  ⟨rfl, rfl⟩

/-- A year has 365 days at least, so many years have as many times 365. -/
theorem daysBeforeYear_add_le {year later : Int} (le : year ≤ later) :
    daysBeforeYear year + 365 * (later - year) ≤ daysBeforeYear later := by
  -- Leap days up to a year are a function of its leap cycles, and one that grows with them.
  have cycles : year / 4 ≤ later / 4 := by omega
  have centuries (y : Int) : y / 100 = y / 4 / 25 ∧ y / 400 = y / 4 / 25 / 4 := by omega
  unfold daysBeforeYear
  rw [(centuries year).1, (centuries year).2, (centuries later).1, (centuries later).2]
  omega

/-- The first day of a month lies within the days of its year. -/
theorem toDayNumber_bounds (year : Int) {month : Nat} (low : 1 ≤ month) (high : month ≤ 12) :
    daysBeforeYear (year - 1) + 306 - epoch ≤ toDayNumber ⟨year, month, 1⟩ ∧
      toDayNumber ⟨year, month, 1⟩ + 30 < daysBeforeYear year + 306 - epoch := by
  have before := daysBeforeYear_add_le (show year - 1 ≤ year by omega)
  simp only [toDayNumber, daysBeforeMonth]
  split <;> omega

/-- The calendar holds a day of a month if it holds the year. No day of a month, and
none that runs over the end of a month that is not the last, leaves the year. -/
theorem toDayNumber_within_iff {year : Int} {month days : Nat} (low : 1 ≤ month)
    (high : month ≤ 12) (inMonth : days ≤ 30) :
    first.toDayNumber ≤ toDayNumber ⟨year, month, 1⟩ + days ∧
      toDayNumber ⟨year, month, 1⟩ + days ≤ last.toDayNumber ↔
    first.year ≤ year ∧ year ≤ last.year := by
  have bounds := toDayNumber_bounds year low high
  have calendar : first.toDayNumber = daysBeforeYear (-262144) + 306 - epoch ∧
      last.toDayNumber = daysBeforeYear 262142 + 305 - epoch := by decide
  have years := calendar_years
  rcases Int.lt_or_le year (-262143) with early | notEarly
  · have apart := daysBeforeYear_add_le (show year ≤ -262144 by omega)
    omega
  · rcases Int.lt_or_le 262142 year with late | notLate
    · have apart := daysBeforeYear_add_le (show 262142 ≤ year - 1 by omega)
      omega
    · have before := daysBeforeYear_add_le (show -262144 ≤ year - 1 by omega)
      have behind := daysBeforeYear_add_le notLate
      omega

/-- Within a month days are numbered one after the other. -/
theorem toDayNumber_first_add (year : Int) (month : Nat) {day : Nat} (positive : 1 ≤ day) :
    toDayNumber ⟨year, month, 1⟩ + (day - 1 : Nat) = toDayNumber ⟨year, month, day⟩ := by
  simp only [toDayNumber]
  omega

end Date

namespace Timestamp

/-- A timestamp shows one of twelve months. -/
theorem month_bounds (t : Timestamp) : 1 ≤ t.date.month ∧ t.date.month ≤ 12 := by
  have spec := Date.marchYear_spec (t.dayNumber + Date.epoch)
  exact ⟨(Date.ofMarch_bounds spec.2).1, (Date.ofMarch_bounds spec.2).2.1⟩

/-- A timestamp shows a day that some month has. -/
theorem day_bounds (t : Timestamp) : 1 ≤ t.date.day ∧ t.date.day ≤ 31 := by
  have spec := Date.marchYear_spec (t.dayNumber + Date.epoch)
  exact ⟨(Date.ofMarch_bounds spec.2).2.2.1, (Date.ofMarch_bounds spec.2).2.2.2⟩

/-- A timestamp lies in the calendar if its day does. -/
theorem isWithin_onDay_iff {t : Timestamp} {dayNumber : Int} :
    (t.onDay dayNumber).IsWithin 0 ↔
      Date.first.toDayNumber ≤ dayNumber ∧ dayNumber ≤ Date.last.toDayNumber := by
  have inDay : t.secondOfDay < 86400 := by
    simp only [secondOfDay, secondsPerDay]
    omega
  simp only [IsWithin, onDay, firstSecond, lastSecond, secondsPerDay]
  omega

/-- A timestamp that is moved to a day shows that day. -/
@[simp] theorem dayNumber_onDay (t : Timestamp) (dayNumber : Int) :
    (t.onDay dayNumber).dayNumber = dayNumber := by
  simp only [onDay, Timestamp.dayNumber, secondOfDay, secondsPerDay]
  omega

/-- A timestamp that is moved to another day keeps the time of day. -/
@[simp] theorem secondOfDay_onDay (t : Timestamp) (dayNumber : Int) :
    (t.onDay dayNumber).secondOfDay = t.secondOfDay := by
  simp only [onDay, secondOfDay, secondsPerDay]
  omega

/-- Moving a timestamp to its own day leaves it where it is. -/
@[simp] theorem onDay_dayNumber (t : Timestamp) : t.onDay t.dayNumber = t := by
  simp only [onDay, dayNumber, secondOfDay, secondsPerDay]
  congr 1
  omega

/-- The year of a timestamp of the calendar is one of the calendar. -/
theorem year_bounds {t : Timestamp} (inside : t.IsWithin 0) :
    Date.first.year ≤ t.date.year ∧ t.date.year ≤ Date.last.year := by
  have month := month_bounds t
  have day := day_bounds t
  have ofDate : t.dayNumber = Date.toDayNumber ⟨t.date.year, t.date.month, 1⟩ +
      (t.date.day - 1 : Nat) := by
    rw [Date.toDayNumber_first_add _ _ day.1]
    exact (Date.toDayNumber_ofDayNumber _).symm
  rw [← onDay_dayNumber t, isWithin_onDay_iff, ofDate] at inside
  exact (Date.toDayNumber_within_iff month.1 month.2 (by omega)).1 inside

end Timestamp

namespace WallClock

/-- The first day of the month that lies so many months later. -/
def firstOfMonthLater (wall : WallClock) (months : Int) : Date :=
  let monthNumber := 12 * wall.date.year + (wall.date.month - 1 : Nat) + months
  ⟨monthNumber / 12, (monthNumber % 12).toNat + 1, 1⟩

/-- The year is counted in months from the year 0 on, and rounded down. -/
theorem year_firstOfMonthLater (wall : WallClock) (months : Int) :
    (wall.firstOfMonthLater months).year =
      (12 * wall.date.year + (wall.date.month - 1 : Nat) + months) / 12 := rfl

/-- The wall clock so many months later at the same time of day, as many days after
the first of the month as before. -/
def monthsLater (wall : WallClock) (months : Int) : WallClock :=
  wall.onDay ((wall.firstOfMonthLater months).toDayNumber + (wall.date.day - 1 : Nat))

/-- The calendar holds the wall clock so many months later exactly if it holds the year
that it falls in. -/
theorem isWithin_monthsLater_iff {wall : WallClock} {months : Int} :
    (wall.monthsLater months).IsWithin 0 ↔
      Date.first.year ≤ (wall.firstOfMonthLater months).year ∧
        (wall.firstOfMonthLater months).year ≤ Date.last.year := by
  have day := Timestamp.day_bounds wall
  rw [monthsLater, Timestamp.isWithin_onDay_iff]
  exact Date.toDayNumber_within_iff (Nat.le_add_left 1 _) (by omega) (by omega)

/-- Months are counted in words that are wide enough for every wall clock of the
calendar: adding months checks the wall clock so many months later. -/
theorem addMonths?_eq {wall : WallClock} (inside : wall.IsWithin 0) (months : Int) :
    wall.addMonths? months = (wall.monthsLater months).checked := by
  have years := Date.calendar_years
  have year := Timestamp.year_bounds inside
  have month := Timestamp.month_bounds wall
  have firstMonth : word? (wall.date.year * 12) = some (12 * wall.date.year) :=
    word?_eq_some_iff.2 ⟨Int.mul_comm .., by omega, by omega⟩
  have monthOfWall : word? (12 * wall.date.year + (wall.date.month - 1 : Nat)) = some _ :=
    word?_eq_some_iff.2 ⟨rfl, by omega, by omega⟩
  unfold addMonths?
  simp only [firstMonth, monthOfWall, Option.bind_eq_bind, Option.bind_some]
  by_cases inYears : Date.first.year ≤ (wall.firstOfMonthLater months).year ∧
      (wall.firstOfMonthLater months).year ≤ Date.last.year
  · have yearEq := wall.year_firstOfMonthLater months
    have later : word? (12 * wall.date.year + (wall.date.month - 1 : Nat) + months) = some _ :=
      word?_eq_some_iff.2 ⟨rfl, by omega, by omega⟩
    have yearLater : halfWord? (wall.firstOfMonthLater months).year = some _ :=
      halfWord?_eq_some_iff.2 ⟨rfl, by omega, by omega⟩
    rw [later, Option.bind_some, ← yearEq, yearLater, Option.bind_some]
    exact if_pos inYears
  · rw [Timestamp.checked_of_not_isWithin (mt isWithin_monthsLater_iff.1 inYears),
      Option.bind_eq_none_iff]
    intro monthNumber fits
    obtain ⟨rfl, -⟩ := word?_eq_some_iff.1 fits
    rw [Option.bind_eq_none_iff]
    intro year fits
    obtain ⟨rfl, -⟩ := halfWord?_eq_some_iff.1 fits
    exact if_neg inYears

/-- Years are months that are counted twelve at a time. A number of months that does not
fit in a word leads out of the calendar. -/
theorem addMonthUnits?_eq {wall : WallClock} (inside : wall.IsWithin 0) (count : Nat)
    (amount : Int) :
    wall.addMonthUnits? count amount = (wall.monthsLater (amount * count)).checked := by
  cases fits : word? (amount * count) with
  | some months =>
    obtain ⟨rfl, -⟩ := word?_eq_some_iff.1 fits
    rw [addMonthUnits?, fits, ← addMonths?_eq inside]
    rfl
  | none =>
    have years := Date.calendar_years
    have year := Timestamp.year_bounds inside
    have month := Timestamp.month_bounds wall
    have wide : ¬ (-0x7fffffffffffffff - 1 ≤ amount * count ∧
        amount * count ≤ 0x7fffffffffffffff) := fun bounds => by
      rw [word?_eq_some_iff.2 ⟨rfl, bounds⟩] at fits
      cases fits
    have yearEq := wall.year_firstOfMonthLater (amount * count)
    have outside : ¬ (wall.monthsLater (amount * count)).IsWithin 0 := by
      rw [isWithin_monthsLater_iff]
      omega
    rw [addMonthUnits?, fits, Timestamp.checked_of_not_isWithin outside]
    rfl

end WallClock
end Stencil
