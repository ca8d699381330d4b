import Stencil.Proofs.Time.Arrival
import Stencil.Proofs.Time.Calendar

/-!
# Adding months and years

Months are counted on over all integers. The month found by the count has the day or is
too short for it; then the day is counted on into the month after it. Adding months does
just that to every wall clock of the calendar and for every number of months, with no
result exactly outside the years of the calendar, and years are twelve months each. Main
statement: `addMonths?_exact`.
-/

namespace Stencil

namespace Date

/-- The number of months from the first month of year zero to the month of the date. -/
def monthCount (date : Date) : Int :=
  12 * date.year + (date.month - 1 : Nat)

/-- The date so many months later. A day that the month found does not have is counted on
into the month after it. -/
def plusMonths (date : Date) (months : Int) : Date :=
  let year := (date.monthCount + months) / 12
  let month := ((date.monthCount + months) % 12).toNat + 1
  if date.day ≤ daysInMonth year month then ⟨year, month, date.day⟩
  else { firstOfMonthAfter year month with day := date.day - daysInMonth year month }

end Date

namespace WallClock

/-- What there is to be found so many months after a wall clock: the date so many months
later at the same time of day, and nothing if the month lies outside the calendar. -/
structure IsMonthsLater (wall : WallClock) (months : Int) (result : Option WallClock) : Prop where
  eq_none_iff : result = none ↔
    ¬ (-262143 ≤ (wall.date.monthCount + months) / 12 ∧
      (wall.date.monthCount + months) / 12 ≤ 262142)
  date_eq : ∀ later, result = some later → later.date = wall.date.plusMonths months
  timeOfDay_eq : ∀ later, result = some later →
    later.secondOfDay = wall.secondOfDay ∧ later.nanos = wall.nanos

/-- The wall clock so many months later shows the date that is so many months later. -/
theorem date_monthsLater (wall : WallClock) (months : Int) :
    (wall.monthsLater months).date = wall.date.plusMonths months := by
  have day := Timestamp.day_bounds wall
  rw [monthsLater, Timestamp.date, Timestamp.dayNumber_onDay]
  exact Date.ofDayNumber_first_add _ (Nat.le_add_left 1 _) (by omega) day.1 day.2

/-- The wall clock that is computed is the one so many months later, or there is none. -/
theorem isMonthsLater_checked (wall : WallClock) (months : Int) :
    wall.IsMonthsLater months (wall.monthsLater months).checked where
  eq_none_iff := by
    rw [Timestamp.checked_eq_none_iff, isWithin_monthsLater_iff]
    exact Iff.rfl
  date_eq later found := by
    obtain ⟨rfl, -⟩ := Timestamp.checked_eq_some_iff.1 found
    exact wall.date_monthsLater months
  timeOfDay_eq later found := by
    obtain ⟨rfl, -⟩ := Timestamp.checked_eq_some_iff.1 found
    exact ⟨Timestamp.secondOfDay_onDay .., rfl⟩

/-- Months and years are added exactly, by any number that there is: the result is the date so
many months later at the same time of day, and there is none only outside the years of the
calendar. In UTC a time with such an offset shows the result, and without a result the reading
as it is. -/
theorem addMonths?_exact {wall : WallClock} (inside : wall.IsWithin 0) (amount : Int) :
    wall.IsMonthsLater amount (wall.addMonths? amount) ∧
      wall.IsMonthsLater (12 * amount) (wall.addMonthUnits? 12 amount) ∧
      ∀ (sources : Sources) (modifiers : List Modifier) (used : Usage) (unit : TimeUnit)
        (result : Option WallClock),
        sources.clock.reading used.readings = wall →
        (TimeStyle.ofModifiers modifiers).zone = .utc →
        (TimeStyle.ofModifiers modifiers).offset = some ⟨amount, unit⟩ →
        unit = .months ∧ result = wall.addMonths? amount ∨
          unit = .years ∧ result = wall.addMonthUnits? 12 amount →
        ∃ text,
          (TimeStyle.ofModifiers modifiers).render sources.clock (result.getD wall) = .ok text ∧
          (sources.now modifiers).outcome used =
            (.ok text, { used with readings := used.readings + 1 }) := by
  have months : wall.addMonths? amount = (wall.monthsLater amount).checked :=
    addMonths?_eq inside amount
  have years : wall.addMonthUnits? 12 amount = (wall.monthsLater (12 * amount)).checked := by
    rw [addMonthUnits?_eq inside, Int.mul_comm]
    rfl
  refine ⟨months ▸ wall.isMonthsLater_checked amount,
    years ▸ wall.isMonthsLater_checked (12 * amount), ?_⟩
  intro sources modifiers used unit result reading utc shifts added
  have moved : result = ((⟨amount, unit⟩ : Offset).moved wall).checked := by
    rcases added with ⟨rfl, rfl⟩ | ⟨rfl, rfl⟩
    · rw [months, Offset.moved_months, Int.mul_one]
    · rw [years, Offset.moved_years, Int.mul_comm]
  have shifted : sources.clock.shift? (TimeStyle.ofModifiers modifiers).zone ⟨amount, unit⟩ wall =
      .ok result := by
    rw [utc, Clock.shift?_utc inside, moved]
  obtain ⟨text, rendered⟩ : ∃ text,
      (TimeStyle.ofModifiers modifiers).render sources.clock (result.getD wall) = .ok text := by
    rw [TimeStyle.exists_render_iff, utc, Clock.zoneOffset_utc, Timestamp.shiftLine_zero, moved]
    exact inside.getD_checked _
  refine ⟨text, rendered, ?_⟩
  rw [Sources.outcome_now, reading, TimeStyle.display_of_shift?_eq shifts shifted, rendered]

/-- A leap second at the end of the 31st of January is kept by one month more, which leads to
the second of March in a leap year. As many years as a word can hold lead to nothing. -/
theorem addMonths?_exact_leapSecond :
    let wall : WallClock := ⟨1706745599, 1500000000⟩
    let sources : Sources := ⟨.ofTable wall 0 {}, .ofDraws []⟩
    let years : Offset := ⟨0x7fffffffffffffff, .years⟩
    wall.IsWithin 0 ∧ wall.date = ⟨2024, 1, 31⟩ ∧
      (∃ later, wall.addMonths? 1 = some later ∧ later.date = ⟨2024, 3, 2⟩ ∧
        later.secondOfDay = 86399 ∧ later.nanos = 1500000000) ∧
      wall.addMonthUnits? 12 years.amount = none ∧
      ∃ text, (TimeStyle.ofModifiers [.offset years]).render sources.clock wall = .ok text ∧
        (sources.now [.offset years]).outcome {} = (.ok text, { readings := 1 }) := by
  intro wall sources years
  have inside : wall.IsWithin 0 := by decide
  obtain ⟨month, -, -⟩ := addMonths?_exact inside 1
  obtain ⟨-, none, shows⟩ := addMonths?_exact inside years.amount
  have nothing := none.eq_none_iff.2 (by decide)
  refine ⟨inside, by decide, ?_, nothing, ?_⟩
  · obtain ⟨later, found⟩ : ∃ later, wall.addMonths? 1 = some later :=
      Option.ne_none_iff_exists'.1 fun absent => month.eq_none_iff.1 absent (by decide)
    obtain ⟨second, nanos⟩ := month.timeOfDay_eq later found
    refine ⟨later, found, (month.date_eq later found).trans (by decide), ?_, nanos⟩
    exact second.trans (by decide)
  · exact shows sources [.offset years] {} .years _ (by decide) rfl rfl (.inr ⟨rfl, nothing.symm⟩)

end WallClock
end Stencil
