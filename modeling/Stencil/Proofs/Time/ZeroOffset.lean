import Mathlib.Data.List.Induction
import Stencil.Proofs.Modifier.Classes
import Stencil.Proofs.Time.Arrival

/-!
# Offsets by nothing

An offset by zero units leaves a wall clock as it is, and the search for the instant that shows
it starts with the offset of that instant, so it stops there at once, also where other instants
show the same wall clock. Main statement: `outcome_now_append_zero`.
-/

namespace Stencil

/-- No months later it is the same day. -/
@[simp] theorem WallClock.monthsLater_zero (wall : WallClock) : wall.monthsLater 0 = wall := by
  obtain ⟨monthLow, monthHigh⟩ := Timestamp.month_bounds wall
  obtain ⟨dayLow, -⟩ := Timestamp.day_bounds wall
  have sameMonth : wall.firstOfMonthLater 0 = ⟨wall.date.year, wall.date.month, 1⟩ := by
    simp only [firstOfMonthLater, Date.mk.injEq, and_true]
    omega
  have sameDay : Date.toDayNumber ⟨wall.date.year, wall.date.month, wall.date.day⟩ =
      wall.dayNumber := Date.toDayNumber_ofDayNumber _
  rw [monthsLater, sameMonth, Date.toDayNumber_first_add _ _ dayLow, sameDay,
    Timestamp.onDay_dayNumber]

/-- Moving a wall clock by nothing leaves it where it is, in every unit. -/
@[simp] theorem Offset.moved_zero (unit : TimeUnit) (t : Timestamp) :
    (⟨0, unit⟩ : Offset).moved t = t := by
  cases unit with
  | months | years => exact WallClock.monthsLater_zero t
  | seconds | minutes | hours | days | weeks => exact t.elapse_zero

namespace Clock

variable {clock : Clock} {zone : Zone} {instant : Instant}

/-- The search for a wall clock next to an instant that shows it finds this instant. -/
theorem instantAt?_of_wallClock {wall : WallClock}
    (read : clock.wallClock zone instant = .ok wall) :
    clock.instantAt? zone wall instant = instant.checked := by
  obtain ⟨rfl, -⟩ := wallClock_eq_ok_iff.1 read
  have back : (instant.shiftLine (clock.zoneOffset zone instant)).shiftLine
      (-clock.zoneOffset zone instant) = instant := by
    rw [Timestamp.shiftLine_shiftLine, Int.add_right_neg, Timestamp.shiftLine_zero]
  by_cases inside : instant.IsWithin 0
  · rw [instantAt?, settle_of_settled (by rwa [back]) (by rw [back]), back,
      Timestamp.checked_of_isWithin inside]
  · rw [instantAt?, maxCorrections, settle_succ, back, Timestamp.checked_of_not_isWithin inside,
      Option.bind_none]

/-- Elapsed time of no length leads nowhere, whether the wall clock can be read or not. -/
theorem shift?_zero_of_elapsed {unit : TimeUnit} {seconds : Nat}
    (length : unit.length = .elapsed seconds) :
    clock.shift? zone ⟨0, unit⟩ instant = .ok instant.checked := by
  simp only [shift?, length, Int.zero_mul]
  exact congrArg (fun later => Except.ok (Timestamp.checked later)) instant.elapse_zero

/-- An offset by nothing leads from an instant whose wall clock can be read to this instant. -/
theorem shift?_zero {wall : WallClock} (read : clock.wallClock zone instant = .ok wall)
    (unit : TimeUnit) : clock.shift? zone ⟨0, unit⟩ instant = .ok instant.checked := by
  cases length : unit.length with
  | elapsed seconds => exact shift?_zero_of_elapsed length
  | days count | months count =>
    have inside := (wallClock_eq_ok_iff.1 read).2
    rw [shift?_of_wallClock read (by simp [length]), Offset.moved_zero,
      Timestamp.checked_of_isWithin inside, Option.bind_some, instantAt?_of_wallClock read]

/-- In the second of two hours that the clock shows alike, no days later it is still the second. -/
example :
    let clock := ofTable ⟨1729992600, 0⟩ 0 { initial := 7200, changes := [⟨1729990800, 3600⟩] }
    clock.wallClock .host ⟨1729989000, 0⟩ = clock.wallClock .host ⟨1729992600, 0⟩ ∧
      clock.shift? .host ⟨0, .days⟩ ⟨1729992600, 0⟩ = .ok (some ⟨1729992600, 0⟩) := by
  decide

end Clock

namespace TimeStyle

/-- The style without its offset. -/
def withoutOffset (style : TimeStyle) : TimeStyle :=
  { style with offset := none }

/-- Without modifiers that are offsets the style has none, and nothing else changes. -/
theorem ofModifiers_filter_not_offset (modifiers : List Modifier) :
    ofModifiers (modifiers.filter fun modifier => modifier.kind? ≠ some .offset) =
      (ofModifiers modifiers).withoutOffset := by
  induction modifiers using List.reverseRecOn with
  | nil => rfl
  | append_singleton before last ih =>
    rw [List.filter_append, ofModifiers_append_singleton]
    cases last with
    | offset => exact (congrArg ofModifiers (List.append_nil _)).trans ih
    | zone | preset | pattern | range | unrecognized =>
      exact (ofModifiers_append_singleton _ _).trans (congrArg (select · _) ih)

/-- A time is displayed the same way with an offset by nothing and with none. -/
theorem display_zero {style : TimeStyle} {unit : TimeUnit} (shifts : style.offset = some ⟨0, unit⟩)
    (clock : Clock) (reading : Instant) :
    style.display clock reading = style.withoutOffset.display clock reading := by
  have plain : style.withoutOffset.display clock reading = style.render clock reading := rfl
  have atReading : reading.checked.getD reading = reading := by
    unfold Timestamp.checked
    split <;> rfl
  rw [plain]
  cases read : clock.wallClock style.zone reading with
  | ok wall => rw [display_of_shift?_eq shifts (Clock.shift?_zero read unit), atReading]
  | error fault =>
    -- Elapsed time does not need the wall clock and fails where it is rendered, other units before.
    cases length : unit.length with
    | elapsed seconds =>
      rw [display_of_shift?_eq shifts (Clock.shift?_zero_of_elapsed length), atReading]
    | days count | months count =>
      have faulty : clock.shift? style.zone ⟨0, unit⟩ reading = .error fault :=
        Clock.shift?_of_wallClock_eq_error read (by simp [length])
      simp only [display, shifts, Clock.shift, faulty, render, read]
      rfl

end TimeStyle

/-- Behind all other tokens an offset by zero units, with either sign, gives what the tokens
give without their offsets. -/
theorem Sources.outcome_now_append_zero (sources : Sources) (tokens : List Text) (unit : TimeUnit)
    (used : Usage) :
    let others := tokens.filter fun token => (Modifier.ofToken token).kind? ≠ some .offset
    (sources.now ((tokens ++ [['+', '0', unit.letter]]).map Modifier.ofToken)).outcome used =
        (sources.now (others.map Modifier.ofToken)).outcome used ∧
      (sources.now ((tokens ++ [['-', '0', unit.letter]]).map Modifier.ofToken)).outcome used =
        (sources.now (others.map Modifier.ofToken)).outcome used := by
  intro others
  have classified : others.map Modifier.ofToken =
      (tokens.map Modifier.ofToken).filter fun modifier => modifier.kind? ≠ some .offset := by
    rw [List.filter_map]
    rfl
  have append_zero (token : Text) (isZero : Modifier.ofToken token = .offset ⟨0, unit⟩) :
      (sources.now ((tokens ++ [token]).map Modifier.ofToken)).outcome used =
        (sources.now (others.map Modifier.ofToken)).outcome used := by
    rw [List.map_append, List.map_singleton, isZero, outcome_now, outcome_now, classified,
      TimeStyle.ofModifiers_append_singleton, TimeStyle.display_zero rfl,
      TimeStyle.ofModifiers_filter_not_offset]
    rfl
  exact ⟨append_zero _ (by cases unit <;> rfl), append_zero _ (by cases unit <;> rfl)⟩

end Stencil
