import Stencil.Proofs.Time.Arrival

/-!
# Units of fixed length

A unit of fixed length shifts a reading by a multiple of it. Seconds, minutes and hours
have a fixed length in every zone, and days and weeks in UTC, where no change of the
offset can make them longer or shorter. Such an offset is exact or, outside the calendar,
disregarded, and so are the counts of seconds and milliseconds that are shown. Main
statement: `outcome_now_of_seconds?`.
-/

namespace Stencil

/-- The number of seconds that a unit always has in a zone. -/
def TimeUnit.seconds? (zone : Zone) : TimeUnit → Option Nat
  | .seconds => some 1
  | .minutes => some 60
  | .hours => some 3600
  | .days => if zone = .utc then some 86400 else none
  | .weeks => if zone = .utc then some 604800 else none
  | .months | .years => none

namespace Timestamp

/-- Whole seconds add a thousand milliseconds each. -/
theorem millis_shiftLine (t : Timestamp) (seconds : Int) :
    (t.shiftLine seconds).millis = t.millis + 1000 * seconds := by
  simp only [millis, shiftLine]
  omega

/-- Outside a leap second the seconds are the whole seconds of the milliseconds, before
1970 too. -/
theorem millis_div {t : Timestamp} (noLeapSecond : t.nanos < nanosPerSecond) :
    t.millis / 1000 = t.seconds := by
  simp only [nanosPerSecond] at noLeapSecond
  simp only [millis, nanosPerMilli]
  omega

end Timestamp

namespace TimeUnit

variable {zone : Zone} {unit : TimeUnit} {seconds : Nat}

/-- Only UTC gives a fixed length to a unit that moves the wall clock. -/
theorem utc_or_elapsed_of_seconds? (fixed : unit.seconds? zone = some seconds) :
    zone = .utc ∨ ∃ length, unit.length = .elapsed length := by
  cases unit with
  | seconds | minutes | hours => exact .inr ⟨_, rfl⟩
  | days | weeks => exact .inl (Option.ite_none_right_eq_some.1 fixed).1
  | months | years => cases fixed

/-- An offset in a unit of fixed length makes so many times that length pass. -/
theorem moved_of_seconds? (fixed : unit.seconds? zone = some seconds) (amount : Int)
    (t : Timestamp) : (⟨amount, unit⟩ : Offset).moved t = t.elapse (amount * seconds) := by
  cases unit with
  | seconds | minutes | hours =>
    cases fixed
    rfl
  | days =>
    obtain ⟨-, same⟩ := Option.ite_none_right_eq_some.1 fixed
    cases same
    exact congrArg t.elapse (Int.mul_assoc amount 1 86400)
  | weeks =>
    obtain ⟨-, same⟩ := Option.ite_none_right_eq_some.1 fixed
    cases same
    exact congrArg t.elapse (Int.mul_assoc amount 7 86400)
  | months | years => cases fixed

end TimeUnit

/-- An offset in a unit of fixed length leads so many times that length on. -/
theorem Clock.shift?_of_seconds? {clock : Clock} {zone : Zone} {reading : Instant} {unit : TimeUnit}
    {seconds : Nat} (inside : reading.IsWithin 0) (noLeapSecond : reading.nanos < nanosPerSecond)
    (fixed : unit.seconds? zone = some seconds) (amount : Int) :
    clock.shift? zone ⟨amount, unit⟩ reading =
      .ok (reading.shiftLine (amount * seconds)).checked := by
  have checkedAtEnd : clock.shift? zone ⟨amount, unit⟩ reading =
      .ok ((⟨amount, unit⟩ : Offset).moved reading).checked := by
    rcases TimeUnit.utc_or_elapsed_of_seconds? fixed with rfl | ⟨length, elapsed⟩
    · exact shift?_utc inside _
    · exact shift?_of_elapsed inside elapsed
  rw [checkedAtEnd, TimeUnit.moved_of_seconds? fixed, Timestamp.elapse_of_nanos_lt noLeapSecond]

/-- Without a pattern a time is shown in its format if its wall clock can be read. -/
theorem TimeStyle.render_of_pattern_eq_none {style : TimeStyle} (noPattern : style.pattern = none)
    (clock : Clock) (instant : Instant) :
    style.render clock instant = (clock.wallClock style.zone instant).map fun wall =>
      style.format instant wall (style.preset.getD .iso) := by
  rw [render, noPattern]
  cases clock.wallClock style.zone instant <;> rfl

/-- An offset by any number of units of fixed length shifts a reading outside leap seconds by
exactly so many times the length if the calendar holds the result, and not at all otherwise.
The milliseconds shown change by as many thousands or stay, and the seconds shown are their
floored quotient by a thousand; they are shown unless the wall clock cannot be read. -/
theorem Sources.outcome_now_of_seconds? {sources : Sources} {modifiers : List Modifier}
    {used : Usage} {amount : Int} {unit : TimeUnit} {seconds : Nat}
    (inside : (sources.clock.reading used.readings).IsWithin 0)
    (noLeapSecond : (sources.clock.reading used.readings).nanos < nanosPerSecond)
    (shifts : (TimeStyle.ofModifiers modifiers).offset = some ⟨amount, unit⟩)
    (fixed : unit.seconds? (TimeStyle.ofModifiers modifiers).zone = some seconds) :
    let style := TimeStyle.ofModifiers modifiers
    let reading := sources.clock.reading used.readings
    let later : Instant := ⟨reading.seconds + amount * seconds, reading.nanos⟩
    let shown := if later.IsWithin 0 then later else reading
    let millis := reading.millis + if later.IsWithin 0 then 1000 * amount * seconds else 0
    (sources.now modifiers).outcome used =
        (style.render sources.clock shown, { used with readings := used.readings + 1 }) ∧
      (style.zone = .utc → ∃ text, style.render sources.clock shown = .ok text) ∧
      (style.pattern = none → style.preset = some .unixMillis →
        style.render sources.clock shown =
          (sources.clock.wallClock style.zone shown).map fun _ => Decimal.writeInt millis) ∧
      (style.pattern = none → style.preset = some .unix →
        style.render sources.clock shown =
          (sources.clock.wallClock style.zone shown).map fun _ =>
            Decimal.writeInt (millis / 1000)) := by
  intro style reading later shown millis
  obtain ⟨shownEq, shownMillis, shownNanos⟩ : later.checked.getD reading = shown ∧
      shown.millis = millis ∧ shown.nanos = reading.nanos := by
    by_cases laterInside : later.IsWithin 0
    · simp only [shown, millis, if_pos laterInside, Timestamp.checked_of_isWithin laterInside]
      exact ⟨rfl, Int.mul_assoc 1000 amount seconds ▸ reading.millis_shiftLine _, rfl⟩
    · simp only [shown, millis, if_neg laterInside, Timestamp.checked_of_not_isWithin laterInside]
      exact ⟨rfl, (Int.add_zero _).symm, trivial⟩
  have shifted : sources.clock.shift? style.zone ⟨amount, unit⟩ reading = .ok later.checked :=
    Clock.shift?_of_seconds? inside noLeapSecond fixed amount
  refine ⟨?_, fun utc => ?_, fun noPattern unixMillis => ?_, fun noPattern unix => ?_⟩
  · rw [Sources.outcome_now, TimeStyle.display_of_shift?_eq shifts shifted]
    exact congrArg (fun shown => (style.render sources.clock shown, _)) shownEq
  · rw [TimeStyle.exists_render_iff, utc, Clock.zoneOffset_utc, Timestamp.shiftLine_zero, ← shownEq]
    exact inside.getD_checked later
  · rw [TimeStyle.render_of_pattern_eq_none noPattern, unixMillis, ← shownMillis]
    rfl
  · rw [TimeStyle.render_of_pattern_eq_none noPattern, unix, ← shownMillis,
      Timestamp.millis_div (shownNanos ▸ noLeapSecond)]
    rfl

/-- Three hours before the last second but one of 1969 the count of seconds is rounded down,
and as many weeks as a word can hold are disregarded. -/
theorem Sources.outcome_now_of_seconds?_beforeEpoch :
    let sources : Sources := ⟨.ofTable ⟨-2, 500000000⟩ 0 { initial := 3600 }, .ofDraws []⟩
    let hours : List Modifier := [.zone .host, .offset ⟨-3, .hours⟩, .preset .unix]
    let weeks : List Modifier := [.offset ⟨0x7fffffffffffffff, .weeks⟩, .preset .unixMillis]
    (sources.clock.reading 0).IsWithin 0 ∧ (sources.clock.reading 0).nanos < nanosPerSecond ∧
      (sources.now hours).outcome {} = (.ok "-10802".toList, { readings := 1 }) ∧
      (sources.now weeks).outcome {} = (.ok "-1500".toList, { readings := 1 }) := by
  intro sources hours weeks
  have inside : (sources.clock.reading 0).IsWithin 0 := by decide
  have noLeapSecond : (sources.clock.reading 0).nanos < nanosPerSecond := by decide
  obtain ⟨atHours, -, -, seconds⟩ :=
    @outcome_now_of_seconds? sources hours {} (-3) .hours 3600 inside noLeapSecond rfl rfl
  obtain ⟨atWeeks, -, millis, -⟩ :=
    @outcome_now_of_seconds? sources weeks {} _ .weeks 604800 inside noLeapSecond rfl rfl
  refine ⟨inside, noLeapSecond, ?_, ?_⟩
  · rw [atHours, seconds rfl rfl, if_pos (by decide)]
    simp only [sources, hours]
    rfl
  · rw [atWeeks, millis rfl rfl, if_neg (by decide)]
    simp only [sources, weeks]
    rfl

end Stencil
