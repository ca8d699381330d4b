import Stencil.Builtin.Now
import Stencil.Proofs.Eval
import Stencil.Proofs.Time.Months
import Stencil.Proofs.Time.Search

/-!
# Where an offset leads

An offset leads from a reading to an instant, and the calendar may not hold all
that is met on the way. If it does the offset takes effect, and otherwise it is
disregarded (`exists_shift?_eq`). The wall clock of the
instant found is not met on the way but is needed to render it. So a time is not
rendered exactly if the calendar lacks that wall clock: `exists_display_iff`.
-/

namespace Stencil

/-- The timestamp that the offset makes of another, in the calendar or not. -/
def Offset.moved (offset : Offset) (t : Timestamp) : Timestamp :=
  match offset.unit.length with
  | .elapsed seconds => t.elapse (offset.amount * seconds)
  | .days count => t.elapse (offset.amount * count * secondsPerDay)
  | .months count => WallClock.monthsLater t (offset.amount * count)

/-- Months are added to the wall clock as months. -/
theorem Offset.moved_months (amount : Int) (t : Timestamp) :
    (⟨amount, .months⟩ : Offset).moved t = WallClock.monthsLater t (amount * 1) := rfl

/-- Years are added as twelve months each. -/
theorem Offset.moved_years (amount : Int) (t : Timestamp) :
    (⟨amount, .years⟩ : Offset).moved t = WallClock.monthsLater t (amount * 12) := rfl

namespace Clock

/-- The calendar holds the instant and its wall clock in the host's zone. -/
def CanShow (clock : Clock) (instant : Instant) : Prop :=
  instant.IsWithin 0 ∧ (instant.shiftLine (clock.offsetAt instant)).IsWithin 0

/-- What an offset makes of the wall clock of a reading. -/
def target (clock : Clock) (zone : Zone) (offset : Offset) (reading : Instant) : WallClock :=
  offset.moved (reading.shiftLine (clock.zoneOffset zone reading))

/-- The instant that an offset leads to from a reading. Days and larger units lead to
a wall clock first, and from there to the instant at which a search for it ends. -/
def arrival (clock : Clock) (zone : Zone) (offset : Offset) (reading : Instant) : Instant :=
  match offset.unit.length with
  | .elapsed _ => offset.moved reading
  | .days _ | .months _ =>
    clock.candidate zone (clock.target zone offset reading) maxCorrections
      (clock.zoneOffset zone reading)

/-- The calendar holds all that an offset meets on its way from a reading: the
instant that it leads to, and for days and larger units the wall clock before and
every instant that the search tries. -/
def Arrives (clock : Clock) (zone : Zone) (offset : Offset) (reading : Instant) : Prop :=
  match offset.unit.length with
  | .elapsed _ => (offset.moved reading).IsWithin 0
  | .days _ | .months _ =>
    (clock.target zone offset reading).IsWithin 0 ∧
      ∀ corrections ≤ maxCorrections,
        (clock.candidate zone (clock.target zone offset reading) corrections
          (clock.zoneOffset zone reading)).IsWithin 0

variable {clock : Clock} {zone : Zone} {offset : Offset} {reading : Instant}

/-- A clock that can show an instant has a wall clock for it in both zones. -/
theorem CanShow.wallClock_eq (shown : clock.CanShow reading) (zone : Zone) :
    clock.wallClock zone reading =
      .ok (reading.shiftLine (clock.zoneOffset zone reading)) := by
  refine wallClock_eq_ok_iff.2 ⟨rfl, ?_⟩
  cases zone with
  | utc => simpa [zoneOffset] using shown.1
  | host => exact shown.2

/-- Elapsed time is checked at its end. -/
theorem shift?_of_elapsed (inside : reading.IsWithin 0) {seconds : Nat}
    (length : offset.unit.length = .elapsed seconds) :
    clock.shift? zone offset reading = .ok (offset.moved reading).checked := by
  simp only [shift?, Offset.moved, length, Timestamp.elapse?_eq inside]

/-- Days and larger units are checked at the wall clock that they lead to and at
every instant that is tried for it. -/
theorem shift?_of_wallClock {wall : WallClock} (read : clock.wallClock zone reading = .ok wall)
    (wallUnit : ∀ seconds, offset.unit.length ≠ .elapsed seconds) :
    clock.shift? zone offset reading =
      .ok ((offset.moved wall).checked.bind fun target =>
        clock.instantAt? zone target reading) := by
  have inside := (wallClock_eq_ok_iff.1 read).2
  cases length : offset.unit.length with
  | elapsed seconds => exact absurd length (wallUnit seconds)
  | days count =>
    simp only [shift?, length, moveWallClock_of_wallClock read, Offset.moved,
      WallClock.addDays?, Timestamp.elapse?_eq inside]
  | months count =>
    simp only [shift?, length, moveWallClock_of_wallClock read, Offset.moved,
      WallClock.addMonthUnits?_eq inside]

/-- Days and larger units need the wall clock of the reading. -/
theorem shift?_of_wallClock_eq_error {fault : Fault}
    (read : clock.wallClock zone reading = .error fault)
    (wallUnit : ∀ seconds, offset.unit.length ≠ .elapsed seconds) :
    clock.shift? zone offset reading = .error fault := by
  cases length : offset.unit.length with
  | elapsed seconds => exact absurd length (wallUnit seconds)
  | days count | months count =>
    simp only [shift?, length, moveWallClock, read]
    rfl

/-- In UTC an offset of any unit is checked at its end. -/
theorem shift?_utc (inside : reading.IsWithin 0) (offset : Offset) :
    clock.shift? .utc offset reading = .ok (offset.moved reading).checked := by
  have read : clock.wallClock .utc reading = .ok reading :=
    wallClock_eq_ok_iff.2 ⟨reading.shiftLine_zero.symm, inside⟩
  have found : (offset.moved reading).checked.bind (clock.instantAt? .utc · reading) =
      (offset.moved reading).checked := by
    cases checked : (offset.moved reading).checked with
    | none => rfl
    | some target =>
      obtain ⟨same, targetInside⟩ := Timestamp.checked_eq_some_iff.1 checked
      rw [Option.bind_some, instantAt?_of_zoneOffset_eq clock.zoneOffset_utc, Int.neg_zero,
        Timestamp.shiftLine_zero, same, Timestamp.checked_of_isWithin (same ▸ targetInside)]
  cases length : offset.unit.length with
  | elapsed seconds => exact shift?_of_elapsed inside length
  | days count => rw [shift?_of_wallClock read (by simp [length]), found]
  | months count => rw [shift?_of_wallClock read (by simp [length]), found]

/-- A wall clock is searched for if the calendar holds it, and the search ends at the
last instant that it tries if the calendar holds them all. -/
theorem bind_instantAt?_eq_some_iff {wall : WallClock} {found : Instant} :
    (wall.checked.bind fun wall => clock.instantAt? zone wall reading) = some found ↔
      (wall.IsWithin 0 ∧ ∀ corrections ≤ maxCorrections,
        (clock.candidate zone wall corrections (clock.zoneOffset zone reading)).IsWithin 0) ∧
      found = clock.candidate zone wall maxCorrections (clock.zoneOffset zone reading) := by
  rw [Option.bind_eq_some_iff]
  constructor
  · rintro ⟨_, checked, settled⟩
    obtain ⟨rfl, inside⟩ := Timestamp.checked_eq_some_iff.1 checked
    obtain ⟨all, last⟩ := settle_eq_some_iff.1 settled
    exact ⟨⟨inside, all⟩, last⟩
  · rintro ⟨⟨inside, all⟩, last⟩
    exact ⟨wall, Timestamp.checked_of_isWithin inside, settle_eq_some_iff.2 ⟨all, last⟩⟩

/-- A shift is never stopped. It finds the instant that the offset leads to, and it
does so exactly if the calendar holds all on the way. -/
theorem CanShow.exists_shift?_eq (shown : clock.CanShow reading) (zone : Zone)
    (offset : Offset) :
    ∃ result, clock.shift? zone offset reading = .ok result ∧ ∀ found,
      result = some found ↔
        clock.Arrives zone offset reading ∧ found = clock.arrival zone offset reading := by
  cases length : offset.unit.length with
  | elapsed seconds =>
    refine ⟨_, shift?_of_elapsed shown.1 length, fun found => ?_⟩
    rw [Timestamp.checked_eq_some_iff, Arrives, arrival, length, and_comm]
  | days count =>
    refine ⟨_, shift?_of_wallClock (shown.wallClock_eq zone) (by simp [length]), fun found => ?_⟩
    rw [← target, bind_instantAt?_eq_some_iff, Arrives, arrival, length]
  | months count =>
    refine ⟨_, shift?_of_wallClock (shown.wallClock_eq zone) (by simp [length]), fun found => ?_⟩
    rw [← target, bind_instantAt?_eq_some_iff, Arrives, arrival, length]

/-- An offset that arrives shifts a reading to its arrival. -/
theorem CanShow.shift_of_arrives (shown : clock.CanShow reading)
    (arrives : clock.Arrives zone offset reading) :
    clock.shift zone offset reading = .ok (clock.arrival zone offset reading) := by
  obtain ⟨result, shifted, found⟩ := shown.exists_shift?_eq zone offset
  rw [shift, shifted, (found _).2 ⟨arrives, rfl⟩]
  rfl

/-- An offset that does not arrive leaves a reading as it is. -/
theorem CanShow.shift_of_not_arrives (shown : clock.CanShow reading)
    (out : ¬ clock.Arrives zone offset reading) :
    clock.shift zone offset reading = .ok reading := by
  obtain ⟨result, shifted, found⟩ := shown.exists_shift?_eq zone offset
  have nothing : result = none :=
    Option.eq_none_iff_forall_ne_some.2 fun instant same => out ((found instant).1 same).1
  rw [shift, shifted, nothing]
  rfl

/-- An offset that arrives leads to an instant of the calendar. -/
theorem Arrives.isWithin_arrival (arrives : clock.Arrives zone offset reading) :
    (clock.arrival zone offset reading).IsWithin 0 := by
  unfold Arrives at arrives
  unfold arrival
  cases length : offset.unit.length with
  | elapsed seconds =>
    rw [length] at arrives
    exact arrives
  | days count | months count =>
    rw [length] at arrives
    exact arrives.2 maxCorrections (Nat.le_refl _)

end Clock

namespace TimeStyle

variable {style : TimeStyle} {clock : Clock} {reading : Instant}

/-- The offset of the style leads to an instant that the calendar holds while it does
not hold the wall clock of that instant. -/
def Overruns (style : TimeStyle) (clock : Clock) (reading : Instant) : Prop :=
  ∃ offset, style.offset = some offset ∧ clock.Arrives style.zone offset reading ∧
    ¬ ((clock.arrival style.zone offset reading).shiftLine
      (clock.zoneOffset style.zone (clock.arrival style.zone offset reading))).IsWithin 0

/-- In a zone without an offset an instant is its own wall clock. -/
theorem not_overruns_of_zoneOffset_eq_zero
    (noOffset : ∀ instant, clock.zoneOffset style.zone instant = 0) :
    ¬ style.Overruns clock reading := by
  rintro ⟨offset, -, arrives, outside⟩
  rw [noOffset, Timestamp.shiftLine_zero] at outside
  exact outside arrives.isWithin_arrival

/-- Only the wall clocks of the host can lie outside the calendar: those of UTC show the
instant itself. -/
theorem Overruns.zone_eq_host (overruns : style.Overruns clock reading) : style.zone = .host := by
  cases zone : style.zone with
  | utc => exact absurd overruns (not_overruns_of_zoneOffset_eq_zero fun _ => by rw [zone]; rfl)
  | host => rfl

/-- On a host without an offset no time overruns the calendar. -/
theorem not_overruns_of_offsetAt_eq_zero (host : ∀ instant, clock.offsetAt instant = 0) :
    ¬ style.Overruns clock reading := by
  refine not_overruns_of_zoneOffset_eq_zero fun instant => ?_
  cases style.zone with
  | utc => rfl
  | host => exact host instant

/-- An instant is rendered if the calendar holds its wall clock, whatever the style
shows of it. -/
theorem exists_render_iff {instant : Instant} :
    (∃ text, style.render clock instant = .ok text) ↔
      (instant.shiftLine (clock.zoneOffset style.zone instant)).IsWithin 0 := by
  constructor
  · rintro ⟨text, rendered⟩
    obtain ⟨wall, read, -⟩ := Except.bind_eq_ok_iff.1 rendered
    obtain ⟨rfl, inside⟩ := Clock.wallClock_eq_ok_iff.1 read
    exact inside
  · intro inside
    rw [render, Clock.wallClock_eq_ok_iff.2 ⟨rfl, inside⟩]
    cases style.pattern with
    | none => exact ⟨_, rfl⟩
    | some pattern => exact ⟨_, rfl⟩

/-- A reading is rendered in any style if the calendar holds its wall clock. -/
theorem exists_render_of_canShow (style : TimeStyle) (shown : clock.CanShow reading) :
    ∃ text, style.render clock reading = .ok text :=
  exists_render_iff.2 (Clock.wallClock_eq_ok_iff.1 (shown.wallClock_eq style.zone)).2

/-- What is displayed is the shifted reading, or the reading itself if there is none. -/
theorem display_of_shift?_eq {offset : Offset} {result : Option Instant}
    (shifts : style.offset = some offset)
    (shifted : clock.shift? style.zone offset reading = .ok result) :
    style.display clock reading = style.render clock (result.getD reading) := by
  simp only [display, shifts, Clock.shift, shifted]
  rfl

/-- With an offset that does not arrive the reading itself is displayed. -/
theorem display_of_not_arrives (shown : clock.CanShow reading) {offset : Offset}
    (shifts : style.offset = some offset) (out : ¬ clock.Arrives style.zone offset reading) :
    style.display clock reading = style.render clock reading := by
  simp only [display, shifts, shown.shift_of_not_arrives out]
  rfl

/-- With an offset that arrives its arrival is displayed. -/
theorem display_of_arrives (shown : clock.CanShow reading) {offset : Offset}
    (shifts : style.offset = some offset) (arrives : clock.Arrives style.zone offset reading) :
    style.display clock reading =
      style.render clock (clock.arrival style.zone offset reading) := by
  simp only [display, shifts, shown.shift_of_arrives arrives]
  rfl

/-- A time is displayed exactly if its offset does not overrun the calendar. -/
theorem exists_display_iff (shown : clock.CanShow reading) :
    (∃ text, style.display clock reading = .ok text) ↔ ¬ style.Overruns clock reading := by
  cases shifts : style.offset with
  | none =>
    have plain : style.display clock reading = style.render clock reading := by
      rw [display, shifts]
    rw [plain]
    apply iff_of_true (exists_render_of_canShow style shown)
    rintro ⟨offset, has, -⟩
    cases shifts.symm.trans has
  | some offset =>
    -- An offset that does not arrive is disregarded, so only one that arrives can overrun.
    by_cases arrives : clock.Arrives style.zone offset reading
    · rw [display_of_arrives shown shifts arrives, exists_render_iff]
      constructor
      · rintro inside ⟨other, has, -, outside⟩
        cases shifts.symm.trans has
        exact outside inside
      · intro within
        by_cases inside : ((clock.arrival style.zone offset reading).shiftLine
            (clock.zoneOffset style.zone (clock.arrival style.zone offset reading))).IsWithin 0
        · exact inside
        · exact absurd ⟨offset, shifts, arrives, inside⟩ within
    · rw [display_of_not_arrives shown shifts arrives]
      apply iff_of_true (exists_render_of_canShow style shown)
      rintro ⟨other, has, alsoArrives, -⟩
      cases shifts.symm.trans has
      exact arrives alsoArrives

end TimeStyle

/-- The time builtin takes a reading and displays it. -/
theorem Sources.outcome_now (sources : Sources) (modifiers : List Modifier) (usage : Usage) :
    (sources.now modifiers).outcome usage =
      ((TimeStyle.ofModifiers modifiers).display sources.clock
          (sources.clock.reading usage.readings),
        { usage with readings := usage.readings + 1 }) := by
  rw [now, Eval.outcome_bind, outcome_readClock]
  rfl

end Stencil
