import Stencil.Proofs.Time.Months
import Stencil.Proofs.Time.Search

/-!
# From a wall clock back to an instant

The search for the instant of a wall clock corrects its guess of the offset by the
offset at the instant found so far. In a zone whose offset changes at most once in
two days, all guesses but the first are among two offsets, so two corrections
reach the instant if there is one (`SeesTwo.shows_candidate`), and without one the
guesses alternate (`SeesTwo.exists_candidate_eq`). Main statement:
`instantAt?_of_isSpaced`.
-/

namespace Stencil

/-- The target that an offset in days or larger units gives for a wall clock: the
same time of day so many days later, or so many months later by the calendar. -/
def Offset.MovesWallClock (offset : Offset) (wall target : WallClock) : Prop :=
  match offset.unit.length with
  | .elapsed _ => False
  | .days count => target = wall.shiftLine (offset.amount * count * secondsPerDay)
  | .months count => target = wall.monthsLater (offset.amount * count)

namespace Clock

/-- The offsets of the host's zone are shorter than a day. -/
def OffsetsWithinDay (clock : Clock) : Prop :=
  ∀ instant, -86400 < clock.offsetAt instant ∧ clock.offsetAt instant < 86400

/-- In the host's zone the clock shows the wall clock at the instant. -/
def Shows (clock : Clock) (instant : Instant) (wall : WallClock) : Prop :=
  instant.shiftLine (clock.offsetAt instant) = wall

/-- The offset is the one that holds at the instant at which it gives the wall clock. -/
def Fits (clock : Clock) (wall : WallClock) (offset : Int) : Prop :=
  clock.offsetAt (wall.shiftLine (-offset)) = offset

variable {clock : Clock} {wall : WallClock} {offset : Int}

/-- A fitting offset leads to an instant that shows the wall clock. -/
theorem Fits.shows (fits : clock.Fits wall offset) :
    clock.Shows (wall.shiftLine (-offset)) wall := by
  unfold Shows
  rw [fits, Timestamp.shiftLine_shiftLine, Int.add_left_neg, Timestamp.shiftLine_zero]

/-- An instant that shows a wall clock is found by its own offset. -/
theorem Shows.eq_shiftLine {instant : Instant} (shows : clock.Shows instant wall) :
    wall.shiftLine (-clock.offsetAt instant) = instant := by
  rw [← shows, Timestamp.shiftLine_shiftLine, Int.add_right_neg, Timestamp.shiftLine_zero]

/-- The offset of an instant that shows a wall clock fits the wall clock. -/
theorem Shows.fits {instant : Instant} (shows : clock.Shows instant wall) :
    clock.Fits wall (clock.offsetAt instant) := by
  unfold Fits
  rw [shows.eq_shiftLine]

/-- Two days within the calendar the search tries nothing outside it. -/
theorem isWithin_candidate (bounded : clock.OffsetsWithinDay) (inside : wall.IsWithin 172800)
    (low : -86400 < offset) (high : offset < 86400) (corrections : Nat) :
    (clock.candidate .host wall corrections offset).IsWithin 0 := by
  induction corrections generalizing offset with
  | zero => exact inside.shiftLine (by omega) (by omega)
  | succ corrections ih => exact ih (bounded _).1 (bounded _).2

/-- Two days within the calendar the search finds the last instant that it tries. -/
theorem instantAt?_eq_candidate (bounded : clock.OffsetsWithinDay)
    (inside : wall.IsWithin 172800) (hint : Instant) :
    clock.instantAt? .host wall hint =
      some (clock.candidate .host wall maxCorrections (clock.offsetAt hint)) :=
  settle_eq_some_iff.2
    ⟨fun count _ => isWithin_candidate bounded inside (bounded hint).1 (bounded hint).2 count, rfl⟩

/-- The search ends at an offset that fits. -/
theorem Fits.candidate_eq (fits : clock.Fits wall offset) (corrections : Nat) :
    clock.candidate .host wall corrections offset = wall.shiftLine (-offset) := by
  have settled : clock.zoneOffset .host (wall.shiftLine (-offset)) = offset := fits
  exact candidate_of_settled settled corrections

/-- The candidates of the search see two offsets at most. -/
def SeesTwo (clock : Clock) (wall : WallClock) (first second : Int) : Prop :=
  ∀ offset, -86400 < offset → offset < 86400 →
    clock.offsetAt (wall.shiftLine (-offset)) = first ∨
      clock.offsetAt (wall.shiftLine (-offset)) = second

/-- If one of the two offsets fits, the search reaches one that does, from wherever
it starts: an offset that does not fit leads to the other. -/
theorem SeesTwo.shows_candidate (bounded : clock.OffsetsWithinDay) {first second : Int}
    (two : clock.SeesTwo wall first second)
    (one : clock.Fits wall first ∨ clock.Fits wall second) (low : -86400 < offset)
    (high : offset < 86400) :
    clock.Shows (clock.candidate .host wall maxCorrections offset) wall := by
  by_cases fits : clock.Fits wall offset
  · rw [fits.candidate_eq]
    exact fits.shows
  rw [maxCorrections, candidate, zoneOffset]
  have fromStart := two offset low high
  obtain ⟨low, high⟩ := bounded (wall.shiftLine (-offset))
  generalize clock.offsetAt (wall.shiftLine (-offset)) = next at fromStart low high ⊢
  by_cases nextFits : clock.Fits wall next
  · rw [nextFits.candidate_eq]
    exact nextFits.shows
  rw [candidate, zoneOffset]
  have fromNext := two next low high
  have moved : clock.offsetAt (wall.shiftLine (-next)) ≠ next := nextFits
  generalize clock.offsetAt (wall.shiftLine (-next)) = last at fromNext moved ⊢
  have lastFits : clock.Fits wall last := by
    rcases fromStart with rfl | rfl <;> rcases fromNext with rfl | rfl
    · exact absurd rfl moved
    · exact one.resolve_left nextFits
    · exact one.resolve_right nextFits
    · exact absurd rfl moved
  rw [lastFits.candidate_eq]
  exact lastFits.shows

/-- If neither of the two offsets fits, the guesses alternate between them, and the
search ends at one of them while the other holds there. -/
theorem SeesTwo.exists_candidate_eq (bounded : clock.OffsetsWithinDay) {first second : Int}
    (two : clock.SeesTwo wall first second) (none : ∀ offset, ¬ clock.Fits wall offset)
    (low : -86400 < offset) (high : offset < 86400) :
    ∃ last actual,
      clock.candidate .host wall maxCorrections offset = wall.shiftLine (-last) ∧
      clock.offsetAt (wall.shiftLine (-last)) = actual ∧
      (last = first ∧ actual = second ∨ last = second ∧ actual = first) := by
  rw [maxCorrections, candidate, zoneOffset]
  have fromStart := two offset low high
  obtain ⟨low, high⟩ := bounded (wall.shiftLine (-offset))
  generalize clock.offsetAt (wall.shiftLine (-offset)) = next at fromStart low high ⊢
  rw [candidate, zoneOffset]
  have fromNext := two next low high
  have moved : clock.offsetAt (wall.shiftLine (-next)) ≠ next := none next
  obtain ⟨low, high⟩ := bounded (wall.shiftLine (-next))
  generalize actualEq : clock.offsetAt (wall.shiftLine (-next)) = actual
    at fromNext moved low high ⊢
  have back : clock.offsetAt (wall.shiftLine (-actual)) = next := by
    have movedOn : clock.offsetAt (wall.shiftLine (-actual)) ≠ actual := none actual
    have fromActual := two actual low high
    omega
  rw [candidate, zoneOffset, back]
  exact ⟨next, actual, rfl, actualEq, by omega⟩

/-- In a zone with changes at least two days apart the candidates of the search see
one offset, or the offsets before and after one change. -/
theorem exists_seesTwo {table : ZoneTable} (zoned : clock.offsetAt = table.offsetAt)
    (spaced : table.IsSpaced) (wall : WallClock) :
    (∃ offset, clock.SeesTwo wall offset offset) ∨
    ∃ change ∈ table.changes,
      clock.SeesTwo wall (clock.offsetAt ⟨change.since - 1, 0⟩) change.offset ∧
      clock.offsetAt ⟨change.since, 0⟩ = change.offset ∧
      ∀ offset, -86400 < offset → offset < 86400 →
        clock.offsetAt (wall.shiftLine (-offset)) =
          if wall.seconds - offset < change.since then clock.offsetAt ⟨change.since - 1, 0⟩
          else change.offset := by
  rw [zoned]
  -- All guesses lie within two days, in which the zone changes once at most.
  rcases ZoneTable.exists_change_or_constant spaced (wall.seconds - 86399) with
    ⟨offset, constant⟩ | ⟨change, member, above, below, before, values⟩
  · refine .inl ⟨offset, fun guess low high => .inl ?_⟩
    rw [zoned]
    refine constant _ ?_ ?_ <;> simp only [Timestamp.seconds_shiftLine] <;> omega
  · have beforeEq : table.offsetAt ⟨change.since - 1, 0⟩ = before := by
      rw [values _ (by simp only; omega) (by simp only; omega), if_pos (by simp only; omega)]
    have afterEq : table.offsetAt ⟨change.since, 0⟩ = change.offset := by
      rw [values _ (by simp only; omega) (by simp only; omega), if_neg (by simp only; omega)]
    have candidates (offset : Int) (low : -86400 < offset) (high : offset < 86400) :
        table.offsetAt (wall.shiftLine (-offset)) =
          if wall.seconds - offset < change.since then before else change.offset := by
      rw [values _ (by simp only [Timestamp.seconds_shiftLine]; omega)
        (by simp only [Timestamp.seconds_shiftLine]; omega)]
      rfl
    refine .inr ⟨change, member, ?_, afterEq, ?_⟩ <;> rw [beforeEq]
    · intro offset low high
      rw [zoned, candidates offset low high]
      split
      · exact .inl rfl
      · exact .inr rfl
    · exact candidates

/-- Where the zone has changes at least two days apart, the search finds an instant
that shows the wall clock if there is one. -/
theorem exists_instantAt? {table : ZoneTable} (zoned : clock.offsetAt = table.offsetAt)
    (spaced : table.IsSpaced) (bounded : clock.OffsetsWithinDay) (inside : wall.IsWithin 172800)
    (hint : Instant) (shown : ∃ instant, clock.Shows instant wall) :
    ∃ found, clock.instantAt? .host wall hint = some found ∧ clock.Shows found wall := by
  obtain ⟨instant, shows⟩ := shown
  have fits := shows.fits
  have own : clock.offsetAt (wall.shiftLine (-clock.offsetAt instant)) = clock.offsetAt instant :=
    fits
  obtain ⟨low, high⟩ := bounded instant
  obtain ⟨hintLow, hintHigh⟩ := bounded hint
  refine ⟨_, instantAt?_eq_candidate bounded inside hint, ?_⟩
  rcases exists_seesTwo zoned spaced wall with ⟨offset, two⟩ | ⟨change, -, two, -, -⟩
  · refine two.shows_candidate bounded ?_ hintLow hintHigh
    rcases two _ low high with same | same <;> rw [own] at same <;> exact .inl (same ▸ fits)
  · refine two.shows_candidate bounded ?_ hintLow hintHigh
    rcases two _ low high with same | same <;> rw [own] at same
    · exact .inl (same ▸ fits)
    · exact .inr (same ▸ fits)

/-- An instant with the offset of the hint is the one that the search takes. -/
theorem instantAt?_of_offsetAt_eq (bounded : clock.OffsetsWithinDay)
    (inside : wall.IsWithin 172800) {hint instant : Instant} (shows : clock.Shows instant wall)
    (same : clock.offsetAt instant = clock.offsetAt hint) :
    clock.instantAt? .host wall hint = some instant := by
  rw [instantAt?_eq_candidate bounded inside, ← same, shows.fits.candidate_eq, shows.eq_shiftLine]

/-- A wall clock that no instant shows lies in the gap that a change of the zone
opens, and the search ends as far away from it as the gap is long. -/
theorem exists_gap {table : ZoneTable} (zoned : clock.offsetAt = table.offsetAt)
    (spaced : table.IsSpaced) (bounded : clock.OffsetsWithinDay) (inside : wall.IsWithin 172800)
    (hint : Instant) (notShown : ∀ instant, ¬ clock.Shows instant wall) :
    ∃ found change distance, clock.instantAt? .host wall hint = some found ∧
      change ∈ table.changes ∧
      change.since + clock.offsetAt ⟨change.since - 1, 0⟩ ≤ wall.seconds ∧
      wall.seconds < change.since + change.offset ∧
      clock.Shows found (wall.shiftLine distance) ∧
      distance.natAbs = (change.offset - clock.offsetAt ⟨change.since - 1, 0⟩).natAbs := by
  have none (offset : Int) : ¬ clock.Fits wall offset := fun fits => notShown _ fits.shows
  obtain ⟨hintLow, hintHigh⟩ := bounded hint
  rcases exists_seesTwo zoned spaced wall with
    ⟨offset, two⟩ | ⟨change, member, two, atChange, candidates⟩
  · -- One offset only would fit.
    have first := two _ hintLow hintHigh
    obtain ⟨low, high⟩ := bounded (wall.shiftLine (-clock.offsetAt hint))
    rcases first with same | same <;> rw [same] at low high <;>
      exact absurd ((two offset low high).elim id id) (none offset)
  · obtain ⟨beforeLow, beforeHigh⟩ := bounded ⟨change.since - 1, 0⟩
    obtain ⟨afterLow, afterHigh⟩ := bounded ⟨change.since, 0⟩
    rw [atChange] at afterLow afterHigh
    obtain ⟨last, actual, ended, holds, alternatives⟩ :=
      two.exists_candidate_eq bounded none hintLow hintHigh
    -- Neither offset fits: the wall clock is too late for the one before the change and too early
    -- for the one behind it.
    have beforeMisfit := none (clock.offsetAt ⟨change.since - 1, 0⟩)
    have afterMisfit := none change.offset
    unfold Fits at beforeMisfit afterMisfit
    rw [candidates _ beforeLow beforeHigh] at beforeMisfit
    rw [candidates _ afterLow afterHigh] at afterMisfit
    have opens : change.since + clock.offsetAt ⟨change.since - 1, 0⟩ ≤ wall.seconds :=
      Int.not_lt.1 fun early => beforeMisfit (if_pos (by omega))
    have closes : wall.seconds < change.since + change.offset :=
      Int.not_le.1 fun late => afterMisfit (if_neg (by omega))
    refine ⟨wall.shiftLine (-last), change, actual - last, ?_, member, opens, closes, ?_, ?_⟩
    · rw [instantAt?_eq_candidate bounded inside, ended]
    · unfold Shows
      rw [holds, Timestamp.shiftLine_shiftLine, Int.add_comm, Int.sub_eq_add_neg]
    · omega

/-- Days and larger units lead to the wall clock that they name if an instant shows
it, provided that the reading is not within a leap second. -/
theorem shift_of_movesWallClock {table : ZoneTable} (zoned : clock.offsetAt = table.offsetAt)
    (spaced : table.IsSpaced) (bounded : clock.OffsetsWithinDay) {offset : Offset}
    {reading : Instant} {target : WallClock} (noLeapSecond : reading.nanos < nanosPerSecond)
    (read : clock.wallClock .host reading = .ok wall) (moves : offset.MovesWallClock wall target)
    (inside : target.IsWithin 172800) (shown : ∃ instant, clock.Shows instant target) :
    ∃ found, clock.shift .host offset reading = .ok found ∧
      clock.wallClock .host found = .ok target := by
  obtain ⟨found, settled, shows⟩ :=
    exists_instantAt? zoned spaced bounded inside reading shown
  have inCalendar := Timestamp.checked_of_isWithin inside.inCalendar
  have readInside := (wallClock_eq_ok_iff.1 read).2
  -- Months and days differ in the move alone; the search for the target is the same.
  have moved (move : WallClock → Option WallClock) (leads : move wall = some target) :
      clock.moveWallClock .host reading move = .ok (some found) := by
    rw [moveWallClock_of_wallClock read, leads, Option.bind_some, settled]
  have shifted : clock.shift? .host offset reading = .ok (some found) := by
    unfold Offset.MovesWallClock at moves
    unfold shift?
    cases length : offset.unit.length with
    | elapsed seconds => simp [length] at moves
    | months count =>
      rw [length] at moves
      apply moved
      rw [WallClock.addMonthUnits?_eq readInside, ← moves]
      exact inCalendar
    | days count =>
      rw [length] at moves
      have nanos := nanos_of_wallClock read
      apply moved
      rw [WallClock.addDays?, Timestamp.elapse?_eq readInside,
        Timestamp.elapse_of_nanos_lt (by omega), ← moves]
      exact inCalendar
  refine ⟨found, ?_, ?_⟩
  · rw [shift, shifted]
    rfl
  · exact wallClock_eq_ok_iff.2 ⟨shows.symm, inside.inCalendar⟩

/-- In a zone with offsets shorter than a day and changes at least two days apart, a
wall clock at least two days within the calendar is found exactly if some instant
shows it, and of two such instants the one with the offset of the hint. A wall clock
in a gap is missed by the length of the gap. So days and larger units lead to the
wall clock that they name whenever it exists. -/
theorem instantAt?_of_isSpaced {clock : Clock} {table : ZoneTable}
    (zoned : clock.offsetAt = table.offsetAt) (spaced : table.IsSpaced)
    (bounded : clock.OffsetsWithinDay) :
    (∀ (wall : WallClock) (hint : Instant), wall.IsWithin 172800 →
      ((∃ instant, clock.Shows instant wall) →
        ∃ found, clock.instantAt? .host wall hint = some found ∧ clock.Shows found wall ∧
          ∀ instant, clock.Shows instant wall → clock.offsetAt instant = clock.offsetAt hint →
            found = instant) ∧
      ((∀ instant, ¬ clock.Shows instant wall) →
        ∃ found change distance, clock.instantAt? .host wall hint = some found ∧
          change ∈ table.changes ∧
          change.since + clock.offsetAt ⟨change.since - 1, 0⟩ ≤ wall.seconds ∧
          wall.seconds < change.since + change.offset ∧
          clock.Shows found (wall.shiftLine distance) ∧
          distance.natAbs = (change.offset - clock.offsetAt ⟨change.since - 1, 0⟩).natAbs)) ∧
    (∀ (offset : Offset) (reading : Instant) (wall target : WallClock),
      reading.nanos < nanosPerSecond → clock.wallClock .host reading = .ok wall →
      offset.MovesWallClock wall target → target.IsWithin 172800 →
      (∃ instant, clock.Shows instant target) →
        ∃ found, clock.shift .host offset reading = .ok found ∧
          clock.wallClock .host found = .ok target) := by
  refine ⟨fun wall hint inside => ⟨fun shown => ?_, ?_⟩, ?_⟩
  · obtain ⟨found, settled, shows⟩ := exists_instantAt? zoned spaced bounded inside hint shown
    refine ⟨found, settled, shows, fun instant alsoShows same => ?_⟩
    have direct := instantAt?_of_offsetAt_eq bounded inside alsoShows same
    exact Option.some.inj (settled.symm.trans direct)
  · exact exists_gap zoned spaced bounded inside hint
  · intro offset reading wall target noLeapSecond read moves inside shown
    exact shift_of_movesWallClock zoned spaced bounded noLeapSecond read moves inside shown

/-- A table of offsets shorter than a day gives the clock such offsets. -/
theorem offsetsWithinDay_ofTable {table : ZoneTable} (start : Instant) (step : Int)
    (initialShort : -86400 < table.initial ∧ table.initial < 86400)
    (changesShort : ∀ change ∈ table.changes, -86400 < change.offset ∧ change.offset < 86400) :
    (Clock.ofTable start step table).OffsetsWithinDay := by
  obtain ⟨initial, changes⟩ := table
  intro instant
  change -86400 < offsetAfter changes initial instant.seconds ∧
    offsetAfter changes initial instant.seconds < 86400
  induction changes generalizing initial with
  | nil => exact initialShort
  | cons change rest ih =>
    obtain ⟨changeShort, restShort⟩ := List.forall_mem_cons.1 changesShort
    rw [offsetAfter_cons]
    split
    · exact ih change.offset changeShort restShort
    · exact ih initial initialShort restShort

/-- One hour east of UTC, and two from the spring to the autumn of one year. -/
def summerTime : ZoneTable where
  initial := 3600
  changes := [⟨1711846800, 7200⟩, ⟨1729990800, 3600⟩]

/-- In the autumn one hour is shown twice, and the reading chooses among the two
instants; in the spring one hour is skipped. -/
theorem instantAt?_summerTime :
    let clock := Clock.ofTable ⟨1718447445, 0⟩ 0 summerTime
    clock.offsetAt = summerTime.offsetAt ∧ summerTime.IsSpaced ∧ clock.OffsetsWithinDay ∧
      clock.Shows ⟨1729992600, 0⟩ ⟨1729996200, 0⟩ ∧
      clock.instantAt? .host ⟨1729996200, 0⟩ (clock.reading 0) = some ⟨1729989000, 0⟩ ∧
      ∀ wall : WallClock, wall.IsWithin 172800 → (∀ instant, ¬ clock.Shows instant wall) →
        ∃ found, clock.instantAt? .host wall (clock.reading 0) = some found := by
  intro clock
  have spaced : summerTime.IsSpaced := by decide
  have bounded : clock.OffsetsWithinDay :=
    offsetsWithinDay_ofTable _ _ (by decide) (by decide)
  have zoned : clock.offsetAt = summerTime.offsetAt := rfl
  have exactly := instantAt?_of_isSpaced zoned spaced bounded
  have before : clock.Shows ⟨1729989000, 0⟩ ⟨1729996200, 0⟩ := rfl
  obtain ⟨found, settled, -, chosen⟩ :=
    (exactly.1 ⟨1729996200, 0⟩ (clock.reading 0) (by decide)).1 ⟨_, before⟩
  refine ⟨zoned, spaced, bounded, rfl, ?_, ?_⟩
  · rw [settled, chosen _ before rfl]
  · intro wall inside skipped
    obtain ⟨found, -, -, settled, -⟩ :=
      (exactly.1 wall (clock.reading 0) inside).2 skipped
    exact ⟨found, settled⟩

end Clock
end Stencil
