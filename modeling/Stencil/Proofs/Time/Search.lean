import Stencil.Proofs.Time.Zone

/-!
# The search for a wall clock

The instants that a search for a wall clock tries, one correction after the other,
as if the calendar held them all. A search finds the last of them exactly if it
does: `settle_eq_some_iff`.
-/

namespace Stencil.Clock

/-- Nothing is added in UTC. -/
@[simp] theorem zoneOffset_utc (clock : Clock) (instant : Instant) :
    clock.zoneOffset .utc instant = 0 := rfl

/-- The wall clock of a zone shows the shifted instant if the calendar holds it. -/
theorem wallClock_eq_ok_iff {clock : Clock} {zone : Zone} {instant : Instant} {wall : WallClock} :
    clock.wallClock zone instant = .ok wall ↔
      wall = instant.shiftLine (clock.zoneOffset zone instant) ∧ wall.IsWithin 0 := by
  unfold wallClock
  split
  · next shown checked =>
    obtain ⟨rfl, inside⟩ := Timestamp.checked_eq_some_iff.1 checked
    rw [Except.ok.injEq]
    constructor
    · rintro rfl
      exact ⟨rfl, inside⟩
    · rintro ⟨rfl, -⟩
      rfl
  · next unchecked =>
    simp only [reduceCtorEq, false_iff]
    rintro ⟨rfl, inside⟩
    rw [Timestamp.checked_of_isWithin inside] at unchecked
    cases unchecked

/-- A wall clock shows the nanoseconds of its instant. -/
theorem nanos_of_wallClock {clock : Clock} {zone : Zone} {instant : Instant} {wall : WallClock}
    (read : clock.wallClock zone instant = .ok wall) : wall.nanos = instant.nanos := by
  rw [(wallClock_eq_ok_iff.1 read).1, Timestamp.shiftLine]

/-- A move of the wall clock leads to a wall clock and from there to an instant. -/
theorem moveWallClock_of_wallClock {clock : Clock} {zone : Zone} {instant : Instant}
    {wall : WallClock} (read : clock.wallClock zone instant = .ok wall)
    (move : WallClock → Option WallClock) :
    clock.moveWallClock zone instant move =
      .ok ((move wall).bind fun target => clock.instantAt? zone target instant) := by
  rw [moveWallClock, read]
  rfl

/-- The instant that a search for a wall clock tries after so many corrections. -/
def candidate (clock : Clock) (zone : Zone) (wall : WallClock) : Nat → Int → Instant
  | 0, offset => wall.shiftLine (-offset)
  | corrections + 1, offset =>
    candidate clock zone wall corrections (clock.zoneOffset zone (wall.shiftLine (-offset)))

variable {clock : Clock} {zone : Zone} {wall : WallClock} {offset : Int}

/-- A search that has settled tries nothing else. -/
theorem candidate_of_settled
    (settled : clock.zoneOffset zone (wall.shiftLine (-offset)) = offset) (corrections : Nat) :
    clock.candidate zone wall corrections offset = wall.shiftLine (-offset) := by
  induction corrections with
  | zero => rfl
  | succ corrections ih => rw [candidate, settled, ih]

/-- Every instant that is tried has the nanoseconds of the wall clock. -/
@[simp] theorem nanos_candidate (corrections : Nat) (offset : Int) :
    (clock.candidate zone wall corrections offset).nanos = wall.nanos := by
  induction corrections generalizing offset with
  | zero => rfl
  | succ corrections ih => exact ih _

/-- A search stops at an instant that shows the wall clock. -/
theorem settle_of_settled (inside : (wall.shiftLine (-offset)).IsWithin 0)
    (settled : clock.zoneOffset zone (wall.shiftLine (-offset)) = offset) (corrections : Nat) :
    clock.settle zone wall corrections offset = some (wall.shiftLine (-offset)) := by
  cases corrections with
  | zero => exact Timestamp.checked_of_isWithin inside
  | succ corrections =>
    rw [settle, Timestamp.checked_of_isWithin inside]
    exact if_pos settled

/-- A search goes on from every instant that it tries. Stopping there would give
the same. -/
theorem settle_succ (corrections : Nat) :
    clock.settle zone wall (corrections + 1) offset =
      (wall.shiftLine (-offset)).checked.bind fun found =>
        clock.settle zone wall corrections (clock.zoneOffset zone found) := by
  by_cases inside : (wall.shiftLine (-offset)).IsWithin 0
  · rw [settle, Timestamp.checked_of_isWithin inside, Option.bind_some]
    by_cases settled : clock.zoneOffset zone (wall.shiftLine (-offset)) = offset
    · rw [settled, settle_of_settled inside settled]
      exact if_pos settled
    · exact if_neg settled
  · rw [settle, Timestamp.checked_of_not_isWithin inside]
    rfl

/-- A search finds an instant exactly if the calendar holds all that it tries, and
then it finds the last. -/
theorem settle_eq_some_iff {corrections : Nat} {found : Instant} :
    clock.settle zone wall corrections offset = some found ↔
      (∀ count ≤ corrections, (clock.candidate zone wall count offset).IsWithin 0) ∧
        found = clock.candidate zone wall corrections offset := by
  induction corrections generalizing offset with
  | zero =>
    rw [settle, Timestamp.checked_eq_some_iff, and_comm]
    refine and_congr_left' ⟨fun inside count le => ?_, fun all => all 0 (Nat.le_refl 0)⟩
    rw [Nat.le_zero.1 le]
    exact inside
  | succ corrections ih =>
    rw [settle_succ, Option.bind_eq_some_iff]
    constructor
    · rintro ⟨first, checked, settled⟩
      obtain ⟨rfl, inside⟩ := Timestamp.checked_eq_some_iff.1 checked
      obtain ⟨others, last⟩ := ih.1 settled
      refine ⟨fun count le => ?_, last⟩
      cases count with
      | zero => exact inside
      | succ count => exact others count (Nat.le_of_succ_le_succ le)
    · rintro ⟨all, last⟩
      have inside := all 0 (Nat.zero_le _)
      refine ⟨_, Timestamp.checked_of_isWithin inside, ih.2 ⟨fun count le => ?_, last⟩⟩
      exact all (count + 1) (Nat.succ_le_succ le)

/-- In a zone that never changes its offset the first instant tried is the one found. -/
theorem instantAt?_of_zoneOffset_eq (constant : ∀ instant, clock.zoneOffset zone instant = offset)
    (wall : WallClock) (near : Instant) :
    clock.instantAt? zone wall near = (wall.shiftLine (-offset)).checked := by
  rw [instantAt?, constant]
  by_cases inside : (wall.shiftLine (-offset)).IsWithin 0
  · rw [settle_of_settled inside (constant _), Timestamp.checked_of_isWithin inside]
  · rw [maxCorrections, settle_succ, Timestamp.checked_of_not_isWithin inside, Option.bind_none]

end Stencil.Clock
