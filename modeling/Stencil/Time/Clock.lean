import Stencil.Modifier
import Stencil.Time.Timestamp

/-!
# Clocks

A clock answers readings one after the other and knows the offset of its host's
zone from UTC at every instant. The wall clock of a zone shows the instant moved
by that offset; it fails only outside the calendar.
-/

namespace Stencil

/-- The instants that successive readings give, and the offset of the host's
zone in seconds east of UTC. -/
structure Clock where
  reading : Nat → Instant
  offsetAt : Instant → Int

/-- What stops an evaluation. -/
inductive Fault
  /-- A wall clock was to be read that lies outside the calendar. -/
  | wallClockOutsideCalendar
  deriving DecidableEq, Repr

/-- A change of a zone's offset. -/
structure ZoneChange where
  /-- The second from which the offset holds. -/
  since : Int
  offset : Int
  deriving DecidableEq, Repr

/-- The offsets of a zone: one that holds from the start, and changes. Among
changes that have taken place the later entry counts. -/
structure ZoneTable where
  initial : Int := 0
  changes : List ZoneChange := []
  deriving DecidableEq, Repr

/-- The offset that the table gives for an instant. -/
def ZoneTable.offsetAt (table : ZoneTable) (instant : Instant) : Int :=
  table.changes.foldl
    (fun offset change => if change.since ≤ instant.seconds then change.offset else offset)
    table.initial

namespace Clock

/-- The clock that starts at an instant and advances by the same number of
seconds after each reading. -/
def ofTable (start : Instant) (step : Int) (zone : ZoneTable) : Clock where
  reading n := start.shiftLine (step * n)
  offsetAt := zone.offsetAt

/-- The offset of a zone at an instant. -/
def zoneOffset (clock : Clock) : Zone → Instant → Int
  | .utc, _ => 0
  | .host, instant => clock.offsetAt instant

/-- What the wall clock of a zone shows at an instant. -/
def wallClock (clock : Clock) (zone : Zone) (instant : Instant) : Except Fault WallClock :=
  match (instant.shiftLine (clock.zoneOffset zone instant)).checked with
  | some wall => .ok wall
  | none => .error .wallClockOutsideCalendar

/-- The search for the instant at which the wall clock of a zone shows `wall`,
starting from a guess of the offset. Each step corrects the guess by the offset
at the instant found so far; a wall clock that the zone skips never settles, so
the number of corrections is limited. -/
def settle (clock : Clock) (zone : Zone) (wall : WallClock) : Nat → Int → Option Instant
  | 0, offset => (wall.shiftLine (-offset)).checked
  | corrections + 1, offset => do
    let candidate ← (wall.shiftLine (-offset)).checked
    let actual := clock.zoneOffset zone candidate
    if actual = offset then some candidate else settle clock zone wall corrections actual

/-- The number of corrections after which a search settles for what it found. -/
def maxCorrections : Nat := 3

/-- The instant at which the wall clock of a zone shows `wall`. Of several the
one with the offset of `near` is taken. Nothing is found outside the calendar. -/
def instantAt? (clock : Clock) (zone : Zone) (wall : WallClock) (near : Instant) :
    Option Instant :=
  settle clock zone wall maxCorrections (clock.zoneOffset zone near)

end Clock
end Stencil
