import Stencil.Time.Clock

/-!
# Shifting a time

Seconds, minutes and hours are elapsed time. Days and larger units move the wall
clock of the chosen zone, so that the time of day is kept when the zone changes
its offset. A shift that would leave the calendar has no result, and neither has
one whose length or number of months does not fit in the words that hold it.
-/

namespace Stencil

/-- What a unit of time is made of. -/
inductive UnitLength
  | elapsed (seconds : Nat)
  | days (count : Nat)
  | months (count : Nat)
  deriving DecidableEq, Repr

/-- The length of a unit. -/
def TimeUnit.length : TimeUnit → UnitLength
  | .seconds => .elapsed 1
  | .minutes => .elapsed 60
  | .hours => .elapsed 3600
  | .days => .days 1
  | .weeks => .days 7
  | .months => .months 1
  | .years => .months 12

/-- The number, if it is not above the largest signed number of a width and not
below the smallest one, which lies one further from zero. -/
def signed? (largest : Nat) (n : Int) : Option Int :=
  if -(largest : Int) - 1 ≤ n ∧ n ≤ largest then some n else none

/-- The number, if it fits in a signed word of 64 bits. -/
def word? (n : Int) : Option Int :=
  signed? 0x7fffffffffffffff n

/-- The number, if it fits in a signed word of 32 bits. -/
def halfWord? (n : Int) : Option Int :=
  signed? 0x7fffffff n

/-- The most seconds that a duration has. Durations are held in milliseconds, in
either direction no more than the largest signed word of 64 bits. -/
def maxDuration : Nat := 0x7fffffffffffffff / 1000

/-- The duration of so many seconds, if it can be held. -/
def duration? (seconds : Int) : Option Int :=
  if seconds.natAbs ≤ maxDuration then some seconds else none

/-- The timestamp after so many seconds have passed, if it lies within the calendar. -/
def Timestamp.elapse? (t : Timestamp) (seconds : Int) : Option Timestamp := do
  let duration ← duration? seconds
  (t.elapse duration).checked

namespace WallClock

/-- The wall clock that many days later at the same time of day. -/
def addDays? (wall : WallClock) (days : Int) : Option WallClock :=
  wall.elapse? (days * secondsPerDay)

/-- The wall clock that many months later at the same time of day. A day that
the month found does not have runs on into the month after it. -/
def addMonths? (wall : WallClock) (months : Int) : Option WallClock := do
  let date := wall.date
  let firstMonth ← word? (date.year * 12)
  let month ← word? (firstMonth + (date.month - 1 : Nat))
  let monthNumber ← word? (month + months)
  let year ← halfWord? (monthNumber / 12)
  let firstOfMonth : Date := ⟨year, (monthNumber % 12).toNat + 1, 1⟩
  if Date.first.year ≤ year ∧ year ≤ Date.last.year then
    (wall.onDay (firstOfMonth.toDayNumber + (date.day - 1 : Nat))).checked
  else none

/-- The wall clock that many units of so many months later. -/
def addMonthUnits? (wall : WallClock) (count : Nat) (amount : Int) : Option WallClock := do
  let months ← word? (amount * count)
  wall.addMonths? months

end WallClock

namespace Clock

/-- The instant at which the wall clock of a zone shows what the given move makes
of the wall clock at the given instant. -/
def moveWallClock (clock : Clock) (zone : Zone) (instant : Instant)
    (move : WallClock → Option WallClock) : Except Fault (Option Instant) := do
  let wall ← clock.wallClock zone instant
  return (move wall).bind fun target => clock.instantAt? zone target instant

/-- The instant shifted by an offset, if the calendar holds it. -/
def shift? (clock : Clock) (zone : Zone) (offset : Offset) (instant : Instant) :
    Except Fault (Option Instant) :=
  match offset.unit.length with
  | .elapsed seconds => .ok (instant.elapse? (offset.amount * seconds))
  | .days count =>
    clock.moveWallClock zone instant fun wall => wall.addDays? (offset.amount * count)
  | .months count =>
    clock.moveWallClock zone instant fun wall => wall.addMonthUnits? count offset.amount

/-- The instant shifted by an offset. An offset that leads out of the calendar is
disregarded. -/
def shift (clock : Clock) (zone : Zone) (offset : Offset) (instant : Instant) :
    Except Fault Instant := do
  return (← clock.shift? zone offset instant).getD instant

end Clock
end Stencil
