import Stencil.Time.Date

/-!
# Timestamps

A timestamp counts seconds and nanoseconds on a line that starts at
1970-01-01T00:00:00. Read in UTC it is an instant; read on the clock of a zone
it is a wall clock. A leap second is part of the second before it: its
timestamp keeps the number of that second and counts its nanoseconds on from
one thousand million.
-/

namespace Stencil

/-- Seconds since the start of 1970 and nanoseconds within the second. -/
structure Timestamp where
  seconds : Int
  nanos : Nat := 0
  deriving DecidableEq, Repr

/-- A timestamp that is read in UTC. -/
abbrev Instant := Timestamp

/-- A timestamp that is read on the clock of a zone. -/
abbrev WallClock := Timestamp

/-- The number of seconds of a day. -/
def secondsPerDay : Nat := 86400

/-- The number of nanoseconds of a second. -/
def nanosPerSecond : Nat := 1000000000

/-- The number of nanoseconds of a millisecond. -/
def nanosPerMilli : Nat := 1000000

namespace Date

/-- The first day of the calendar. -/
def first : Date := ⟨-262143, 1, 1⟩

/-- The last day of the calendar. -/
def last : Date := ⟨262142, 12, 31⟩

end Date

namespace Timestamp

/-- The first second of the calendar. -/
def firstSecond : Int := Date.first.toDayNumber * secondsPerDay

/-- The last second of the calendar. -/
def lastSecond : Int := (Date.last.toDayNumber + 1) * secondsPerDay - 1

/-- Whether the timestamp lies within the calendar. -/
def inCalendar (t : Timestamp) : Bool :=
  firstSecond ≤ t.seconds && t.seconds ≤ lastSecond

/-- The timestamp, if it lies within the calendar. -/
def checked (t : Timestamp) : Option Timestamp :=
  if t.inCalendar then some t else none

/-- The timestamp that many seconds later on the line. Nanoseconds stay as they
are, those of a leap second too. -/
def shiftLine (t : Timestamp) (seconds : Int) : Timestamp :=
  { t with seconds := t.seconds + seconds }

/-- The timestamp after a duration has passed. A leap second is left behind by
any duration but zero; going back counts from the second after it. -/
def elapse (t : Timestamp) (seconds : Int) : Timestamp :=
  if t.nanos < nanosPerSecond ∨ seconds = 0 then t.shiftLine seconds
  else if 0 < seconds then ⟨t.seconds + seconds, t.nanos - nanosPerSecond⟩
  else ⟨t.seconds + 1 + seconds, t.nanos - nanosPerSecond⟩

/-- The number of the day. -/
def dayNumber (t : Timestamp) : Int :=
  t.seconds / secondsPerDay

/-- The second within the day. -/
def secondOfDay (t : Timestamp) : Nat :=
  (t.seconds % secondsPerDay).toNat

/-- The day. -/
def date (t : Timestamp) : Date :=
  .ofDayNumber t.dayNumber

/-- The hour of the day. -/
def hour (t : Timestamp) : Nat :=
  t.secondOfDay / 3600

/-- The minute of the hour. -/
def minute (t : Timestamp) : Nat :=
  t.secondOfDay / 60 % 60

/-- The second of the minute. A leap second belongs to second 59. -/
def second (t : Timestamp) : Nat :=
  t.secondOfDay % 60

/-- The timestamp on another day at the same time of day. -/
def onDay (t : Timestamp) (dayNumber : Int) : Timestamp :=
  { t with seconds := dayNumber * secondsPerDay + t.secondOfDay }

/-- Whole milliseconds since the start of 1970. A leap second adds all its
milliseconds. -/
def millis (t : Timestamp) : Int :=
  t.seconds * 1000 + (t.nanos / nanosPerMilli : Nat)

end Timestamp
end Stencil
