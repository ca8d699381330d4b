import Stencil.Eval
import Stencil.Time.Pattern
import Stencil.Time.Shift

/-!
# The current time

The value of the time builtin: one reading of the clock, shifted by at most one
offset, and rendered by a pattern, by a named format, or as an ISO 8601 text
with milliseconds.
-/

namespace Stencil

/-- What the modifiers of a time expression select. -/
structure TimeStyle where
  zone : Zone := .utc
  preset : Option Preset := none
  pattern : Option Text := none
  offset : Option Offset := none
  deriving DecidableEq, Repr

namespace TimeStyle

/-- The style after one more modifier. Of each kind the last one counts. -/
def select (style : TimeStyle) : Modifier → TimeStyle
  | .zone zone => { style with zone }
  | .preset preset => { style with preset := some preset }
  | .pattern pattern => { style with pattern := some pattern }
  | .offset offset => { style with offset := some offset }
  | .range _ | .unrecognized _ => style

/-- The style that the modifiers select. -/
def ofModifiers (modifiers : List Modifier) : TimeStyle :=
  modifiers.foldl select {}

/-- A further modifier has the last say on what it selects. -/
theorem ofModifiers_append_singleton (modifiers : List Modifier) (last : Modifier) :
    ofModifiers (modifiers ++ [last]) = (ofModifiers modifiers).select last := by
  rw [ofModifiers, List.foldl_append, List.foldl_cons, List.foldl_nil, ofModifiers]

end TimeStyle

namespace Timestamp

/-- The year in four digits, or with a sign and at least four digits if it is
negative or has more. -/
def signedYear (year : Int) : Text :=
  if year < 0 then '-' :: Decimal.padded 4 year.natAbs
  else if year ≤ 9999 then Decimal.padded 4 year.natAbs
  else '+' :: Decimal.padded 4 year.natAbs

/-- The day as year, month and day. -/
def dateText (t : Timestamp) : Text :=
  signedYear t.date.year ++ '-' :: Decimal.padded 2 t.date.month ++
    '-' :: Decimal.padded 2 t.date.day

/-- The time of day as hour, minute and second. A leap second is second 60. -/
def timeText (t : Timestamp) : Text :=
  Decimal.padded 2 t.hour ++ ':' :: Decimal.padded 2 t.minute ++
    ':' :: Decimal.padded 2 (t.second + t.nanos / nanosPerSecond)

/-- The milliseconds of the second. -/
def milliText (t : Timestamp) : Text :=
  Decimal.padded 3 (t.nanos % nanosPerSecond / nanosPerMilli)

/-- Day and time of day with milliseconds. -/
def isoText (t : Timestamp) : Text :=
  t.dateText ++ 'T' :: t.timeText ++ '.' :: t.milliText

end Timestamp

namespace TimeStyle

/-- An instant in a named format. The wall clock is that of the chosen zone; the
ISO 8601 text is in UTC for every zone and marks it only for `utc`. -/
def format (style : TimeStyle) (instant : Instant) (wall : WallClock) : Preset → Text
  | .unix => Decimal.writeInt instant.seconds
  | .unixMillis => Decimal.writeInt instant.millis
  | .date => wall.dateText
  | .time => wall.timeText
  | .dateTime => wall.dateText ++ ' ' :: wall.timeText
  | .iso =>
    match style.zone with
    | .utc => instant.isoText ++ ['Z']
    | .host => instant.isoText

/-- An instant in the chosen style. A pattern takes precedence over a named
format. The wall clock is read for every style, also for one that does not show
it. -/
def render (style : TimeStyle) (clock : Clock) (instant : Instant) : Except Fault Text := do
  let wall ← clock.wallClock style.zone instant
  match style.pattern with
  | some pattern => return wall.fill pattern
  | none => return style.format instant wall (style.preset.getD .iso)

/-- A reading of the clock shifted and rendered in the chosen style. -/
def display (style : TimeStyle) (clock : Clock) (reading : Instant) : Except Fault Text := do
  match style.offset with
  | some offset => style.render clock (← clock.shift style.zone offset reading)
  | none => style.render clock reading

end TimeStyle

/-- The value of a time expression with the modifiers. -/
def Sources.now (sources : Sources) (modifiers : List Modifier) : Eval Text := do
  let reading ← sources.readClock
  Eval.ofExcept ((TimeStyle.ofModifiers modifiers).display sources.clock reading)

end Stencil
