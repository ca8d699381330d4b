import Stencil.Decimal
import Stencil.Time.Timestamp

/-!
# Custom time patterns

A pattern is a text with fields such as `YYYY` or `HH`. Each field is filled in
once, where it occurs first; all other characters are kept. Longer fields are
filled in before the shorter ones that they contain.
-/

namespace Stencil

/-- The fields of a time that a pattern can name. -/
inductive TimeField
  | fullYear
  | shortYear
  | paddedMonth
  | month
  | paddedDay
  | day
  | paddedHour
  | hour
  | minute
  | second
  | millis
  deriving DecidableEq, Repr

namespace TimeField

/-- All fields, in the order in which they are filled in. -/
def all : List TimeField :=
  [.fullYear, .shortYear, .paddedMonth, .month, .paddedDay, .day, .paddedHour, .hour, .minute,
    .second, .millis]

/-- The word that names the field in a pattern. -/
def word : TimeField → Text
  | .fullYear => "YYYY".toList
  | .shortYear => "YY".toList
  | .paddedMonth => "MM".toList
  | .month => "M".toList
  | .paddedDay => "DD".toList
  | .day => "D".toList
  | .paddedHour => "HH".toList
  | .hour => "H".toList
  | .minute => "mm".toList
  | .second => "ss".toList
  | .millis => "SSS".toList

/-- The year in at least four characters, a minus sign included. -/
def yearText (year : Int) : Text :=
  if year < 0 then '-' :: Decimal.padded 3 year.natAbs else Decimal.padded 4 year.natAbs

/-- The text of the field on a wall clock. A leap second shows as the last
millisecond of second 59. -/
def value (wall : WallClock) : TimeField → Text
  | .fullYear => yearText wall.date.year
  | .shortYear => Decimal.padded 2 (wall.date.year % 100).toNat
  | .paddedMonth => Decimal.padded 2 wall.date.month
  | .month => Decimal.write wall.date.month
  | .paddedDay => Decimal.padded 2 wall.date.day
  | .day => Decimal.write wall.date.day
  | .paddedHour => Decimal.padded 2 wall.hour
  | .hour => Decimal.write wall.hour
  | .minute => Decimal.padded 2 wall.minute
  | .second => Decimal.padded 2 wall.second
  | .millis => Decimal.padded 3 (min (wall.nanos / nanosPerMilli) 999)

end TimeField

/-- The pattern with its fields filled in from a wall clock. -/
def WallClock.fill (wall : WallClock) (pattern : Text) : Text :=
  TimeField.all.foldl (fun text field => text.replaceFirst field.word (field.value wall)) pattern

end Stencil
