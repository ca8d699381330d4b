import Stencil.Modifier.Offset
import Stencil.Modifier.Range

/-!
# Modifiers

The tokens that follow a builtin name in an expression. Each token belongs to
exactly one class; a token of no known class is kept as unrecognized and has no
effect.
-/

namespace Stencil

/-- The zone whose wall clock a time is rendered in. -/
inductive Zone
  | utc
  /-- The zone that the clock reports for its host. -/
  | host
  deriving DecidableEq, Repr

/-- The named formats of a time. -/
inductive Preset
  | iso
  | unix
  | unixMillis
  | date
  | time
  | dateTime
  deriving DecidableEq, Repr

/-- A classified modifier token. -/
inductive Modifier
  | zone (zone : Zone)
  | preset (preset : Preset)
  | pattern (pattern : Text)
  | offset (offset : Offset)
  | range (range : Range)
  | unrecognized (token : Text)
  deriving DecidableEq, Repr

/-- The zone that a keyword selects. -/
def Zone.ofKeyword? (token : Text) : Option Zone :=
  if token.isKeyword "utc" then some .utc
  else if token.isKeyword "local" then some .host
  else none

namespace Preset

/-- The keyword of a format, in small letters. -/
def keyword : Preset → String
  | .iso => "iso"
  | .unix => "unix"
  | .unixMillis => "unixms"
  | .date => "date"
  | .time => "time"
  | .dateTime => "datetime"

/-- All named formats. -/
def all : List Preset :=
  [.iso, .unix, .unixMillis, .date, .time, .dateTime]

/-- The format that a keyword selects. -/
def ofKeyword? (token : Text) : Option Preset :=
  all.find? fun preset => token.isKeyword preset.keyword

end Preset

namespace Modifier

/-- The keyword in front of a custom pattern, without its colon. -/
def formatKeyword : String := "fmt"

/-- The pattern of a token that starts with `fmt:`. An empty pattern does not
count. -/
def pattern? (token : Text) : Option Text :=
  match token.splitFirst? ':' with
  | some (keyword, rest) =>
    if keyword.isKeyword formatKeyword ∧ rest ≠ [] then some rest else none
  | none => none

/-- The class of a token. -/
def ofToken (token : Text) : Modifier :=
  ((pattern? token).map Modifier.pattern
    <|> (Zone.ofKeyword? token).map Modifier.zone
    <|> (Preset.ofKeyword? token).map Modifier.preset
    <|> (Offset.ofToken? token).map Modifier.offset
    <|> (Range.ofToken? token).map Modifier.range).getD (.unrecognized token)

/-- Whether the token has no effect on any builtin. -/
def isUnrecognized : Modifier → Bool
  | .unrecognized _ => true
  | _ => false

end Modifier
end Stencil
