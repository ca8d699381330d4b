import Stencil.Builtin.Now
import Stencil.Builtin.Random
import Stencil.Builtin.Uuid
import Stencil.Expression

/-!
# Builtins

Names that stand for computed values: the time, a random identifier and a random
number. They are recognized without regard to ASCII case and hide variables of
the same name.
-/

namespace Stencil

/-- The computed values. -/
inductive Builtin
  | now
  | uuid
  | random
  deriving DecidableEq, Repr

namespace Builtin

/-- All builtins. -/
def all : List Builtin :=
  [.now, .uuid, .random]

/-- The name that a builtin goes by. -/
def name : Builtin → String
  | .now => "now"
  | .uuid => "uuid"
  | .random => "random"

/-- Further names of a builtin. -/
def aliases : Builtin → List String
  | .now => ["timestamp"]
  | .uuid => []
  | .random => ["rand"]

/-- What a builtin computes and which modifiers it takes. -/
def description : Builtin → String
  | .now =>
    "Current time. Modifiers: utc|local, iso|unix|unixms|date|time|datetime, " ++
      "fmt:<pattern>, offsets like +1h or -1M"
  | .uuid => "Random UUID v4"
  | .random => "Random integer, 0-100 unless a min-max modifier is given"

/-- An expression and a value that it can have. -/
def sample : Builtin → String
  | .now => "\x7bnow:utc:datetime\x7d -> 2024-06-15 10:30:45"
  | .uuid => "\x7buuid\x7d -> 550e8400-e29b-41d4-a716-446655440000"
  | .random => "\x7brandom:1-10\x7d -> 7"

/-- Whether a text names the builtin. -/
def isNamed (builtin : Builtin) (text : Text) : Bool :=
  (builtin.name :: builtin.aliases).any fun keyword => text.isKeyword keyword

/-- The builtin that a text names. -/
def ofName? (text : Text) : Option Builtin :=
  all.find? fun builtin => builtin.isNamed text

/-- Whether a text is reserved for a builtin. -/
def isReserved (text : Text) : Bool :=
  (ofName? text).isSome

/-- The value of a builtin with the modifiers. -/
def value (sources : Sources) (default : Range) (modifiers : List Modifier) : Builtin → Eval Text
  | .now => sources.now modifiers
  | .uuid => sources.uuid
  | .random => sources.randomNumber default modifiers

/-- The value of an expression that names a builtin, or nothing for any other
expression. -/
def evaluate? (sources : Sources) (default : Range) (expression : Expression) :
    Eval (Option Text) :=
  match ofName? expression.name with
  | some builtin => some <$> builtin.value sources default expression.classified
  | none => pure none

end Builtin
end Stencil
