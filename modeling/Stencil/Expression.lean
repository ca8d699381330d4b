import Stencil.Modifier
import Stencil.Name

/-!
# Expressions

An expression is a name and its modifier tokens, written between braces with a
colon in front of each token. A segment `fmt` takes the rest of the body into
one token, so that a time pattern can hold colons of its own. Main statement:
the body that an expression was read from is its name and tokens joined again.
-/

namespace Stencil

/-- A name with modifier tokens, as written. -/
structure Expression where
  name : Text
  modifiers : List Text
  deriving DecidableEq, Repr

namespace Expression

/-- The tokens that the segments form: each segment is one token, except that
from the first segment `fmt` on all segments form one token together. -/
def gather : List Text → List Text
  | [] => []
  | segment :: rest =>
    if segment.isKeyword Modifier.formatKeyword then [segment ++ Text.prefixed ':' rest]
    else segment :: gather rest

/-- The expression with the given text between its braces. -/
def ofBody (body : Text) : Expression :=
  let (name, segments) := body.segments ':'
  ⟨name, gather segments⟩

/-- The text between the braces. -/
def body (expression : Expression) : Text :=
  expression.name ++ Text.prefixed ':' expression.modifiers

/-- The text of the expression in a template. -/
def text (expression : Expression) : Text :=
  '{' :: expression.body ++ ['}']

/-- Whether any token follows the name. -/
def hasModifiers (expression : Expression) : Bool :=
  !expression.modifiers.isEmpty

/-- The classes of the tokens, in order. -/
def classified (expression : Expression) : List Modifier :=
  expression.modifiers.map Modifier.ofToken

/-- Whether a template can hold an expression with this text between its braces:
a name, and behind each colon at least one character. -/
def isBody (body : Text) : Bool :=
  let (name, segments) := body.segments ':'
  Name.isValid name && segments.all fun segment => !segment.isEmpty

/-- Gathering segments does not change what they are joined to. -/
theorem prefixed_gather (segments : List Text) :
    Text.prefixed ':' (gather segments) = Text.prefixed ':' segments := by
  induction segments with
  | nil => rfl
  | cons segment rest ih =>
    unfold gather
    split
    · simp [Text.prefixed]
    · simpa [Text.prefixed] using ih

/-- Reading a body loses nothing. -/
@[simp] theorem body_ofBody (text : Text) : (ofBody text).body = text := by
  simp only [body, ofBody, prefixed_gather]
  exact Text.segments_join ':' text

end Expression
end Stencil
