import Stencil.Modifier
import Stencil.Eval

/-!
# Random numbers

The value of the random builtin: one number of the first range among the
modifiers, or of a default range. Inverted bounds are put in order.
-/

namespace Stencil

/-- The range that the modifier names, if it names one. -/
def Modifier.range? : Modifier → Option Range
  | .range bounds => some bounds
  | _ => none

/-- The range that a random number is drawn from, its bounds in order. -/
def Range.select (default : Range) (modifiers : List Modifier) : Range :=
  ((modifiers.findSome? Modifier.range?).getD default).sorted

/-- The value of a random expression with the modifiers. -/
def Sources.randomNumber (sources : Sources) (default : Range) (modifiers : List Modifier) :
    Eval Text := do
  let number ← sources.drawNumber (default.select modifiers)
  return Decimal.write number.toNat

end Stencil
