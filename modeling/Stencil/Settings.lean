import Stencil.Modifier.Range

/-!
# Resolver settings

How often a template is scanned again, and the range that random numbers come
from when an expression names none. Any three 64-bit numbers can be stored; the
resolver limits the number of passes by itself, and `validate` is for those who
store settings.
-/

namespace Stencil

/-- The settings of a resolver. -/
structure Settings where
  maxPasses : UInt64 := 10
  randomMin : UInt64 := 0
  randomMax : UInt64 := 100
  deriving DecidableEq, Repr, Inhabited

namespace Settings

/-- The number of passes that no setting can exceed. -/
def passLimit : Nat := 10

/-- The number of passes in effect: at least one and at most the limit. -/
def passes (settings : Settings) : Nat :=
  max 1 (min settings.maxPasses.toNat passLimit)

/-- The range of random numbers for expressions that name none. -/
def defaultRange (settings : Settings) : Range :=
  ⟨settings.randomMin, settings.randomMax⟩

/-- What is inconsistent about the settings, if anything. Missing passes are
reported before inverted bounds. -/
def flaw? (settings : Settings) : Option SettingsFlaw :=
  if settings.maxPasses = 0 then some .zeroPasses
  else if settings.randomMax < settings.randomMin then
    some (.invertedBounds settings.randomMin settings.randomMax)
  else none

/-- Refuses inconsistent settings. -/
def validate (settings : Settings) : Except Invalid Unit :=
  match settings.flaw? with
  | none => .ok ()
  | some flaw => .error (.settings flaw)

/-- There is always at least one pass and never more than the limit. -/
theorem passes_bounds (settings : Settings) :
    1 ≤ settings.passes ∧ settings.passes ≤ passLimit := by
  simp only [passes, passLimit]
  omega

end Settings
end Stencil
