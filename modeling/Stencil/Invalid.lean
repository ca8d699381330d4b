import Stencil.Decimal

/-!
# Reasons to refuse an input

Every way in which a token, a name or a settings value can be refused, and the
one place that holds the wording.
-/

namespace Stencil

/-- What is inconsistent about resolver settings. -/
inductive SettingsFlaw
  | zeroPasses
  | invertedBounds (min max : UInt64)
  deriving DecidableEq, Repr

/-- The reason why an input is refused, with the input. -/
inductive Invalid
  | offset (token : Text)
  | range (token : Text)
  | variableName (name : Text)
  | settings (flaw : SettingsFlaw)
  deriving DecidableEq, Repr

/-- The wording of a flaw in resolver settings. -/
def SettingsFlaw.message : SettingsFlaw → Text
  | .zeroPasses => "max_passes must be at least 1".toList
  | .invertedBounds min max =>
    "random_min (".toList ++ Decimal.write min.toNat ++
      ") is greater than random_max (".toList ++ Decimal.write max.toNat ++ ")".toList

/-- The wording of a refusal. -/
def Invalid.message : Invalid → Text
  | .offset token => "invalid offset modifier: ".toList ++ token
  | .range token => "invalid range modifier: ".toList ++ token
  | .variableName name => "invalid variable name: ".toList ++ name
  | .settings flaw => "invalid settings: ".toList ++ flaw.message

end Stencil
