import Stencil.Json.Document
import Stencil.Settings

/-!
# Stored settings

The JSON form of resolver settings. A field that is not given has its default;
whether the values are consistent is not looked at.
-/

namespace Stencil.Settings

open Json

/-- The name of the field that holds the number of passes. -/
def maxPassesField : Text := "max_passes".toList

/-- The name of the field that holds the lower bound of random numbers. -/
def randomMinField : Text := "random_min".toList

/-- The name of the field that holds the upper bound of random numbers. -/
def randomMaxField : Text := "random_max".toList

/-- The names of all fields, in order. -/
def fields : List Text := [maxPassesField, randomMinField, randomMaxField]

/-- The settings that a value holds. -/
def ofValue? (value : Value) : Option Settings := do
  let record ← value.record? fields
  let defaults : Settings := {}
  return {
    maxPasses := ← record.optional? maxPassesField Value.word? defaults.maxPasses
    randomMin := ← record.optional? randomMinField Value.word? defaults.randomMin
    randomMax := ← record.optional? randomMaxField Value.word? defaults.randomMax }

/-- The settings that the octets of a JSON text hold. -/
def read? (octets : List UInt8) : Option Settings :=
  (Value.ofOctets? octets).bind ofValue?

/-- The JSON text of the settings. -/
def write (settings : Settings) : Text :=
  Document.record [
    (maxPassesField, .number settings.maxPasses.toNat),
    (randomMinField, .number settings.randomMin.toNat),
    (randomMaxField, .number settings.randomMax.toNat)]

end Stencil.Settings
