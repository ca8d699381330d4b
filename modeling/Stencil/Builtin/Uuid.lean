import Stencil.Eval

/-!
# Random identifiers

The text of a random identifier: sixteen random bytes of which six bits are
replaced by the version and the variant, in groups of hexadecimal digits.
-/

namespace Stencil.Uuid

/-- The bytes with version 4 and the standard variant set. -/
def stamp (bytes : Vector UInt8 16) : Vector UInt8 16 :=
  (bytes.set 6 ((bytes[6] &&& 0x0f) ||| 0x40)).set 8 ((bytes[8] &&& 0x3f) ||| 0x80)

/-- The two hexadecimal digits of a byte. -/
def hex (byte : UInt8) : Text :=
  [Nat.digitChar (byte.toNat / 16), Nat.digitChar (byte.toNat % 16)]

/-- The bytes from `first` up to but not including `last` in hexadecimal digits. -/
def group (bytes : Vector UInt8 16) (first last : Nat) : Text :=
  ((bytes.toList.take last).drop first).flatMap hex

/-- The text of an identifier made from random bytes. -/
def text (bytes : Vector UInt8 16) : Text :=
  let stamped := stamp bytes
  group stamped 0 4 ++ '-' :: group stamped 4 6 ++ '-' :: group stamped 6 8 ++
    '-' :: group stamped 8 10 ++ '-' :: group stamped 10 16

end Stencil.Uuid

namespace Stencil

/-- The value of an identifier expression. Modifiers have no effect on it. -/
def Sources.uuid (sources : Sources) : Eval Text := do
  return Uuid.text (← sources.drawBytes 16)

end Stencil
