import Stencil.Invalid

/-!
# Number ranges

A number range is two decimal numerals joined by one minus sign, such as `1-10`.
The bounds are kept as they were written; nothing requires the first to be the
smaller one.
-/

namespace Stencil

/-- A range of 64-bit numbers, both bounds included, in the order of writing. -/
structure Range where
  min : UInt64
  max : UInt64
  deriving DecidableEq, Repr

namespace Range

/-- The bounds in ascending order. -/
def sorted (range : Range) : Range :=
  if range.min ≤ range.max then range else ⟨range.max, range.min⟩

/-- Reads two numerals with a minus sign between them. -/
def ofToken? (token : Text) : Option Range := do
  let (first, second) ← token.splitFirst? '-'
  let min ← Decimal.readWord? first
  let max ← Decimal.readWord? second
  return ⟨min, max⟩

/-- The token of a range. -/
def token (range : Range) : Text :=
  Decimal.write range.min.toNat ++ '-' :: Decimal.write range.max.toNat

/-- The token of a range reads back. -/
theorem ofToken?_token (range : Range) : ofToken? range.token = some range := by
  have digits : '-' ∉ Decimal.write range.min.toNat := fun member =>
    absurd (Nat.isDigit_of_mem_toDigits (by decide) (by decide) member) (by decide)
  simp [ofToken?, token, Text.splitFirst?_append digits]

/-- Reads a range token, or refuses it. -/
def parse (token : Text) : Except Invalid Range :=
  match ofToken? token with
  | some range => .ok range
  | none => .error (.range token)

/-- Sorted bounds are in ascending order. -/
theorem sorted_min_le_max (range : Range) : range.sorted.min ≤ range.sorted.max := by
  unfold sorted
  split
  · assumption
  · next inverted =>
    exact UInt64.le_of_lt (UInt64.not_le.1 inverted)

end Range
end Stencil
