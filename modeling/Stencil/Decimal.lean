import Stencil.Text

/-!
# Decimal numerals

Unsigned decimal numerals as they occur in modifier tokens, settings files and
rendered values. Reading accepts leading zeros, writing produces none except by
padding.
-/

namespace Stencil.Decimal

/-- The number written by a non-empty run of ASCII digits. -/
def read? (text : Text) : Option Nat :=
  if text ≠ [] ∧ text.all Char.isDigit then some (Nat.ofDigitChars 10 text 0) else none

/-- The number written by a non-empty run of ASCII digits, if it fits in 64
bits. -/
def readWord? (text : Text) : Option UInt64 :=
  (read? text).bind fun n => if n < UInt64.size then some (.ofNat n) else none

/-- The shortest numeral of a number. -/
def write (n : Nat) : Text :=
  Nat.toDigits 10 n

/-- The numeral of a number, filled up with zeros to at least the given number of
digits. -/
def padded (width n : Nat) : Text :=
  (write n).leftpad width '0'

/-- The numeral of an integer, with a minus sign in front of a negative one. -/
def writeInt (n : Int) : Text :=
  if n < 0 then '-' :: write n.natAbs else write n.natAbs

/-- A written numeral reads back. -/
@[simp] theorem read?_write (n : Nat) : read? (write n) = some n := by
  have digits : (Nat.toDigits 10 n).all Char.isDigit = true := by
    rw [List.all_eq_true]
    intro c member
    exact Nat.isDigit_of_mem_toDigits (by decide) (by decide) member
  simp [read?, write, Nat.toDigits_ne_nil, digits]

/-- A written 64-bit number reads back. -/
@[simp] theorem readWord?_write (n : UInt64) : readWord? (write n.toNat) = some n := by
  simp [readWord?, n.toNat_lt]

end Stencil.Decimal
