import Stencil.Invalid

/-!
# Time offsets

A time offset is a sign, decimal digits and one letter for the unit, such as
`+30m` or `-1M`. Small `m` counts minutes and capital `M` counts months.
-/

namespace Stencil

/-- The units in which a time can be shifted. -/
inductive TimeUnit
  | seconds
  | minutes
  | hours
  | days
  | weeks
  | months
  | years
  deriving DecidableEq, Repr

namespace TimeUnit

/-- The unit that a letter stands for. Case matters. -/
def ofLetter? : Char → Option TimeUnit
  | 's' => some .seconds
  | 'm' => some .minutes
  | 'h' => some .hours
  | 'd' => some .days
  | 'w' => some .weeks
  | 'M' => some .months
  | 'y' => some .years
  | _ => none

/-- The letter of a unit. -/
def letter : TimeUnit → Char
  | .seconds => 's'
  | .minutes => 'm'
  | .hours => 'h'
  | .days => 'd'
  | .weeks => 'w'
  | .months => 'M'
  | .years => 'y'

/-- A letter stands for a unit exactly when it is the letter of that unit. -/
theorem ofLetter?_eq_some_iff {c : Char} {unit : TimeUnit} :
    ofLetter? c = some unit ↔ c = unit.letter := by
  constructor
  · intro h
    unfold ofLetter? at h
    split at h <;> cases h <;> rfl
  · rintro rfl
    cases unit <;> rfl

end TimeUnit

/-- A signed number of time units. -/
structure Offset where
  amount : Int
  unit : TimeUnit
  deriving DecidableEq, Repr

namespace Offset

/-- The largest number of units that a token can name: the largest signed number
of 64 bits. -/
def maxMagnitude : Nat := 0x7fffffffffffffff

/-- The factor that a sign character stands for. -/
def sign? : Char → Option Int
  | '+' => some 1
  | '-' => some (-1)
  | _ => none

/-- The number of units written by the digits, if it can be named. -/
def magnitude? (digits : Text) : Option Nat :=
  (Decimal.read? digits).bind fun n => if n ≤ maxMagnitude then some n else none

/-- Reads a sign, digits and a unit letter. -/
def ofToken? : Text → Option Offset
  | [] => none
  | first :: rest => do
    let sign ← sign? first
    let unit ← rest.getLast?.bind TimeUnit.ofLetter?
    let magnitude ← magnitude? rest.dropLast
    return ⟨sign * magnitude, unit⟩

/-- The token of an offset. -/
def token (offset : Offset) : Text :=
  (if offset.amount < 0 then '-' else '+') :: Decimal.write offset.amount.natAbs ++
    [offset.unit.letter]

/-- The token of an offset reads back, provided that a token can name that many
units. -/
theorem ofToken?_token {offset : Offset} (nameable : offset.amount.natAbs ≤ maxMagnitude) :
    ofToken? offset.token = some offset := by
  obtain ⟨amount, unit⟩ := offset
  have letter : TimeUnit.ofLetter? unit.letter = some unit := TimeUnit.ofLetter?_eq_some_iff.2 rfl
  have digits : magnitude? (Decimal.write amount.natAbs) = some amount.natAbs := by
    simpa [magnitude?] using nameable
  have signed (c : Char) (sign : Int) (found : sign? c = some sign) :
      ofToken? (c :: Decimal.write amount.natAbs ++ [unit.letter]) =
        some ⟨sign * amount.natAbs, unit⟩ := by
    simp [ofToken?, found, letter, digits]
  by_cases negative : amount < 0
  · have below : -1 * (amount.natAbs : Int) = amount := by omega
    rw [token, if_pos negative, signed '-' (-1) rfl, below]
  · have above : 1 * (amount.natAbs : Int) = amount := by omega
    rw [token, if_neg negative, signed '+' 1 rfl, above]

/-- Reads an offset token, or refuses it. -/
def parse (token : Text) : Except Invalid Offset :=
  match ofToken? token with
  | some offset => .ok offset
  | none => .error (.offset token)

end Offset
end Stencil
