import Stencil.Settings
import Stencil.Time.Clock

/-!
# Sources

What an evaluation needs from outside: a clock and a source of random numbers.
Both are described by their answers, so that an evaluation is a function of
them. `Usage` records how they have been used so far; a source may let its next
answer depend on that. Main statement: a source that takes its answers from a
stream of draws keeps within the bounds it is given.
-/

namespace Stencil

/-- A request to the random source. -/
inductive Request
  | bytes (count : Nat)
  | number (range : Range)
  deriving DecidableEq, Repr

/-- A source of random bytes and numbers. Each answer may depend on the requests
that came before. -/
structure RandomSource where
  bytes : List Request → (count : Nat) → Vector UInt8 count
  number : List Request → Range → UInt64

/-- A source keeps within bounds if it answers every range in ascending order
with a number of that range. -/
def RandomSource.KeepsBounds (source : RandomSource) : Prop :=
  ∀ before range, range.min ≤ range.max →
    range.min ≤ source.number before range ∧ source.number before range ≤ range.max

/-- The sources of an evaluation. -/
structure Sources where
  clock : Clock
  random : RandomSource

/-- The uses made of the sources: the number of clock readings, and the requests
to the random source in order. -/
structure Usage where
  readings : Nat := 0
  requests : List Request := []
  deriving DecidableEq, Repr

namespace RandomSource

/-- The number of draws that a request takes from a list of draws: one for every
eight bytes begun, and one for a number. -/
def drawCount : Request → Nat
  | .bytes count => (count + 7) / 8
  | .number _ => 1

/-- The number of draws that requests took. -/
def drawsTaken : List Request → Nat
  | [] => 0
  | request :: rest => drawCount request + drawsTaken rest

/-- The source that takes its answers from a stream of draws. Bytes come from the
low end of a draw first; a number is the draw reduced into its range. -/
def ofStream (stream : Nat → UInt64) : RandomSource where
  bytes before _ := .ofFn fun i =>
    .ofNat ((stream (drawsTaken before + i / 8)).toNat >>> (8 * (i % 8) : Nat))
  number before range :=
    .ofNat (range.min.toNat +
      (stream (drawsTaken before)).toNat % (range.max.toNat - range.min.toNat + 1))

/-- The source that takes its answers from a list of draws, over and over again.
An empty list draws zeros. -/
def ofDraws (draws : List UInt64) : RandomSource :=
  ofStream fun position => draws.getD (position % draws.length) 0

/-- The sum of the smaller bound and the reduced draw fits in 64 bits. -/
theorem toNat_number_ofStream (stream : Nat → UInt64) (before : List Request) {range : Range}
    (ascending : range.min ≤ range.max) :
    ((ofStream stream).number before range).toNat = range.min.toNat +
      (stream (drawsTaken before)).toNat % (range.max.toNat - range.min.toNat + 1) := by
  have ascending : range.min.toNat ≤ range.max.toNat := ascending
  have below := range.max.toNat_lt
  have reduced : (stream (drawsTaken before)).toNat % (range.max.toNat - range.min.toNat + 1) <
      range.max.toNat - range.min.toNat + 1 := Nat.mod_lt _ (Nat.succ_pos _)
  simp only [ofStream, UInt64.toNat_ofNat']
  omega

/-- A stream of draws keeps within bounds, whatever numbers it holds. -/
theorem keepsBounds_ofStream (stream : Nat → UInt64) : (ofStream stream).KeepsBounds := by
  intro before range ascending
  have reduced : (stream (drawsTaken before)).toNat % (range.max.toNat - range.min.toNat + 1) <
      range.max.toNat - range.min.toNat + 1 := Nat.mod_lt _ (Nat.succ_pos _)
  rw [UInt64.le_iff_toNat_le, UInt64.le_iff_toNat_le, toNat_number_ofStream stream before ascending]
  have ascending : range.min.toNat ≤ range.max.toNat := ascending
  omega

/-- On the range of all 64-bit numbers the draw itself is the answer. -/
theorem number_ofStream_full (stream : Nat → UInt64) (before : List Request) :
    (ofStream stream).number before ⟨0, 0xffffffffffffffff⟩ = stream (drawsTaken before) := by
  apply UInt64.toNat_inj.1
  rw [toNat_number_ofStream stream before (by decide)]
  simp

end RandomSource
end Stencil
