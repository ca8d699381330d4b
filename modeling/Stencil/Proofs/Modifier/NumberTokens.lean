import Mathlib
import Stencil.Modifier
import Stencil.Proofs.Text.Numerals

/-!
# Tokens with numbers

Which tokens are offsets and which are ranges, and what they stand for: digits, with a sign in
front of them and the letter of a unit behind, or with one minus sign between them. Every other
token is refused and given back with the reason. Main statement: `numberTokens_exact`.
-/

namespace Stencil

/-- What is read into a word is a numeral of a number that fits. -/
theorem Decimal.readWord?_eq_some_iff {text : Text} {word : UInt64} :
    readWord? text = some word ↔
      ∃ n, Denotes text n ∧ n ≤ 2 ^ 64 - 1 ∧ word = .ofNat n := by
  simp only [readWord?, Option.bind_eq_some_iff, Option.ite_none_right_eq_some, read?_eq_some_iff,
    Option.some.injEq]
  refine exists_congr fun n => and_congr_right fun _ => and_congr ?_ eq_comm
  have size : UInt64.size = 2 ^ 64 := rfl
  omega

namespace Offset

/-- The token is a sign, the digits of a number below `2 ^ 63` and the letter of a unit, and the
offset is so many of these units. -/
inductive Denotes : Text → Offset → Prop
  | ahead {digits : Text} {n : Nat} (unit : TimeUnit) (number : Decimal.Denotes digits n)
      (nameable : n ≤ 2 ^ 63 - 1) : Denotes ('+' :: (digits ++ [unit.letter])) ⟨n, unit⟩
  | back {digits : Text} {n : Nat} (unit : TimeUnit) (number : Decimal.Denotes digits n)
      (nameable : n ≤ 2 ^ 63 - 1) : Denotes ('-' :: (digits ++ [unit.letter])) ⟨-n, unit⟩

/-- The two signs stand for 1 and -1. -/
theorem sign?_eq_some_iff {c : Char} {sign : Int} :
    sign? c = some sign ↔ c = '+' ∧ sign = 1 ∨ c = '-' ∧ sign = -1 := by
  unfold sign?
  split <;> simp_all [eq_comm]

/-- Digits stand for a magnitude if their number fits into 63 bits. -/
theorem magnitude?_eq_some_iff {digits : Text} {n : Nat} :
    magnitude? digits = some n ↔ Decimal.Denotes digits n ∧ n ≤ 2 ^ 63 - 1 := by
  have largest : maxMagnitude = 2 ^ 63 - 1 := rfl
  simp only [magnitude?, Option.bind_eq_some_iff, Option.ite_none_right_eq_some, largest,
    Decimal.read?_eq_some_iff, Option.some.injEq]
  constructor
  · rintro ⟨_, number, nameable, rfl⟩
    exact ⟨number, nameable⟩
  · rintro ⟨number, nameable⟩
    exact ⟨n, number, nameable, rfl⟩

/-- An offset that some token stands for is smaller than `2 ^ 63`, whichever its sign is. -/
theorem Denotes.amount_bounds {token : Text} {offset : Offset} (denotes : Denotes token offset) :
    -2 ^ 63 < offset.amount ∧ offset.amount < 2 ^ 63 := by
  cases denotes <;> constructor <;> simp only <;> omega

/-- The tokens that are read are those that stand for an offset. -/
theorem ofToken?_eq_some_iff {token : Text} {offset : Offset} :
    ofToken? token = some offset ↔ Denotes token offset := by
  constructor
  · intro read
    cases token with
    | nil => cases read
    | cons first rest =>
      obtain ⟨sign, isSign, read⟩ := Option.bind_eq_some_iff.1 read
      obtain ⟨unit, isUnit, read⟩ := Option.bind_eq_some_iff.1 read
      obtain ⟨n, isMagnitude, made⟩ := Option.bind_eq_some_iff.1 read
      obtain ⟨letter, isLast, isLetter⟩ := Option.bind_eq_some_iff.1 isUnit
      obtain ⟨number, nameable⟩ := magnitude?_eq_some_iff.1 isMagnitude
      have parts := List.dropLast_append_getLast? letter isLast
      rw [TimeUnit.ofLetter?_eq_some_iff.1 isLetter] at parts
      rw [← parts, ← Option.some.inj made]
      rcases sign?_eq_some_iff.1 isSign with ⟨rfl, rfl⟩ | ⟨rfl, rfl⟩
      · rw [one_mul]
        exact .ahead unit number nameable
      · rw [neg_one_mul]
        exact .back unit number nameable
  · have read (c : Char) (sign : Int) (isSign : sign? c = some sign) (unit : TimeUnit)
        {digits : Text} {n : Nat} (number : Decimal.Denotes digits n)
        (nameable : n ≤ 2 ^ 63 - 1) :
        ofToken? (c :: (digits ++ [unit.letter])) = some ⟨sign * n, unit⟩ := by
      have isUnit : TimeUnit.ofLetter? unit.letter = some unit :=
        TimeUnit.ofLetter?_eq_some_iff.2 rfl
      have isMagnitude := magnitude?_eq_some_iff.2 ⟨number, nameable⟩
      simp [ofToken?, isSign, isUnit, isMagnitude]
    rintro (⟨unit, number, nameable⟩ | ⟨unit, number, nameable⟩)
    · rw [read '+' 1 rfl unit number nameable, one_mul]
    · rw [read '-' (-1) rfl unit number nameable, neg_one_mul]

/-- Parsing accepts the offsets that are recognized among other modifiers. -/
theorem parse_eq_ok_iff {token : Text} {offset : Offset} :
    parse token = .ok offset ↔ ofToken? token = some offset := by
  unfold parse
  split <;> simp [*]

/-- A token is refused if it is not read, and then it is given back with the reason. -/
theorem parse_eq_error_iff {token : Text} {reason : Invalid} :
    parse token = .error reason ↔
      (∀ offset, ofToken? token ≠ some offset) ∧ reason = .offset token := by
  unfold parse
  split <;> simp [*, eq_comm]

/-- The token of an offset is read back unless it is too long to be named. -/
theorem parse_token_eq_ok_iff {offset : Offset} :
    parse offset.token = .ok offset ↔ -2 ^ 63 < offset.amount ∧ offset.amount < 2 ^ 63 := by
  rw [parse_eq_ok_iff]
  constructor
  · intro read
    exact (ofToken?_eq_some_iff.1 read).amount_bounds
  · rintro ⟨least, most⟩
    have largest : maxMagnitude = 2 ^ 63 - 1 := rfl
    apply ofToken?_token
    omega

end Offset

namespace Range

/-- The token is digits, a minus sign and digits again, both of numbers below `2 ^ 64`, and the
range has these bounds in this order. -/
inductive Denotes : Text → Range → Prop
  | bounds {first second : Text} {min max : Nat} (isMin : Decimal.Denotes first min)
      (minFits : min ≤ 2 ^ 64 - 1) (isMax : Decimal.Denotes second max)
      (maxFits : max ≤ 2 ^ 64 - 1) : Denotes (first ++ '-' :: second) ⟨.ofNat min, .ofNat max⟩

/-- The tokens that are read are those that stand for a range. -/
theorem ofToken?_eq_some_iff {token : Text} {range : Range} :
    ofToken? token = some range ↔ Denotes token range := by
  constructor
  · intro read
    obtain ⟨⟨first, second⟩, parts, read⟩ := Option.bind_eq_some_iff.1 read
    obtain ⟨_, isMin, read⟩ := Option.bind_eq_some_iff.1 read
    obtain ⟨_, isMax, made⟩ := Option.bind_eq_some_iff.1 read
    obtain ⟨min, minDenotes, minFits, rfl⟩ := Decimal.readWord?_eq_some_iff.1 isMin
    obtain ⟨max, maxDenotes, maxFits, rfl⟩ := Decimal.readWord?_eq_some_iff.1 isMax
    rw [(Text.splitFirst?_eq_some_iff.1 parts).1, ← Option.some.inj made]
    exact .bounds minDenotes minFits maxDenotes maxFits
  · rintro ⟨isMin, minFits, isMax, maxFits⟩
    have noMinus : '-' ∉ _ := fun member => absurd (isMin.isDigit_of_mem _ member) (by decide)
    have minRead := Decimal.readWord?_eq_some_iff.2 ⟨_, isMin, minFits, rfl⟩
    have maxRead := Decimal.readWord?_eq_some_iff.2 ⟨_, isMax, maxFits, rfl⟩
    simp [ofToken?, Text.splitFirst?_append noMinus, minRead, maxRead]

/-- Parsing accepts the ranges that are recognized among other modifiers. -/
theorem parse_eq_ok_iff {token : Text} {range : Range} :
    parse token = .ok range ↔ ofToken? token = some range := by
  unfold parse
  split <;> simp [*]

/-- A token is refused if it is not read, and then it is given back with the reason. -/
theorem parse_eq_error_iff {token : Text} {reason : Invalid} :
    parse token = .error reason ↔
      (∀ range, ofToken? token ≠ some range) ∧ reason = .range token := by
  unfold parse
  split <;> simp [*, eq_comm]

end Range

/-- Exactly the tokens that stand for an offset are read as offsets, and exactly those that
stand for a range are read as ranges; each gives what it stands for, and every other token is
refused with the whole of it in the reason. The token of an offset is read back as the offset,
except for an amount of `2 ^ 63` or more in either direction; the token of a range always is. -/
theorem Modifier.numberTokens_exact :
    (∀ token offset, Offset.parse token = .ok offset ↔ Offset.Denotes token offset) ∧
    (∀ token reason, Offset.parse token = .error reason ↔
      (∀ offset, ¬ Offset.Denotes token offset) ∧ reason = .offset token) ∧
    (∀ token range, Range.parse token = .ok range ↔ Range.Denotes token range) ∧
    (∀ token reason, Range.parse token = .error reason ↔
      (∀ range, ¬ Range.Denotes token range) ∧ reason = .range token) ∧
    (∀ offset, Offset.parse offset.token = .ok offset ↔
      -2 ^ 63 < offset.amount ∧ offset.amount < 2 ^ 63) ∧
    ∀ range, Range.parse range.token = .ok range := by
  refine ⟨fun token offset => ?_, fun token reason => ?_, fun token range => ?_,
    fun token reason => ?_, fun offset => Offset.parse_token_eq_ok_iff, fun range => ?_⟩
  · rw [Offset.parse_eq_ok_iff, Offset.ofToken?_eq_some_iff]
  · simp only [Offset.parse_eq_error_iff, ne_eq, Offset.ofToken?_eq_some_iff]
  · rw [Range.parse_eq_ok_iff, Range.ofToken?_eq_some_iff]
  · simp only [Range.parse_eq_error_iff, ne_eq, Range.ofToken?_eq_some_iff]
  · rw [Range.parse_eq_ok_iff]
    exact range.ofToken?_token

/-- Zeros in front of a number make no difference; a sign in front of a bound does. -/
example : Offset.parse "-007h".toList = .ok ⟨-7, .hours⟩ ∧
    Range.parse "010-9".toList = .ok ⟨10, 9⟩ ∧
    Range.parse "1--5".toList = .error (.range "1--5".toList) :=
  ⟨rfl, rfl, rfl⟩

end Stencil
