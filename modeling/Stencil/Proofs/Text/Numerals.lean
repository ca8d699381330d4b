import Stencil.Decimal

/-!
# Written numerals

Reading accepts the numerals of `Denotes`, with any number of leading zeros, and nothing else
(`read?_eq_some_iff`). A written numeral consists of digits, reads back as its number, and
starts with a zero only if it is the numeral of zero.
-/

namespace Stencil.Decimal

/-- The text is one or more decimal digits, and the number is their value. One digit more
makes it ten times as much and the value of that digit. -/
inductive Denotes : Text → Nat → Prop
  | digit {d : Nat} (isDigit : d < 10) : Denotes [Nat.digitChar d] d
  | append {digits : Text} {n d : Nat} (shorter : Denotes digits n) (isDigit : d < 10) :
      Denotes (digits ++ [Nat.digitChar d]) (10 * n + d)

/-- Every digit is the digit of a number below ten. -/
theorem exists_digitChar_eq {c : Char} (isDigit : c.isDigit = true) :
    ∃ d, d < 10 ∧ c = Nat.digitChar d := by
  simp only [Char.isDigit, Bool.and_eq_true, decide_eq_true_eq] at isDigit
  have least : '0'.toNat ≤ c.toNat := isDigit.1
  have most : c.toNat ≤ '9'.toNat := isDigit.2
  have small : c.toNat - 48 < 10 := by
    simp only [Char.reduceToNat] at least most
    omega
  refine ⟨c.toNat - 48, small, Char.toNat_inj.1 ?_⟩
  rw [Nat.toNat_digitChar_of_lt_ten small]
  simp only [Char.reduceToNat] at least
  omega

/-- Digits behind a numeral are counted on from its number. -/
theorem Denotes.append_digits {first digits : Text} {n : Nat} (denotes : Denotes first n)
    (areDigits : ∀ c ∈ digits, c.isDigit = true) :
    Denotes (first ++ digits) (Nat.ofDigitChars 10 digits n) := by
  induction digits generalizing first n with
  | nil => simpa using denotes
  | cons c digits ih =>
    obtain ⟨isDigit, others⟩ := List.forall_mem_cons.1 areDigits
    obtain ⟨d, small, rfl⟩ := exists_digitChar_eq isDigit
    have onward := ih (denotes.append small) others
    rwa [List.append_assoc, List.singleton_append,
      ← Nat.ofDigitChars_cons_digitChar_of_lt_ten small] at onward

/-- What is read is a run of digits, and their value. -/
theorem read?_eq_some_iff {text : Text} {n : Nat} : read? text = some n ↔ Denotes text n := by
  constructor
  · intro read
    obtain ⟨⟨notEmpty, digits⟩, value⟩ := Option.ite_none_right_eq_some.1 read
    obtain ⟨c, rest, rfl⟩ := List.exists_cons_of_ne_nil notEmpty
    obtain ⟨isDigit, others⟩ := List.forall_mem_cons.1 (List.all_eq_true.1 digits)
    obtain ⟨d, small, rfl⟩ := exists_digitChar_eq isDigit
    have whole := (Denotes.digit small).append_digits others
    rw [Nat.ofDigitChars_cons_digitChar_of_lt_ten small, Nat.mul_zero, Nat.zero_add] at value
    rwa [List.singleton_append, Option.some.inj value] at whole
  · intro denotes
    induction denotes with
    | digit isDigit =>
      simp [read?, Nat.isDigit_digitChar, isDigit,
        Nat.ofDigitChars_cons_digitChar_of_lt_ten isDigit]
    | append _ isDigit ih =>
      obtain ⟨⟨-, areDigits⟩, value⟩ := Option.ite_none_right_eq_some.1 ih
      simp [read?, Nat.isDigit_digitChar, isDigit, List.all_append, areDigits,
        Nat.ofDigitChars_append, Nat.ofDigitChars_cons_digitChar_of_lt_ten isDigit,
        Option.some.inj value, -List.all_eq_true]

/-- No number is denoted by the empty text. -/
theorem Denotes.ne_nil {text : Text} {n : Nat} (denotes : Denotes text n) : text ≠ [] := by
  cases denotes <;> simp

/-- A number is denoted by digits only. -/
theorem Denotes.isDigit_of_mem {text : Text} {n : Nat} (denotes : Denotes text n) :
    ∀ c ∈ text, c.isDigit = true := by
  obtain ⟨⟨-, digits⟩, -⟩ := Option.ite_none_right_eq_some.1 (read?_eq_some_iff.2 denotes)
  exact List.all_eq_true.1 digits

/-- The text is the decimal numeral of the number, without leading zeros. -/
structure IsNumeral (text : Text) (n : Nat) : Prop where
  reads : read? text = some n
  noLeadingZero : text.head? = some '0' → text = ['0']

/-- A number is written in digits. -/
theorem isDigit_of_mem_write {n : Nat} {c : Char} (member : c ∈ write n) : c.isDigit = true :=
  Nat.isDigit_of_mem_toDigits (by decide) (by decide) member

/-- A number is written in one digit at least. -/
theorem write_ne_nil (n : Nat) : write n ≠ [] :=
  Nat.toDigits_ne_nil

/-- Only the numeral of zero starts with a zero. The induction drops the last digit. -/
theorem eq_zero_of_head?_write {n : Nat} (zero : (write n).head? = some '0') : n = 0 := by
  induction n using Nat.strongRecOn with
  | ind n ih =>
    by_cases small : n < 10
    · rw [write, Nat.toDigits_of_lt_base small, List.head?_singleton, Option.some.injEq] at zero
      exact Nat.digitChar_eq_zero.1 zero
    · have split : write n = write (n / 10) ++ [Nat.digitChar (n % 10)] :=
        Nat.toDigits_of_base_le (by decide) (Nat.not_lt.1 small)
      rw [split, List.head?_append, Option.or_of_isSome (by simp [write_ne_nil])] at zero
      have shorter := ih (n / 10) (by omega) zero
      omega

/-- A number is written as a numeral: it is read back, and there is no zero in front of it. -/
theorem isNumeral_write (n : Nat) : IsNumeral (write n) n where
  reads := read?_write n
  noLeadingZero zero := by
    rw [eq_zero_of_head?_write zero]
    rfl

end Stencil.Decimal
