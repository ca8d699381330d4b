import Mathlib.Data.List.TakeWhile
import Stencil.Json.Token

/-!
# Numbers of JSON

A number is an optional minus sign, a whole part without leading zeros, perhaps a fraction and
perhaps an exponent, of any size. The parts are separated by characters that are no digits, so
it does not matter that the reader takes as many digits as there are. Main statement:
`isLiteral_iff`.
-/

namespace Stencil.Json.Number

/-- One digit or more. -/
def IsDigits (text : Text) : Prop :=
  text ≠ [] ∧ ∀ c ∈ text, c.isDigit = true

/-- Digits of which the first is no zero, or a zero alone. -/
def IsWhole (text : Text) : Prop :=
  text = ['0'] ∨ IsDigits text ∧ text.head? ≠ some '0'

/-- Nothing, or a point and digits. -/
def IsFractionPart (text : Text) : Prop :=
  text = [] ∨ ∃ digits, IsDigits digits ∧ text = '.' :: digits

/-- Nothing, or the letter e in either case, an optional sign and digits. -/
def IsExponentPart (text : Text) : Prop :=
  text = [] ∨ ∃ mark sign digits, (mark = 'e' ∨ mark = 'E') ∧
    (sign = [] ∨ sign = ['+'] ∨ sign = ['-']) ∧ IsDigits digits ∧ text = mark :: (sign ++ digits)

/-- The text is a number. -/
def IsNumber (text : Text) : Prop :=
  ∃ sign whole fraction exponent, (sign = [] ∨ sign = ['-']) ∧ IsWhole whole ∧
    IsFractionPart fraction ∧ IsExponentPart exponent ∧
      text = sign ++ (whole ++ (fraction ++ exponent))

/-- The text does not start with a digit. -/
def StopsDigits (text : Text) : Prop :=
  ∀ c ∈ text.head?, c.isDigit = false

/-- The digits at the start of a text end where no digit follows. -/
theorem takeWhile_isDigit_append {digits rest : Text} (all : ∀ c ∈ digits, c.isDigit = true)
    (stops : StopsDigits rest) :
    (digits ++ rest).takeWhile Char.isDigit = digits ∧
      (digits ++ rest).dropWhile Char.isDigit = rest := by
  have nothing : rest.takeWhile Char.isDigit = [] := by
    cases rest with
    | nil => rfl
    | cons c rest => simp [stops c rfl]
  have same : rest.dropWhile Char.isDigit = rest := by
    cases rest with
    | nil => rfl
    | cons c rest => simp [stops c rfl]
  exact ⟨by rw [List.takeWhile_append_of_pos all, nothing, List.append_nil],
    by rw [List.dropWhile_append_of_pos all, same]⟩

/-- The digits at the start of a text are digits if there are any. -/
theorem isDigits_takeWhile {text : Text}
    (notEmpty : (text.takeWhile Char.isDigit).isEmpty = false) :
    IsDigits (text.takeWhile Char.isDigit) :=
  ⟨by simpa using notEmpty, fun _ => List.mem_takeWhile_imp⟩

/-- The check for digits accepts digits, one at least. -/
theorem isDigits_iff {digits : Text} :
    (!digits.isEmpty && digits.all Char.isDigit) = true ↔ IsDigits digits := by
  simp [IsDigits]

/-- An exponent does not start with a digit. -/
theorem IsExponentPart.stopsDigits {text : Text} (isExponent : IsExponentPart text) :
    StopsDigits text := by
  rcases isExponent with rfl | ⟨mark, sign, digits, rfl | rfl, -, -, rfl⟩ <;> intro c start <;>
    cases start <;> rfl

/-- The check for an exponent accepts a mark, perhaps a sign, and digits, or nothing. -/
theorem isExponent_iff {text : Text} : isExponent text = true ↔ IsExponentPart text := by
  constructor
  · intro valid
    unfold isExponent at valid
    split at valid
    · exact .inl rfl
    · next digits => exact .inr ⟨_, ['+'], digits, .inl rfl, by simp, isDigits_iff.1 valid, rfl⟩
    · next digits => exact .inr ⟨_, ['-'], digits, .inl rfl, by simp, isDigits_iff.1 valid, rfl⟩
    · next digits _ _ => exact .inr ⟨_, [], digits, .inl rfl, by simp, isDigits_iff.1 valid, rfl⟩
    · next digits => exact .inr ⟨_, ['+'], digits, .inr rfl, by simp, isDigits_iff.1 valid, rfl⟩
    · next digits => exact .inr ⟨_, ['-'], digits, .inr rfl, by simp, isDigits_iff.1 valid, rfl⟩
    · next digits _ _ => exact .inr ⟨_, [], digits, .inr rfl, by simp, isDigits_iff.1 valid, rfl⟩
    · cases valid
  · rintro (rfl | ⟨mark, sign, digits, marked, rfl | rfl | rfl, isDigits, rfl⟩)
    · rfl
    · obtain ⟨first, rest, rfl⟩ := List.exists_cons_of_ne_nil isDigits.1
      have digit := isDigits.2 first List.mem_cons_self
      have noPlus : first ≠ '+' := by rintro rfl; cases digit
      have noMinus : first ≠ '-' := by rintro rfl; cases digit
      have valid := isDigits_iff.2 isDigits
      rcases marked with rfl | rfl <;> simpa [isExponent, noPlus, noMinus] using valid
    · rcases marked with rfl | rfl <;> exact isDigits_iff.2 isDigits
    · rcases marked with rfl | rfl <;> exact isDigits_iff.2 isDigits

/-- What may follow the whole part is a fraction and an exponent, each of which may be
missing. -/
theorem isFraction_iff {text : Text} : isFraction text = true ↔
    ∃ fraction exponent, IsFractionPart fraction ∧ IsExponentPart exponent ∧
      text = fraction ++ exponent := by
  constructor
  · intro valid
    unfold isFraction at valid
    split at valid
    · next rest =>
      simp only [Bool.and_eq_true, Bool.not_eq_true'] at valid
      refine ⟨_, _, .inr ⟨_, isDigits_takeWhile valid.1, rfl⟩, isExponent_iff.1 valid.2, ?_⟩
      rw [List.cons_append, List.takeWhile_append_dropWhile]
    · exact ⟨[], text, .inl rfl, isExponent_iff.1 valid, rfl⟩
  · rintro ⟨_, exponent, rfl | ⟨digits, isDigits, rfl⟩, isExponentPart, rfl⟩
    · have valid := isExponent_iff.2 isExponentPart
      rw [isFraction]
      · exact valid
      · rintro rest rfl
        cases valid
    · obtain ⟨taken, dropped⟩ := takeWhile_isDigit_append isDigits.2 isExponentPart.stopsDigits
      rw [List.cons_append, isFraction, taken, dropped, isExponent_iff.2 isExponentPart]
      simpa using isDigits.1

/-- Neither a fraction nor an exponent starts with a digit. -/
theorem stopsDigits_fraction_append {fraction exponent : Text}
    (isFractionPart : IsFractionPart fraction) (isExponentPart : IsExponentPart exponent) :
    StopsDigits (fraction ++ exponent) := by
  rcases isFractionPart with rfl | ⟨digits, -, rfl⟩
  · exact isExponentPart.stopsDigits
  · intro c start
    cases start
    rfl

/-- The check for a number without a sign accepts a whole part, perhaps a fraction, and perhaps
an exponent. -/
theorem isUnsigned_iff {text : Text} : isUnsigned text = true ↔
    ∃ whole fraction exponent, IsWhole whole ∧ IsFractionPart fraction ∧
      IsExponentPart exponent ∧ text = whole ++ (fraction ++ exponent) := by
  constructor
  · intro valid
    rw [isUnsigned, Bool.and_eq_true, isFraction_iff] at valid
    obtain ⟨wholeValid, fraction, exponent, isFractionPart, isExponentPart, rest⟩ := valid
    refine ⟨text.takeWhile Char.isDigit, fraction, exponent, ?_, isFractionPart, isExponentPart, ?_⟩
    · simp only [Bool.or_eq_true, Bool.and_eq_true, beq_iff_eq, bne_iff_ne,
        Bool.not_eq_true'] at wholeValid
      exact wholeValid.imp_right fun ⟨notEmpty, noZero⟩ =>
        ⟨isDigits_takeWhile notEmpty, noZero⟩
    · rw [← rest, List.takeWhile_append_dropWhile]
  · rintro ⟨whole, fraction, exponent, isWhole, isFractionPart, isExponentPart, rfl⟩
    have all : ∀ c ∈ whole, c.isDigit = true := by
      rcases isWhole with rfl | ⟨isDigits, -⟩
      · exact List.forall_mem_singleton.2 rfl
      · exact isDigits.2
    obtain ⟨taken, dropped⟩ := takeWhile_isDigit_append all
      (stopsDigits_fraction_append isFractionPart isExponentPart)
    rw [isUnsigned, taken, dropped,
      isFraction_iff.2 ⟨fraction, exponent, isFractionPart, isExponentPart, rfl⟩, Bool.and_true]
    simpa using isWhole.imp_right fun ⟨isDigits, noZero⟩ => ⟨isDigits.1, noZero⟩

/-- The literals of numbers are the numbers. -/
theorem isLiteral_iff {text : Text} : isLiteral text = true ↔ IsNumber text := by
  constructor
  · intro valid
    unfold isLiteral at valid
    split at valid
    · next rest =>
      obtain ⟨whole, fraction, exponent, parts⟩ := isUnsigned_iff.1 valid
      obtain ⟨isWhole, isFractionPart, isExponentPart, rfl⟩ := parts
      exact ⟨['-'], _, _, _, .inr rfl, isWhole, isFractionPart, isExponentPart, rfl⟩
    · obtain ⟨whole, fraction, exponent, parts⟩ := isUnsigned_iff.1 valid
      exact ⟨[], whole, fraction, exponent, .inl rfl, parts⟩
  · rintro ⟨sign, whole, fraction, exponent, signed, isWhole, isFractionPart, isExponentPart, rfl⟩
    have valid : isUnsigned (whole ++ (fraction ++ exponent)) = true :=
      isUnsigned_iff.2 ⟨whole, fraction, exponent, isWhole, isFractionPart, isExponentPart, rfl⟩
    rcases signed with rfl | rfl
    · rw [List.nil_append, isLiteral]
      · exact valid
      · intro rest starts
        rw [starts] at valid
        cases valid
    · exact valid

end Stencil.Json.Number
