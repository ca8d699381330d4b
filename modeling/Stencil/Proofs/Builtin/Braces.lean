import Stencil.Proofs.Builtin.Values
import Stencil.Proofs.Text.Braces

/-!
# Values of builtins hold no braces

No builtin writes a brace of its own, and a custom time pattern can hold none
because it stands between the braces of its expression. So the value of a builtin
neither opens nor closes an expression: `ensures_isBraceFree`.
-/

namespace Stencil

open Text

namespace Uuid

/-- The digits of a byte hold no brace. -/
theorem isBraceFree_hex (byte : UInt8) : IsBraceFree (hex byte) := by
  have digit : ∀ n < 16, Nat.digitChar n ≠ '{' ∧ Nat.digitChar n ≠ '}' := by decide
  have small := byte.toNat_lt
  simp only [hex, isBraceFree_cons, isBraceFree_nil, and_true]
  exact ⟨digit _ (by omega), digit _ (by omega)⟩

/-- The digits of several bytes hold no brace. -/
theorem isBraceFree_group (bytes : Vector UInt8 16) (first last : Nat) :
    IsBraceFree (group bytes first last) := by
  intro c member
  obtain ⟨byte, -, inHex⟩ := List.mem_flatMap.1 member
  exact isBraceFree_hex byte c inHex

/-- An identifier holds no brace: it consists of digits and hyphens. -/
theorem isBraceFree_text (bytes : Vector UInt8 16) : IsBraceFree (text bytes) := by
  simp [text, isBraceFree_group]

end Uuid

namespace TimeField

/-- The value of a field of a pattern holds no brace: it consists of digits and a sign. -/
theorem isBraceFree_value (wall : WallClock) (field : TimeField) :
    IsBraceFree (field.value wall) := by
  cases field <;>
    simp only [value, yearText, Decimal.isBraceFree_padded, Decimal.isBraceFree_write]
  split
  · exact isBraceFree_cons.2 ⟨by decide, Decimal.isBraceFree_padded _ _⟩
  · exact Decimal.isBraceFree_padded _ _

end TimeField

namespace Timestamp

/-- A year holds no brace, with its sign or without. -/
theorem isBraceFree_signedYear (year : Int) : IsBraceFree (signedYear year) := by
  unfold signedYear
  split
  · exact isBraceFree_cons.2 ⟨by decide, Decimal.isBraceFree_padded _ _⟩
  · split
    · exact Decimal.isBraceFree_padded _ _
    · exact isBraceFree_cons.2 ⟨by decide, Decimal.isBraceFree_padded _ _⟩

/-- A date holds no brace. -/
theorem isBraceFree_dateText (t : Timestamp) : IsBraceFree t.dateText := by
  simp [dateText, isBraceFree_signedYear, Decimal.isBraceFree_padded]

/-- A time of day holds no brace. -/
theorem isBraceFree_timeText (t : Timestamp) : IsBraceFree t.timeText := by
  simp [timeText, Decimal.isBraceFree_padded]

/-- A date with a time of day holds no brace. -/
theorem isBraceFree_isoText (t : Timestamp) : IsBraceFree t.isoText := by
  simp [isoText, milliText, isBraceFree_dateText, isBraceFree_timeText,
    Decimal.isBraceFree_padded]

end Timestamp

/-- Filling in a pattern brings in no brace. -/
theorem WallClock.isBraceFree_fill (wall : WallClock) {pattern : Text}
    (free : IsBraceFree pattern) : IsBraceFree (WallClock.fill wall pattern) :=
  List.foldlRecOn (motive := IsBraceFree) _ _ free fun _ textFree field _ =>
    textFree.replaceFirst (field.isBraceFree_value wall) field.word

/-- What a preset shows holds no brace. -/
theorem TimeStyle.isBraceFree_format (style : TimeStyle) (instant : Instant) (wall : WallClock)
    (preset : Preset) : IsBraceFree (style.format instant wall preset) := by
  cases preset with
  | unix => exact Decimal.isBraceFree_writeInt _
  | unixMillis => exact Decimal.isBraceFree_writeInt _
  | date => exact Timestamp.isBraceFree_dateText wall
  | time => exact Timestamp.isBraceFree_timeText wall
  | dateTime =>
    simp [format, Timestamp.isBraceFree_dateText, Timestamp.isBraceFree_timeText]
  | iso =>
    unfold format
    cases style.zone <;> simp [Timestamp.isBraceFree_isoText]

/-- A pattern is part of the token that it was read from. -/
theorem Modifier.subset_of_ofToken_eq_pattern {token pattern : Text}
    (read : Modifier.ofToken token = .pattern pattern) : pattern ⊆ token := by
  obtain ⟨keyword, parts, -⟩ := exists_splitFirst?_of_ofToken_eq_pattern read
  exact Text.subset_of_splitFirst? parts

namespace Builtin

/-- A value of a builtin holds no brace unless a pattern among the modifiers brings one. -/
theorem Writes.isBraceFree {modifiers : List Modifier}
    (free : ∀ pattern, .pattern pattern ∈ modifiers → IsBraceFree pattern) {text : Text}
    (writes : Writes modifiers text) : IsBraceFree text := by
  cases writes with
  | format style instant wall preset => exact style.isBraceFree_format instant wall preset
  | fill wall member => exact wall.isBraceFree_fill (free _ member)
  | identifier bytes => exact Uuid.isBraceFree_text bytes
  | number n => exact Decimal.isBraceFree_write n

/-- The value of a builtin in an expression whose body holds no brace holds none. -/
theorem ensures_isBraceFree (builtin : Builtin) (sources : Sources) (default : Range)
    {expression : Expression} (free : IsBraceFree expression.body) :
    (builtin.value sources default expression.classified).Ensures IsBraceFree := by
  refine (builtin.ensures_writes sources default _).mono fun text writes => writes.isBraceFree ?_
  intro pattern member
  obtain ⟨token, isModifier, read⟩ := List.mem_map.1 member
  exact (Expression.isBraceFree_of_mem_modifiers free isModifier).subset
    (Modifier.subset_of_ofToken_eq_pattern read)

end Builtin
end Stencil
