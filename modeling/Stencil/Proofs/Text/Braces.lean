import Stencil.Decimal
import Stencil.Expression

/-!
# Texts without braces

A text without braces can neither open nor close an expression. Numerals are
such texts, and so are the parts of such texts and what they are joined to.
-/

namespace Stencil

namespace Text

/-- The text holds neither an opening nor a closing brace. -/
def IsBraceFree (text : Text) : Prop :=
  ∀ c ∈ text, c ≠ '{' ∧ c ≠ '}'

instance (text : Text) : Decidable (IsBraceFree text) :=
  List.decidableBAll _ text

/-- The empty text holds no brace. -/
@[simp] theorem isBraceFree_nil : IsBraceFree [] :=
  List.forall_mem_nil _

/-- A text holds no brace if its first character is none and the rest holds none. -/
@[simp] theorem isBraceFree_cons {c : Char} {text : Text} :
    IsBraceFree (c :: text) ↔ (c ≠ '{' ∧ c ≠ '}') ∧ IsBraceFree text :=
  List.forall_mem_cons

/-- Two texts hold no brace if neither of them does. -/
@[simp] theorem isBraceFree_append {first second : Text} :
    IsBraceFree (first ++ second) ↔ IsBraceFree first ∧ IsBraceFree second :=
  List.forall_mem_append

/-- A text holds no brace exactly if it holds neither an opening nor a closing one. -/
theorem isBraceFree_iff_not_mem {text : Text} :
    IsBraceFree text ↔ '{' ∉ text ∧ '}' ∉ text := by
  constructor
  · intro free
    exact ⟨fun member => (free _ member).1 rfl, fun member => (free _ member).2 rfl⟩
  · rintro ⟨noOpening, noClosing⟩ c member
    exact ⟨fun same => noOpening (same ▸ member), fun same => noClosing (same ▸ member)⟩

/-- What consists of characters of a text without braces holds none either. -/
theorem IsBraceFree.subset {text part : Text} (free : IsBraceFree text) (within : part ⊆ text) :
    IsBraceFree part :=
  fun c member => free c (within member)

/-- A character that does not occur in a part of a text stands behind that part. -/
theorem exists_of_append_eq {part rest before after : Text} {c : Char} (absent : c ∉ part)
    (same : part ++ rest = before ++ c :: after) :
    ∃ between, before = part ++ between ∧ rest = between ++ c :: after := by
  rcases List.append_eq_append_iff.1 same with ⟨between, rfl, rfl⟩ | ⟨excess, rfl, behind⟩
  · exact ⟨between, rfl, rfl⟩
  · cases excess with
    | nil => exact ⟨[], by simp, behind.symm⟩
    | cons first excess =>
      obtain ⟨rfl, -⟩ := List.cons.inj behind
      exact absurd (by simp) absent

/-- A digit is no brace. -/
theorem isBraceFree_of_isDigit {text : Text} (digits : ∀ c ∈ text, c.isDigit = true) :
    IsBraceFree text := by
  intro c member
  have digit := digits c member
  constructor <;> rintro rfl <;> exact absurd digit (by decide)

/-- Replacing a word by a text without braces brings in no brace. -/
theorem IsBraceFree.replaceFirst {text value : Text} (free : IsBraceFree text)
    (valueFree : IsBraceFree value) (word : Text) : IsBraceFree (text.replaceFirst word value) := by
  induction text with
  | nil =>
    unfold Text.replaceFirst
    split
    · exact valueFree
    · exact isBraceFree_nil
  | cons c rest ih =>
    unfold Text.replaceFirst
    split
    · exact isBraceFree_append.2 ⟨valueFree, free.subset (List.drop_subset _ _)⟩
    · rw [isBraceFree_cons] at free ⊢
      exact ⟨free.1, ih free.2⟩

/-- What stands behind the first separator is part of the text. -/
theorem subset_of_splitFirst? {separator : Char} {text before after : Text}
    (found : splitFirst? separator text = some (before, after)) : after ⊆ text := by
  rw [splitFirst?_eq] at found
  split at found
  · cases found
    exact ((List.tail_sublist _).trans (List.dropWhile_sublist _)).subset
  · cases found

end Text

namespace Decimal

/-- A numeral holds no brace. -/
theorem isBraceFree_write (n : Nat) : Text.IsBraceFree (write n) :=
  Text.isBraceFree_of_isDigit fun _ member =>
    Nat.isDigit_of_mem_toDigits (by decide) (by decide) member

/-- A numeral with zeros in front of it holds no brace. -/
theorem isBraceFree_padded (width n : Nat) : Text.IsBraceFree (padded width n) := by
  have zeros : Text.IsBraceFree (List.replicate (width - (write n).length) '0') := by
    intro c member
    rw [List.eq_of_mem_replicate member]
    decide
  exact Text.isBraceFree_append.2 ⟨zeros, isBraceFree_write n⟩

/-- A numeral with a sign holds no brace. -/
theorem isBraceFree_writeInt (n : Int) : Text.IsBraceFree (writeInt n) := by
  unfold writeInt
  split
  · exact Text.isBraceFree_cons.2 ⟨by decide, isBraceFree_write _⟩
  · exact isBraceFree_write _

end Decimal

namespace Expression

/-- The modifiers of an expression without braces hold none. -/
theorem isBraceFree_of_mem_modifiers {expression : Expression} {token : Text}
    (free : Text.IsBraceFree expression.body) (member : token ∈ expression.modifiers) :
    Text.IsBraceFree token := by
  refine free.subset fun c inToken => List.mem_append_right _ ?_
  exact List.mem_flatMap.2 ⟨token, member, List.mem_cons_of_mem _ inToken⟩

end Expression
end Stencil
