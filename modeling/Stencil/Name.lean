import Stencil.Invalid

/-!
# Names

A name starts with an ASCII letter or an underscore and goes on with ASCII
letters, digits and underscores. The same rule decides which expressions a
template can hold and which variables can be defined.
-/

namespace Stencil.Name

/-- Whether a name can start with the character. -/
def canStart (c : Char) : Bool :=
  c.isAlpha || c == '_'

/-- Whether a name can go on with the character. -/
def canContinue (c : Char) : Bool :=
  c.isAlphanum || c == '_'

/-- Whether the text is a name. -/
def isValid : Text → Bool
  | [] => false
  | first :: rest => canStart first && rest.all canContinue

/-- Refuses a text that is not a name. -/
def validate (text : Text) : Except Invalid Unit :=
  if isValid text then .ok () else .error (.variableName text)

/-- What a name can start with, it can go on with. -/
theorem canContinue_of_canStart {c : Char} (h : canStart c = true) : canContinue c = true := by
  simp only [canStart, canContinue, Char.isAlphanum, Bool.or_eq_true] at h ⊢
  rcases h with letter | underscore
  · exact .inl (.inl letter)
  · exact .inr underscore

/-- A name consists of letters, digits and underscores. -/
theorem canContinue_of_mem {name : Text} (valid : isValid name = true) {c : Char}
    (member : c ∈ name) : canContinue c = true := by
  cases name with
  | nil => simp at member
  | cons first rest =>
    simp only [isValid, Bool.and_eq_true, List.all_eq_true] at valid
    rcases List.mem_cons.1 member with rfl | later
    · exact canContinue_of_canStart valid.1
    · exact valid.2 c later

/-- Braces and colons occur in no name. -/
theorem not_mem_of_isValid {name : Text} (valid : isValid name = true) :
    '{' ∉ name ∧ '}' ∉ name ∧ ':' ∉ name := by
  refine ⟨fun h => ?_, fun h => ?_, fun h => ?_⟩ <;>
    exact absurd (canContinue_of_mem valid h) (by decide)

end Stencil.Name
