import Stencil.Proofs.Template.BraceClosed

/-!
# How deep braces are nested

Reading a text from left to right, an opening brace leads one level up and a closing
brace one level down. A closing brace without an opening one is disregarded, so the
level is never negative. The depth of a text is the highest level within it.
-/

namespace Stencil

namespace Text

/-- The level behind a character that is read on the given level. -/
def levelBehind (level : Nat) (c : Char) : Nat :=
  if c = '{' then level + 1 else if c = '}' then level - 1 else level

/-- The level behind a text that is read from the given level on. -/
def levelAfter (level : Nat) (text : Text) : Nat :=
  text.foldl levelBehind level

/-- The highest level within a text that is read from the given level on. -/
def depthFrom (level : Nat) : Text → Nat
  | [] => level
  | c :: rest => max level (depthFrom (levelBehind level c) rest)

/-- The highest level within a text. -/
def depth (text : Text) : Nat :=
  depthFrom 0 text

/-- The empty text keeps the level. -/
@[simp] theorem levelAfter_nil (level : Nat) : levelAfter level [] = level := rfl

/-- The level behind a text is reached character by character. -/
@[simp] theorem levelAfter_cons (level : Nat) (c : Char) (rest : Text) :
    levelAfter level (c :: rest) = levelAfter (levelBehind level c) rest := rfl

/-- The level behind two texts is reached by way of that between them. -/
@[simp] theorem levelAfter_append (level : Nat) (first second : Text) :
    levelAfter level (first ++ second) = levelAfter (levelAfter level first) second :=
  List.foldl_append

/-- Characters other than braces keep the level. -/
theorem levelAfter_of_isBraceFree {text : Text} (free : text.IsBraceFree) (level : Nat) :
    levelAfter level text = level := by
  induction text with
  | nil => rfl
  | cons c rest ih =>
    rw [isBraceFree_cons] at free
    have kept : levelBehind level c = level := by simp [levelBehind, free.1]
    rw [levelAfter_cons, kept, ih free.2]

/-- The level in front of a text counts for its depth, too. -/
theorem le_depthFrom (level : Nat) (text : Text) : level ≤ depthFrom level text := by
  cases text with
  | nil => exact Nat.le_refl level
  | cons c rest => exact Nat.le_max_left _ _

/-- No level within a text is higher than its depth. -/
theorem levelAfter_le_depthFrom (level : Nat) (before after : Text) :
    levelAfter level before ≤ depthFrom level (before ++ after) := by
  induction before generalizing level with
  | nil => exact le_depthFrom level after
  | cons c rest ih => exact Nat.le_trans (ih _) (Nat.le_max_right _ _)

end Text

/-- The braces of an expression keep the level. -/
theorem Expression.IsWellFormed.levelAfter_text {expression : Expression}
    (wellFormed : expression.IsWellFormed) (level : Nat) :
    Text.levelAfter level expression.text = level := by
  have within := Text.levelAfter_of_isBraceFree wellFormed.isBraceFree_body (level + 1)
  simp [Expression.text, Text.levelBehind, within]

end Stencil
