import Stencil.Proofs.Template.Grammar
import Stencil.Proofs.Text.Braces

/-!
# Brace-closed templates

A template is brace-closed when each of its braces belongs to an expression. Such
a template is read apart from whatever comes behind it (`pieces_append`), so no
expression can arise across the seam of two of them, and brace-closed templates
joined together are brace-closed.
-/

namespace Stencil

/-- A brace that belongs to no expression. -/
def Piece.isStray : Piece → Bool
  | .char c => c == '{' || c == '}'
  | .expression _ => false

/-- No brace stands between the braces of an expression. -/
theorem Expression.IsWellFormed.isBraceFree_body {expression : Expression}
    (wellFormed : expression.IsWellFormed) : Text.IsBraceFree expression.body :=
  Text.isBraceFree_iff_not_mem.2 ⟨wellFormed.noOpening, wellFormed.noClosing⟩

namespace Template

/-- Each brace of the template belongs to an expression. -/
def IsBraceClosed (template : Text) : Prop :=
  ∀ piece ∈ pieces template, piece.isStray = false

instance (template : Text) : Decidable (IsBraceClosed template) :=
  inferInstanceAs (Decidable (∀ piece ∈ pieces template, piece.isStray = false))

/-- Pieces that can be read again: well-formed expressions and no stray braces. -/
def AreClosed (found : List Piece) : Prop :=
  ∀ piece ∈ found, piece.isStray = false ∧
    ∀ expression, piece = .expression expression → expression.IsWellFormed

/-- The pieces of a brace-closed template can be read again. -/
theorem IsBraceClosed.areClosed {template : Text} (closed : IsBraceClosed template) :
    AreClosed (pieces template) := by
  intro piece member
  refine ⟨closed piece member, ?_⟩
  rintro expression rfl
  exact isWellFormed_of_mem_pieces member

/-- Closed pieces written in front of a text are read as they were, and the text is
read as if it stood alone. -/
theorem pieces_flatMap_text_append {found : List Piece} (closed : AreClosed found) (after : Text) :
    pieces (found.flatMap Piece.text ++ after) = found ++ pieces after := by
  induction found with
  | nil => rfl
  | cons piece rest ih =>
    obtain ⟨pieceClosed, restClosed⟩ := List.forall_mem_cons.1 closed
    rw [List.flatMap_cons, List.append_assoc]
    cases piece with
    | char c =>
      have notOpening : c ≠ '{' := by
        rintro rfl
        exact absurd pieceClosed.1 (by decide)
      rw [Piece.text, List.singleton_append, pieces_cons notOpening, ih restClosed]
      rfl
    | expression expression =>
      rw [Piece.text, pieces_text_append (pieceClosed.2 expression rfl), ih restClosed]
      rfl

/-- A brace-closed template is read apart from what comes behind it. -/
theorem pieces_append {first : Text} (closed : IsBraceClosed first) (second : Text) :
    pieces (first ++ second) = pieces first ++ pieces second := by
  have read := pieces_flatMap_text_append closed.areClosed second
  rwa [text_pieces] at read

/-- The text of closed pieces is brace-closed. -/
theorem AreClosed.isBraceClosed {found : List Piece} (closed : AreClosed found) :
    IsBraceClosed (found.flatMap Piece.text) := by
  have read := pieces_flatMap_text_append closed []
  simp only [List.append_nil, pieces, List.foldr_nil] at read
  unfold IsBraceClosed pieces
  rw [read]
  exact fun piece member => (closed piece member).1

/-- So is the text of each of them. -/
theorem AreClosed.isBraceClosed_text {found : List Piece} (closed : AreClosed found)
    {piece : Piece} (member : piece ∈ found) : IsBraceClosed piece.text := by
  have single : AreClosed [piece] := List.forall_mem_singleton.2 (closed piece member)
  simpa using single.isBraceClosed

/-- The empty text is brace-closed. -/
theorem isBraceClosed_nil : IsBraceClosed [] :=
  List.forall_mem_nil _

/-- Brace-closed texts in a row are brace-closed. -/
theorem IsBraceClosed.append {first second : Text} (firstClosed : IsBraceClosed first)
    (secondClosed : IsBraceClosed second) : IsBraceClosed (first ++ second) := by
  unfold IsBraceClosed
  rw [pieces_append firstClosed]
  exact List.forall_mem_append.2 ⟨firstClosed, secondClosed⟩

/-- Any number of brace-closed texts in a row are brace-closed. -/
theorem isBraceClosed_flatten {parts : List Text} (closed : ∀ part ∈ parts, IsBraceClosed part) :
    IsBraceClosed parts.flatten := by
  induction parts with
  | nil => exact isBraceClosed_nil
  | cons part rest ih =>
    obtain ⟨partClosed, restClosed⟩ := List.forall_mem_cons.1 closed
    exact partClosed.append (ih restClosed)

/-- The pieces of a text without braces are its characters. -/
theorem pieces_of_isBraceFree {text : Text} (free : text.IsBraceFree) :
    pieces text = text.map Piece.char := by
  have read := foldr_prepend_plain (Text.isBraceFree_iff_not_mem.1 free).1 []
  rwa [List.append_nil] at read

/-- A text without braces is brace-closed. -/
theorem isBraceClosed_of_isBraceFree {text : Text} (free : text.IsBraceFree) :
    IsBraceClosed text := by
  unfold IsBraceClosed
  rw [pieces_of_isBraceFree free]
  intro piece member
  obtain ⟨c, inText, rfl⟩ := List.mem_map.1 member
  simpa [Piece.isStray] using free c inText

/-- The only piece of the text of an expression is the expression. -/
theorem pieces_text {expression : Expression} (wellFormed : expression.IsWellFormed) :
    pieces expression.text = [.expression expression] := by
  have read := pieces_text_append wellFormed []
  rwa [List.append_nil] at read

/-- The text of an expression is brace-closed. -/
theorem isBraceClosed_text {expression : Expression} (wellFormed : expression.IsWellFormed) :
    IsBraceClosed expression.text := by
  simp [IsBraceClosed, pieces_text wellFormed, Piece.isStray]

/-- The expressions of a template are its pieces that are expressions. -/
theorem mem_expressions_iff {template : Text} {expression : Expression} :
    expression ∈ expressions template ↔ .expression expression ∈ pieces template := by
  rw [expressions, List.mem_filterMap]
  constructor
  · rintro ⟨piece, member, isExpression⟩
    cases piece with
    | char => simp [Piece.expression?] at isExpression
    | expression => cases isExpression; exact member
  · exact fun member => ⟨_, member, rfl⟩

/-- The expressions of a brace-closed template and of what comes behind it. -/
theorem expressions_append {first : Text} (closed : IsBraceClosed first) (second : Text) :
    expressions (first ++ second) = expressions first ++ expressions second := by
  rw [expressions, pieces_append closed, List.filterMap_append]
  rfl

/-- The only expression in the text of an expression is the expression itself. -/
theorem expressions_text {expression : Expression} (wellFormed : expression.IsWellFormed) :
    expressions expression.text = [expression] := by
  rw [expressions, pieces_text wellFormed]
  rfl

/-- A text without braces holds no expression. -/
theorem expressions_of_isBraceFree {text : Text} (free : text.IsBraceFree) :
    expressions text = [] := by
  rw [expressions, pieces_of_isBraceFree free, List.filterMap_map]
  exact List.filterMap_eq_nil_iff.2 fun _ _ => rfl

end Template
end Stencil
