import Stencil.Expression

/-!
# Templates

A template is a text in which expressions occur. Reading it from its end gives a
sequence of pieces: single characters and whole expressions. A brace that
belongs to no expression is a piece like any other character. Main statement:
the pieces hold exactly the characters of the template.
-/

namespace Stencil

/-- A part of a template. -/
inductive Piece
  | char (c : Char)
  | expression (expression : Expression)
  deriving DecidableEq, Repr

namespace Piece

/-- The text of the piece in its template. -/
def text : Piece → Text
  | .char c => [c]
  | .expression found => found.text

/-- The expression that the piece is, if it is one. -/
def expression? : Piece → Option Expression
  | .char _ => none
  | .expression found => some found

end Piece

/-- An expression with the octets of the template that it covers, from `start`
up to but not including `stop`. -/
structure Occurrence where
  expression : Expression
  start : Nat
  stop : Nat
  deriving DecidableEq, Repr

namespace Template

/-- The text up to the first closing brace and the pieces behind it, provided
that nothing but characters other than braces comes before. -/
def enclosed? : List Piece → Option (Text × List Piece)
  | .char c :: rest =>
    if c = '}' then some ([], rest)
    else if c = '{' then none
    else (enclosed? rest).map fun (body, after) => (c :: body, after)
  | _ => none

/-- The pieces of a template that starts with the character and goes on with the
given pieces. -/
def prepend (c : Char) (rest : List Piece) : List Piece :=
  if c = '{' then
    match enclosed? rest with
    | some (body, after) =>
      if Expression.isBody body then .expression (.ofBody body) :: after else .char c :: rest
    | none => .char c :: rest
  else .char c :: rest

/-- The pieces of a template. -/
def pieces (template : Text) : List Piece :=
  template.foldr prepend []

/-- The expressions of a template, left to right. -/
def expressions (template : Text) : List Expression :=
  (pieces template).filterMap Piece.expression?

/-- Whether a template holds any expression. -/
def hasExpressions (template : Text) : Bool :=
  !(expressions template).isEmpty

/-- The names of the expressions, left to right and with repetitions. -/
def names (template : Text) : List Text :=
  (expressions template).map Expression.name

/-- The expressions among pieces that start at the given octet, with the octets
that they cover. -/
def occurrencesFrom (start : Nat) : List Piece → List Occurrence
  | [] => []
  | .char c :: rest => occurrencesFrom (start + c.utf8Size) rest
  | .expression expression :: rest =>
    let stop := start + expression.text.utf8Length
    ⟨expression, start, stop⟩ :: occurrencesFrom stop rest

/-- The expressions of a template with the octets that they cover. -/
def occurrences (template : Text) : List Occurrence :=
  occurrencesFrom 0 (pieces template)

/-- The enclosed text, its closing brace and the pieces behind it make up the
pieces that were searched. -/
theorem text_of_enclosed? {rest after : List Piece} {body : Text}
    (h : enclosed? rest = some (body, after)) :
    rest.flatMap Piece.text = body ++ '}' :: after.flatMap Piece.text := by
  fun_induction enclosed? rest generalizing body after with
  | case1 rest =>
    obtain ⟨rfl, rfl⟩ : [] = body ∧ rest = after := by simpa using h
    simp [Piece.text]
  | case2 => simp at h
  | case3 c rest _ _ ih =>
    simp only [Option.map_eq_some_iff, Prod.exists, Prod.mk.injEq] at h
    obtain ⟨shorter, _, found, rfl, rfl⟩ := h
    simp [Piece.text, ih found]
  | case4 => simp at h

/-- Putting a character in front of pieces puts it in front of their text. -/
theorem text_prepend (c : Char) (rest : List Piece) :
    (prepend c rest).flatMap Piece.text = c :: rest.flatMap Piece.text := by
  unfold prepend
  split
  · next brace =>
    subst brace
    split
    · next body after found =>
      split
      · simp [Piece.text, Expression.text, text_of_enclosed? found]
      · simp [Piece.text]
    · simp [Piece.text]
  · simp [Piece.text]

/-- The pieces of a template hold its characters, all of them and in order. -/
@[simp] theorem text_pieces (template : Text) :
    (pieces template).flatMap Piece.text = template := by
  induction template with
  | nil => rfl
  | cons c rest ih => simpa [pieces] using (text_prepend c (pieces rest)).trans (by rw [ih])

end Template
end Stencil
