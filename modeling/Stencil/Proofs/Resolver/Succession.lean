import Stencil.Proofs.Resolver.Settled

/-!
# The expressions of the next pass

Where the values that a brace-closed template refers to are brace-closed, a pass over it
leaves, in the order of its expressions, what each of them leaves behind: nothing where a
builtin stood, the expressions of the value where a reference stood, and the expression
itself otherwise.
Main statement: `ensures_expressions_pass`.
-/

namespace Stencil

open Template

/-- The expressions that an expression leaves behind when it is replaced. -/
def Expression.successors (vars : Variables) (expression : Expression) : List Expression :=
  match expression.meaning vars with
  | .computed _ => []
  | .reference value => expressions value
  | .verbatim => [expression]

namespace Resolver

variable {resolver : Resolver} {vars : Variables}

/-- What replaces an expression holds the expressions that it leaves behind. -/
theorem ensures_expressions_replace {expression : Expression}
    (wellFormed : expression.IsWellFormed) :
    (resolver.replace vars expression).Ensures fun text =>
      expressions text = expression.successors vars := by
  refine (ensures_canBecome_replace wellFormed).mono fun text => ?_
  unfold Expression.CanBecome Expression.successors
  cases expression.meaning vars with
  | computed builtin => exact expressions_of_isBraceFree
  | reference value => exact congrArg expressions
  | verbatim =>
    rintro rfl
    exact expressions_text wellFormed

/-- A pass over closed pieces leaves what their expressions leave behind, in order. -/
theorem ensures_expressions_passPieces {found : List Piece}
    (valuesClosed : ∀ expression, .expression expression ∈ found → ∀ value,
      expression.meaning vars = .reference value → IsBraceClosed value)
    (closed : AreClosed found) :
    (resolver.passPieces vars found).Ensures fun text =>
      expressions text = (found.filterMap Piece.expression?).flatMap (·.successors vars) := by
  induction found with
  | nil =>
    rw [passPieces_nil]
    exact .pure rfl
  | cons piece rest ih =>
    obtain ⟨pieceClosed, restClosed⟩ := List.forall_mem_cons.1 closed
    have others := ih (fun expression member =>
      valuesClosed expression (List.mem_cons_of_mem _ member)) restClosed
    rw [passPieces_cons]
    cases piece with
    | char c =>
      have free : Text.IsBraceFree [c] := by simpa [Piece.isStray] using pieceClosed.1
      have alone := expressions_append (isBraceClosed_of_isBraceFree free)
      rw [replacePiece, pure_bind]
      refine others.bind fun rest known => .pure ?_
      rw [alone rest, expressions_of_isBraceFree free, known]
      rfl
    | expression expression =>
      have wellFormed := pieceClosed.2 expression rfl
      have textClosed : (resolver.replace vars expression).Ensures IsBraceClosed :=
        ensures_isBraceClosed_replace (valuesClosed expression (List.mem_cons_self ..)) wellFormed
      rw [replacePiece]
      refine (textClosed.and (ensures_expressions_replace wellFormed)).bind
        fun text both => others.bind fun rest known => .pure ?_
      rw [expressions_append both.1, both.2, known]
      rfl

/-- A pass over a brace-closed template leaves what its expressions leave behind, in order. -/
theorem ensures_expressions_pass {template : Text} (valuesClosed : RefersToClosed vars template)
    (closed : IsBraceClosed template) :
    (resolver.pass vars template).Ensures fun next =>
      expressions next = (expressions template).flatMap (·.successors vars) := by
  apply ensures_expressions_passPieces
  · exact fun expression member => valuesClosed expression (mem_expressions_iff.2 member)
  · exact closed.areClosed

/-- If no value holds a brace, a pass over a brace-closed template settles it. -/
theorem ensures_isSettled_pass (valuesFree : vars.AreBraceFree) {template : Text}
    (closed : IsBraceClosed template) :
    (resolver.pass vars template).Ensures (IsSettled vars) := by
  intro usage next run expression member
  have valuesClosed := valuesFree.areBraceClosed.refersToClosed template
  rw [ensures_expressions_pass valuesClosed closed usage next run] at member
  obtain ⟨origin, -, left⟩ := List.mem_flatMap.1 member
  unfold Expression.successors at left
  split at left
  · cases left
  · next value refers =>
    rw [expressions_of_isBraceFree
      (valuesFree _ value (Expression.get?_of_meaning_eq_reference refers))] at left
    cases left
  · next stays =>
    rwa [List.mem_singleton.1 left]

/-- Where a pass settles a template, resolving is that pass. -/
theorem resolve_eq_pass_of_ensures_isSettled {template : Text}
    (settles : (resolver.pass vars template).Ensures (IsSettled vars)) :
    resolver.resolve vars template = resolver.pass vars template := by
  obtain ⟨limit, atLeastOne⟩ := Nat.exists_eq_add_of_le' resolver.settings.passes_bounds.1
  rw [resolve_eq_passes, atLeastOne, passes]
  refine (settles.bind_congr fun next settled => ?_).trans (bind_pure _)
  rw [passes_of_isSettled settled]
  split
  · next same => rw [same]
  · rfl

/-- If no value holds a brace, resolving a brace-closed template is a single pass. -/
theorem resolve_eq_pass (valuesFree : vars.AreBraceFree) {template : Text}
    (closed : IsBraceClosed template) :
    resolver.resolve vars template = resolver.pass vars template :=
  resolve_eq_pass_of_ensures_isSettled (ensures_isSettled_pass valuesFree closed)

end Resolver
end Stencil
