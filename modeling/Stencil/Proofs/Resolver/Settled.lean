import Stencil.Proofs.Resolver.Meaning

/-!
# Settled texts

A text is settled when every expression in it stands for itself. A pass over a
settled text changes nothing and uses nothing, so it resolves to itself.
-/

namespace Stencil

/-- An expression stands for itself exactly if it names no builtin and does not refer
to a variable that is defined. -/
theorem Expression.meaning_eq_verbatim_iff {vars : Variables} {expression : Expression} :
    expression.meaning vars = .verbatim ↔
      Builtin.isReserved expression.name = false ∧
        (expression.modifiers = [] → vars.get? expression.name = none) := by
  rw [meaning, Builtin.isReserved, Builtin.ofName?_eq_named?]
  cases expression.name.named? Builtin.words with
  | some builtin => simp
  | none =>
    cases modifiers : expression.modifiers with
    | nil => cases vars.get? expression.name <;> simp [hasModifiers, modifiers]
    | cons token rest => simp [hasModifiers, modifiers]

namespace Template

/-- Every expression of the text stands for itself. -/
def IsSettled (vars : Variables) (text : Text) : Prop :=
  ∀ expression ∈ expressions text, expression.meaning vars = .verbatim

/-- A text has no expressions exactly if there are none among its pieces. -/
theorem hasExpressions_eq_false_iff {text : Text} :
    hasExpressions text = false ↔ expressions text = [] := by
  simp [hasExpressions]

/-- A text without expressions is settled. -/
theorem isSettled_of_hasExpressions_eq_false {vars : Variables} {text : Text}
    (plain : hasExpressions text = false) : IsSettled vars text := by
  rw [IsSettled, hasExpressions_eq_false_iff.1 plain]
  exact List.forall_mem_nil _

/-- A text without braces is settled. -/
theorem isSettled_of_isBraceFree {vars : Variables} {text : Text} (free : text.IsBraceFree) :
    IsSettled vars text :=
  isSettled_of_hasExpressions_eq_false
    (hasExpressions_eq_false_iff.2 (expressions_of_isBraceFree free))

/-- The text of an expression that stands for itself is settled. -/
theorem isSettled_text {vars : Variables} {expression : Expression}
    (wellFormed : expression.IsWellFormed) (stays : expression.meaning vars = .verbatim) :
    IsSettled vars expression.text := by
  rw [IsSettled, expressions_text wellFormed]
  exact List.forall_mem_singleton.2 stays

end Template

namespace Resolver

variable {resolver : Resolver} {vars : Variables}

/-- A pass over pieces whose expressions stand for themselves gives back their text. -/
theorem passPieces_of_forall_verbatim {found : List Piece}
    (settled : ∀ expression, .expression expression ∈ found → expression.meaning vars = .verbatim) :
    resolver.passPieces vars found = pure (found.flatMap Piece.text) := by
  induction found with
  | nil => exact passPieces_nil resolver vars
  | cons piece rest ih =>
    have others := ih fun expression member => settled expression (List.mem_cons_of_mem _ member)
    have same : resolver.replacePiece vars piece = pure piece.text := by
      cases piece with
      | char c => rfl
      | expression expression =>
        rw [replacePiece, replace_eq, settled expression (List.mem_cons_self ..)]
        rfl
    rw [passPieces_cons, same, others]
    simp

/-- A pass over a settled text changes nothing and uses nothing. -/
theorem pass_of_isSettled {text : Text} (settled : Template.IsSettled vars text) :
    resolver.pass vars text = pure text := by
  rw [pass_eq, passPieces_of_forall_verbatim, Template.text_pieces]
  exact fun expression member => settled expression (Template.mem_expressions_iff.2 member)

/-- Where a pass changes nothing and uses nothing, more passes do not either. -/
theorem passes_of_pass_eq_pure {text : Text} (unchanged : resolver.pass vars text = pure text)
    (limit : Nat) : resolver.passes vars limit text = pure text := by
  cases limit with
  | zero => rfl
  | succ limit => rw [passes, unchanged, pure_bind, if_pos rfl]

/-- No number of passes changes a settled text. -/
theorem passes_of_isSettled {text : Text} (settled : Template.IsSettled vars text)
    (limit : Nat) : resolver.passes vars limit text = pure text :=
  passes_of_pass_eq_pure (pass_of_isSettled settled) limit

/-- Behind a pass that uses nothing the other passes go on from its text, also if that is the
text it was given: then it does not matter that they are left out. -/
theorem passes_succ_of_pass_eq_pure {template next : Text}
    (passed : resolver.pass vars template = pure next) (limit : Nat) :
    resolver.passes vars (limit + 1) template = resolver.passes vars limit next := by
  rw [passes, passed, pure_bind]
  split
  · next same =>
    subst same
    exact (passes_of_pass_eq_pure passed limit).symm
  · rfl

/-- Leaving at once where there are no expressions is invisible: the passes would change nothing. -/
theorem resolve_eq_passes (resolver : Resolver) (vars : Variables) (template : Text) :
    resolver.resolve vars template =
      resolver.passes vars resolver.settings.passes template := by
  unfold resolve
  split
  · rfl
  · next plain =>
    have settled : Template.IsSettled vars template :=
      Template.isSettled_of_hasExpressions_eq_false (Bool.eq_false_iff.2 plain)
    rw [passes_of_isSettled settled]

/-- Where the settings admit one pass, resolving is that pass. -/
theorem resolve_of_passes_eq_one (resolver : Resolver) (vars : Variables)
    (once : resolver.settings.passes = 1) (template : Text) :
    resolver.resolve vars template = resolver.pass vars template := by
  rw [resolve_eq_passes, once, passes]
  refine (bind_congr fun next => ?_).trans (bind_pure _)
  split
  · next same => rw [same]
  · rfl

end Resolver
end Stencil
