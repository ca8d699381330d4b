import Stencil.Proofs.Resolver.Shadowing
import Stencil.Proofs.Resolver.Usage
import Stencil.Proofs.Template.Tokens

/-!
# A builtin on its own

The text of an expression that names a builtin is a template, too. It resolves to the value
that the builtin gives for the expression itself: the text is read back as the expression,
and the value holds no brace, so no pass changes it again. Main statement:
`resolve_text_eq_builtin`.
-/

namespace Stencil

open Template

/-- A reserved name is a name: it consists of letters. -/
theorem Builtin.isValid_of_isReserved {name : Text} (reserved : isReserved name = true) :
    Name.isValid name = true := by
  obtain ⟨word, member, isWord⟩ := (isReserved_iff name).1 reserved
  have letters : ∀ word ∈ ["now", "timestamp", "uuid", "random", "rand"],
      word.toList.all Char.isAlpha = true ∧ word.toList ≠ [] := by decide
  obtain ⟨isWritten, notEmpty⟩ := letters word member
  exact Name.isValid_of_isKeyword isWord isWritten notEmpty

namespace Resolver

variable {resolver : Resolver} {vars : Variables}

/-- The text of an expression that a builtin computes resolves to the value of the builtin. -/
theorem resolve_text_of_computed {expression : Expression} (wellFormed : expression.IsWellFormed)
    {builtin : Builtin} (computes : expression.meaning vars = .computed builtin) :
    resolver.resolve vars expression.text = resolver.replace vars expression := by
  have settles : (resolver.pass vars expression.text).Ensures (IsSettled vars) := by
    rw [pass_text resolver vars wellFormed]
    refine (ensures_canBecome_replace wellFormed).mono fun text becomes => ?_
    rw [Expression.CanBecome, computes] at becomes
    exact isSettled_of_isBraceFree becomes
  rw [resolve_eq_pass_of_ensures_isSettled settles, pass_text resolver vars wellFormed]

/-- Evaluating an expression that names a builtin by itself is replacing it. -/
theorem builtin?_eq_map_replace (vars : Variables) {expression : Expression} {builtin : Builtin}
    (named : Builtin.ofName? expression.name = some builtin) :
    resolver.builtin? expression = some <$> resolver.replace vars expression := by
  rw [replace_eq, Expression.meaning_eq_computed_iff.2 named, builtin?, Builtin.evaluate?, named]
  rfl

/-- An expression that names a builtin takes one reading of the clock or makes one request. -/
theorem uses_single {expression : Expression} {builtin : Builtin}
    (named : Builtin.ofName? expression.name = some builtin) :
    (resolver.uses [expression]).readings + (resolver.uses [expression]).requests.length = 1 := by
  rw [Builtin.ofName?_eq_named?] at named
  cases builtin <;> simp [uses, Expression.isComputedBy, request?, named]

/-- An expression with the name of a builtin, in any ASCII case, resolves as a template to
the value that the builtin gives for it, or both are stopped, provided that its tokens are
read as they are written. Both use the sources alike, for one reading of the clock or one
request of the random source, whatever was used before, and whatever the variables are. -/
theorem resolve_text_eq_builtin {expression : Expression}
    (named : ∃ word ∈ ["now", "timestamp", "uuid", "random", "rand"],
      expression.name.isKeyword word = true)
    (tokens : Expression.AreTokens expression.modifiers) (resolver : Resolver) (vars : Variables)
    (usage : Usage) :
    ∃ result,
      (resolver.resolve vars expression.text).outcome usage =
        (result, usage ++ resolver.uses [expression]) ∧
      (resolver.builtin? expression).outcome usage =
        (result.map some, usage ++ resolver.uses [expression]) ∧
      (resolver.uses [expression]).readings +
        (resolver.uses [expression]).requests.length = 1 := by
  have reserved := (Builtin.isReserved_iff expression.name).2 named
  obtain ⟨builtin, isBuiltin⟩ := Option.isSome_iff_exists.1 reserved
  have computes : expression.meaning vars = .computed builtin :=
    Expression.meaning_eq_computed_iff.2 isBuiltin
  have wellFormed : expression.IsWellFormed :=
    Expression.isWellFormed_of_areTokens (Builtin.isValid_of_isReserved reserved) tokens
  have replaced := resolver.outcome_replace vars expression usage
  refine ⟨resolver.valueAt vars usage expression, ?_, ?_, uses_single isBuiltin⟩
  · rw [resolve_text_of_computed wellFormed computes, replaced]
  · rw [builtin?_eq_map_replace vars isBuiltin, Eval.outcome_map, replaced]

/-- A time in mixed case, shifted, with a pattern that holds a colon of its own. -/
theorem resolve_text_eq_builtin_pattern :
    let expression : Expression :=
      ⟨"nOw".toList, ["local".toList, "-1M".toList, "Fmt:HH:mm".toList]⟩
    (∃ word ∈ ["now", "timestamp", "uuid", "random", "rand"],
      expression.name.isKeyword word = true) ∧
    Expression.AreTokens expression.modifiers ∧
    ∀ (resolver : Resolver) vars usage, ∃ result,
      (resolver.resolve vars "{nOw:local:-1M:Fmt:HH:mm}".toList).outcome usage =
        (result, usage ++ resolver.uses [expression]) ∧
      (resolver.builtin? expression).outcome usage =
        (result.map some, usage ++ resolver.uses [expression]) ∧
      (resolver.uses [expression]).readings +
        (resolver.uses [expression]).requests.length = 1 := by
  intro expression
  have named : ∃ word ∈ ["now", "timestamp", "uuid", "random", "rand"],
      expression.name.isKeyword word = true := ⟨"now", by decide, by decide⟩
  have tokens : Expression.AreTokens expression.modifiers := by
    apply Expression.AreTokens.cons (by decide) (by decide)
    apply Expression.AreTokens.cons (by decide) (by decide)
    apply Expression.AreTokens.last
    exact .inr ⟨"Fmt".toList, ["HH".toList, "mm".toList], by decide, by decide, by decide, rfl⟩
  exact ⟨named, tokens, resolve_text_eq_builtin named tokens⟩

end Resolver
end Stencil
