import Stencil.Proofs.Resolver.SingleBuiltin
import Stencil.Proofs.Text.Numerals

/-!
# The range of a random number

A random number is asked for between the bounds that the expression names, or between those of
the settings, whichever of the two is the smaller one. A source that keeps within the bounds
that it is given then answers with a number between them, and its numeral is the value. Main
statements: `exists_request?_of_isComputedBy_random`, `exists_numeral_of_isComputedBy_random`.
-/

namespace Stencil

/-- The bounds are those of the first token of the expression that is a range, or the default
ones if none of its tokens is. -/
def Expression.HasBounds (default : Range) (expression : Expression) (bounds : Range) : Prop :=
  (∃ before token after, expression.modifiers = before ++ token :: after ∧
    Modifier.ofToken token = .range bounds ∧
      ∀ earlier ∈ before, ∀ other, Modifier.ofToken earlier ≠ .range other) ∨
  (∀ token ∈ expression.modifiers, ∀ other, Modifier.ofToken token ≠ .range other) ∧
    bounds = default

/-- The smaller and the larger one of two bounds. -/
def Range.ascending (bounds : Range) : Range :=
  ⟨Min.min bounds.min bounds.max, Max.max bounds.min bounds.max⟩

/-- Sorting the bounds of a range puts the smaller one first. -/
theorem Range.sorted_eq_ascending (bounds : Range) : bounds.sorted = bounds.ascending := by
  by_cases ordered : bounds.min ≤ bounds.max <;> simp [sorted, ascending, Min.min, Max.max, ordered]

/-- A range is read from a modifier that is one, and from no other. -/
theorem Modifier.range?_eq_some_iff {modifier : Modifier} {bounds : Range} :
    modifier.range? = some bounds ↔ modifier = .range bounds := by
  cases modifier <;> simp [range?]

/-- Nothing is read from a modifier that is no range. -/
theorem Modifier.range?_eq_none_iff {modifier : Modifier} :
    modifier.range? = none ↔ ∀ bounds, modifier ≠ .range bounds := by
  cases modifier <;> simp [range?]

/-- A random number is drawn from the range that has the bounds of the expression. -/
theorem Expression.exists_hasBounds (default : Range) (expression : Expression) :
    ∃ bounds, expression.HasBounds default bounds ∧
      default.select expression.classified = bounds.ascending := by
  unfold Range.select classified
  cases first : (expression.modifiers.map Modifier.ofToken).findSome? Modifier.range? with
  | none =>
    refine ⟨default, .inr ⟨fun token member => ?_, rfl⟩, default.sorted_eq_ascending⟩
    exact Modifier.range?_eq_none_iff.1
      (List.findSome?_eq_none_iff.1 first _ (List.mem_map_of_mem member))
  | some bounds =>
    refine ⟨bounds, .inl ?_, bounds.sorted_eq_ascending⟩
    rw [List.findSome?_map, List.findSome?_eq_some_iff] at first
    obtain ⟨before, token, after, parts, found, others⟩ := first
    exact ⟨before, token, after, parts, Modifier.range?_eq_some_iff.1 found,
      fun earlier member => Modifier.range?_eq_none_iff.1 (others earlier member)⟩

/-- Bounds in ascending order are in order. -/
theorem Range.ascending_min_le_max (bounds : Range) :
    bounds.ascending.min ≤ bounds.ascending.max :=
  bounds.sorted_eq_ascending ▸ bounds.sorted_min_le_max

namespace Resolver

variable (resolver : Resolver)

/-- No expression asks for a number of a range that is not in ascending order. -/
theorem min_le_max_of_request? {expression : Expression} {range : Range}
    (asks : resolver.request? expression = some (.number range)) : range.min ≤ range.max := by
  unfold request? at asks
  split at asks <;> cases asks
  exact Range.sorted_min_le_max _

/-- A random number makes one request, for a number between the bounds of the expression, and
its value is the numeral of the answer. -/
theorem exists_request?_of_isComputedBy_random {expression : Expression}
    (random : expression.isComputedBy .random) :
    ∃ bounds, expression.HasBounds resolver.settings.defaultRange bounds ∧
      resolver.request? expression = some (.number bounds.ascending) ∧
      ∀ vars used, resolver.valueAt vars used expression =
        .ok (Decimal.write
          (resolver.sources.random.number used.requests bounds.ascending).toNat) := by
  obtain ⟨bounds, has, selected⟩ := expression.exists_hasBounds resolver.settings.defaultRange
  have named := Expression.isComputedBy_iff_named.1 random
  refine ⟨bounds, has, by simp only [request?, named, selected], fun vars used => ?_⟩
  simp only [valueAt, Expression.isComputedBy_iff.1 random, selected]

/-- A source that keeps within bounds makes the value of a random number the numeral of a
number between them, whether the expression is evaluated by itself or in a template. -/
theorem exists_numeral_of_isComputedBy_random
    (keeps : resolver.sources.random.KeepsBounds) {expression : Expression} {bounds : Range}
    (random : expression.isComputedBy .random)
    (asks : resolver.request? expression = some (.number bounds)) (used : Usage) :
    ∃ text n, Decimal.IsNumeral text n ∧ bounds.min.toNat ≤ n ∧ n ≤ bounds.max.toNat ∧
      (resolver.builtin? expression).outcome used =
        (.ok (some text), used ++ resolver.uses [expression]) ∧
      ∀ vars, (resolver.replace vars expression).outcome used =
        (.ok text, used ++ resolver.uses [expression]) := by
  obtain ⟨other, -, alsoAsks, value⟩ :=
    resolver.exists_request?_of_isComputedBy_random random
  cases asks.symm.trans alsoAsks
  have named : Builtin.ofName? expression.name = some .random := by
    rw [Builtin.ofName?_eq_named?, Expression.isComputedBy_iff_named.1 random]
  have within := keeps used.requests _ other.ascending_min_le_max
  have replaced (vars : Variables) := resolver.outcome_replace vars expression used
  simp only [value] at replaced
  refine ⟨_, _, Decimal.isNumeral_write _, within.1, within.2, ?_, replaced⟩
  rw [builtin?_eq_map_replace ∅ named, Eval.outcome_map, replaced]
  rfl

end Resolver

end Stencil
