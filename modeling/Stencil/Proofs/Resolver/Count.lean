import Mathlib
import Stencil.Proofs.Resolver.Expansion
import Stencil.Proofs.Resolver.Usage

/-!
# Each builtin is evaluated once

`count` says by recursion into the values of variables how often a template leads to a
builtin. On brace-closed templates of a height that the settings admit, all passes
together use the sources that often (`exists_uses_eq`): what a pass evaluates, no later
pass evaluates again. Main statement: `resolve_evaluates_once`.
-/

namespace Stencil

open Template

namespace Template

/-- What an expression contributes to the number of times that a template leads to a
builtin, given the numbers for the values of variables. -/
def contribution (vars : Variables) (builtin : Builtin) (count : Text → ℕ∞)
    (expression : Expression) : ℕ∞ :=
  match expression.meaning vars with
  | .computed other => if other = builtin then 1 else 0
  | .reference value => count value
  | .verbatim => 0

/-- The sum of what expressions contribute. -/
def contributions (vars : Variables) (builtin : Builtin) (count : Text → ℕ∞)
    (expressions : List Expression) : ℕ∞ :=
  (expressions.map (contribution vars builtin count)).sum

/-- One more level of the count: the sum over the expressions of a template. -/
noncomputable def countStep (vars : Variables) (builtin : Builtin) :
    (Text → ℕ∞) →o (Text → ℕ∞) where
  toFun count template := contributions vars builtin count (expressions template)
  monotone' := by
    intro lower upper le template
    refine List.sum_le_sum fun expression _ => ?_
    unfold contribution
    split
    · exact le_rfl
    · next value _ => exact le value
    · exact le_rfl

/-- How often a template leads to a builtin: the least solution of the recursion that
`countStep` describes. -/
noncomputable def count (vars : Variables) (builtin : Builtin) : Text → ℕ∞ :=
  (countStep vars builtin).lfp

/-- The count of a template is the sum over its expressions. -/
theorem count_eq (vars : Variables) (builtin : Builtin) (template : Text) :
    count vars builtin template =
      contributions vars builtin (count vars builtin) (expressions template) :=
  (congrFun (countStep vars builtin).map_lfp template).symm

section Contributions

variable {vars : Variables} {builtin : Builtin}

/-- What expressions contribute adds up. -/
theorem contributions_append (number : Text → ℕ∞) (first second : List Expression) :
    contributions vars builtin number (first ++ second) =
      contributions vars builtin number first + contributions vars builtin number second := by
  rw [contributions, List.map_append, List.sum_append]
  rfl

/-- An expression contributes itself and what it leaves behind. -/
theorem contribution_eq (expression : Expression) :
    contribution vars builtin (count vars builtin) expression =
      (if expression.isComputedBy builtin then 1 else 0) +
        contributions vars builtin (count vars builtin) (expression.successors vars) := by
  have computed : expression.isComputedBy builtin = true ↔
      expression.meaning vars = .computed builtin := Expression.isComputedBy_iff
  cases stands : expression.meaning vars with
  | computed other => simp [contribution, Expression.successors, contributions, computed, stands]
  | reference value =>
    simp [contribution, Expression.successors, computed, stands, ← count_eq]
  | verbatim => simp [contribution, Expression.successors, contributions, computed, stands]

/-- Expressions contribute themselves and what they leave behind. -/
theorem contributions_eq (found : List Expression) :
    contributions vars builtin (count vars builtin) found =
      (found.countP (·.isComputedBy builtin) : ℕ) +
        contributions vars builtin (count vars builtin) (found.flatMap (·.successors vars)) := by
  induction found with
  | nil => simp [contributions]
  | cons expression rest ih =>
    have split : contributions vars builtin (count vars builtin) (expression :: rest) =
        contribution vars builtin (count vars builtin) expression +
          contributions vars builtin (count vars builtin) rest := List.sum_cons
    rw [split, ih, contribution_eq, List.flatMap_cons, contributions_append, List.countP_cons,
      Nat.cast_add, Nat.cast_ite, Nat.cast_one, Nat.cast_zero]
    ac_rfl

/-- A settled text leads to no builtin. -/
theorem count_of_isSettled {text : Text} (settled : IsSettled vars text) :
    count vars builtin text = 0 := by
  rw [count_eq, contributions]
  refine List.sum_eq_zero fun number member => ?_
  obtain ⟨expression, isExpression, rfl⟩ := List.mem_map.1 member
  rw [contribution, settled expression isExpression]

end Contributions

/-- A text without height is settled. -/
theorem isSettled_of_height_le_zero {vars : Variables} {text : Text}
    (flat : height vars text ≤ 0) : IsSettled vars text := by
  intro expression member
  have bound := height_le_iff.1 flat expression member
  cases stands : expression.meaning vars with
  | computed builtin => simp [stands] at bound
  | reference value => simp [stands] at bound
  | verbatim => rfl

/-- What a template leaves behind is lower than the template. -/
theorem height_le_of_expressions_eq {vars : Variables} {template next : Text} {bound : ℕ}
    (low : height vars template ≤ (bound + 1 : ℕ))
    (left : expressions next = (expressions template).flatMap (·.successors vars)) :
    height vars next ≤ bound := by
  refine height_le_iff.2 fun expression member => ?_
  rw [left] at member
  obtain ⟨origin, isOrigin, isSuccessor⟩ := List.mem_flatMap.1 member
  have originLow := height_le_iff.1 low origin isOrigin
  cases stands : origin.meaning vars with
  | computed builtin => simp [Expression.successors, stands] at isSuccessor
  | reference value =>
    simp only [Expression.successors, stands] at isSuccessor
    have lower : 1 + height vars value ≤ 1 + (bound : ℕ∞) := by
      rwa [stands, Nat.cast_add, Nat.cast_one, add_comm (bound : ℕ∞)] at originLow
    have valueLow := (ENat.add_le_add_iff_left ENat.one_ne_top).1 lower
    exact height_le_iff.1 valueLow expression isSuccessor
  | verbatim =>
    simp only [Expression.successors, stands, List.mem_singleton] at isSuccessor
    simp [isSuccessor, stands]

/-- A template of finite height that leaves behind its own expressions is settled. -/
theorem isSettled_of_expressions_eq {vars : Variables} {template : Text} {bound : ℕ}
    (low : height vars template ≤ bound)
    (left : expressions template = (expressions template).flatMap (·.successors vars)) :
    IsSettled vars template := by
  induction bound with
  | zero => exact isSettled_of_height_le_zero low
  | succ bound ih => exact ih (height_le_of_expressions_eq low left)

end Template

namespace Resolver

variable {resolver : Resolver} {vars : Variables}

/-- Passes evaluate the expressions of a builtin as often as the template leads to it, no
matter how the sources move on meanwhile. The induction is on the number of passes: the
first evaluates the expressions of the template, the others what these leave behind. -/
theorem exists_uses_eq (valuesClosed : vars.AreBraceClosed) {limit : ℕ} {template text : Text}
    {usage used : Usage} (closed : IsBraceClosed template) (low : height vars template ≤ limit)
    (run : (resolver.passes vars limit template).outcome usage = (.ok text, used)) :
    ∃ evaluated : List Expression, used = usage ++ resolver.uses evaluated ∧
      ∀ builtin, (evaluated.countP (·.isComputedBy builtin) : ℕ) = count vars builtin template := by
  induction limit generalizing template usage with
  | zero =>
    rw [passes, Eval.outcome_pure] at run
    cases run
    refine ⟨[], (Usage.append_empty _).symm, fun builtin => ?_⟩
    rw [count_of_isSettled (isSettled_of_height_le_zero low)]
    rfl
  | succ limit ih =>
    obtain ⟨next, between, passed, onward⟩ := outcome_passes_succ_eq_ok_iff.1 run
    obtain ⟨rfl, -⟩ := resolver.outcome_pass_eq_ok vars passed
    have result := congrArg Prod.fst passed
    have referencesClosed := valuesClosed.refersToClosed template
    have left := ensures_expressions_pass referencesClosed closed usage next result
    -- The pass evaluates the expressions of the template; the rest is left to the passes behind it.
    have count_next (builtin : Builtin) : count vars builtin template =
        ((expressions template).countP (·.isComputedBy builtin) : ℕ) +
          count vars builtin next := by
      rw [count_eq, contributions_eq, ← left, ← count_eq]
    rcases onward with ⟨rfl, rfl, rfl⟩ | ⟨-, onward⟩
    · have settled := isSettled_of_expressions_eq low left
      refine ⟨expressions text, rfl, fun builtin => ?_⟩
      rw [count_next, count_of_isSettled settled, add_zero]
    · have nextClosed := ensures_isBraceClosed_pass referencesClosed closed usage next result
      obtain ⟨evaluated, rfl, counts⟩ :=
        ih nextClosed (height_le_of_expressions_eq low left) onward
      refine ⟨expressions template ++ evaluated, ?_, fun builtin => ?_⟩
      · rw [uses_append, Usage.append_assoc]
      · rw [count_next, List.countP_append, Nat.cast_add, counts]

/-- If values are brace-closed and the settings admit the height of a brace-closed
template, resolving takes as many readings of the clock and makes as many requests of
either kind as the template leads to times, identifiers and numbers, and no others. If no
value holds a brace, it evaluates the expressions in the order of the template: each time
shows the reading that comes next after those for the times before it, and each request
is answered in the place of its expression. For a message the topic comes first. -/
theorem resolve_evaluates_once (resolver : Resolver) (vars : Variables) :
    (vars.AreBraceClosed → ∀ template usage, IsBraceClosed template →
      height vars template ≤ resolver.settings.passes →
      resolver.TimesReturn vars template usage →
        ∃ text more,
          (resolver.resolve vars template).outcome usage = (.ok text, usage ++ more) ∧
            (more.readings : ℕ∞) = count vars .now template ∧
            (more.requests.count (.bytes 16) : ℕ∞) = count vars .uuid template ∧
            (more.requests.countP Request.isNumber : ℕ∞) = count vars .random template ∧
            (more.requests.length : ℕ∞) =
              count vars .uuid template + count vars .random template) ∧
    (vars.AreBraceFree →
      (∀ template usage, IsBraceClosed template → resolver.TimesReturn vars template usage →
        ∃ text, (resolver.resolve vars template).outcome usage =
            (.ok text, usage ++ resolver.uses (expressions template)) ∧
          resolver.IsInOrder vars usage template text) ∧
      ∀ (message : Message) usage, IsBraceClosed message.topic →
        (∀ payload ∈ message.payload, IsBraceClosed payload) →
        resolver.TimesReturn vars message.topic usage →
        (∀ payload ∈ message.payload, resolver.TimesReturn vars payload
          (usage ++ resolver.uses (expressions message.topic))) →
          ∃ topic payload, (resolver.resolveMessage vars message).outcome usage =
              (.ok { message with topic, payload },
                usage ++ resolver.uses
                  (expressions message.topic ++ message.payload.toList.flatMap expressions)) ∧
            resolver.IsInOrder vars usage message.topic topic ∧
            Option.Rel
              (resolver.IsInOrder vars (usage ++ resolver.uses (expressions message.topic)))
              message.payload payload) := by
  constructor
  · intro valuesClosed template usage closed low timesReturn
    obtain ⟨text, used, run⟩ := returns_resolve_iff_timesReturn.2 timesReturn
    have passed := run
    rw [resolve_eq_passes] at passed
    obtain ⟨evaluated, rfl, counts⟩ := exists_uses_eq valuesClosed closed low passed
    have identifiers : ((resolver.uses evaluated).requests.count (.bytes 16) : ℕ∞) =
        count vars .uuid template := by rw [count_bytes_uses, counts]
    have numbers : ((resolver.uses evaluated).requests.countP Request.isNumber : ℕ∞) =
        count vars .random template := by rw [countP_isNumber_uses, counts]
    refine ⟨text, resolver.uses evaluated, run, counts .now, identifiers, numbers, ?_⟩
    rw [length_requests_uses, Nat.cast_add, identifiers, numbers]
  · intro valuesFree
    exact ⟨fun template usage => outcome_resolve_eq_ok valuesFree,
      fun message usage => outcome_resolveMessage_eq_ok valuesFree⟩

/-- The clock moves on by a second with each reading. An identifier in a value within a value
is evaluated once: it shows the first two draws, and one request is made. The payload of a
message shows the reading after the one that its topic shows, and no third reading is taken. -/
theorem resolve_evaluates_once_movingClock :
    let resolver : Resolver :=
      ⟨⟨.ofTable ⟨1718447445, 0⟩ 1 {}, .ofDraws [3, 5]⟩, { maxPasses := 3 }⟩
    let template := "{a}/{now:unix}/{c:x}".toList
    let siteNames : Variables := .ofList [("site".toList, "north".toList)]
    let topic := "{site}/{now:unix}".toList
    let payload := "{random:1-6} {now:unix}".toList
    let unused : Usage := {}
    (nestedNames.AreBraceClosed ∧ IsBraceClosed template ∧
      height nestedNames template ≤ resolver.settings.passes ∧
      resolver.TimesReturn nestedNames template unused ∧
      ∃ text more,
        (resolver.resolve nestedNames template).outcome unused = (.ok text, unused ++ more) ∧
          (more.readings : ℕ∞) = count nestedNames .now template ∧
          (more.requests.count (.bytes 16) : ℕ∞) = count nestedNames .uuid template ∧
          (more.requests.countP Request.isNumber : ℕ∞) = count nestedNames .random template ∧
          (more.requests.length : ℕ∞) =
            count nestedNames .uuid template + count nestedNames .random template) ∧
      (resolver.resolve nestedNames template).outcome unused =
        (.ok "<03000000-0000-4000-8500-000000000000>/1718447445/{c:x}".toList,
          { readings := 1, requests := [.bytes 16] }) ∧
      siteNames.AreBraceFree ∧ IsBraceClosed topic ∧ IsBraceClosed payload ∧
      resolver.TimesReturn siteNames topic unused ∧
      resolver.TimesReturn siteNames payload (unused ++ resolver.uses (expressions topic)) ∧
      (∃ text, (resolver.resolve siteNames topic).outcome unused =
          (.ok text, unused ++ resolver.uses (expressions topic)) ∧
        resolver.IsInOrder siteNames unused topic text) ∧
      (∃ topicText payloadText,
        (resolver.resolveMessage siteNames { topic, payload := some payload }).outcome unused =
          (.ok { topic := topicText, payload := payloadText },
            unused ++ resolver.uses (expressions topic ++ expressions payload)) ∧
          resolver.IsInOrder siteNames unused topic topicText ∧
          Option.Rel
            (resolver.IsInOrder siteNames (unused ++ resolver.uses (expressions topic)))
            (some payload) payloadText) ∧
      (resolver.resolveMessage siteNames { topic, payload := some payload }).outcome unused =
        (.ok { topic := "north/1718447445".toList, payload := some "4 1718447446".toList },
          { readings := 2, requests := [.number ⟨1, 6⟩] }) := by
  intro resolver template siteNames topic payload unused
  have valuesClosed : nestedNames.AreBraceClosed :=
    Variables.areBraceClosed_of_forall_bindings (by decide)
  have closed : IsBraceClosed template := by decide
  have low : height nestedNames template ≤ resolver.settings.passes := height_nestedNames_le
  have timesReturn : resolver.TimesReturn nestedNames template unused :=
    returns_resolve_iff_timesReturn.1 (by decide +kernel)
  have valuesFree : siteNames.AreBraceFree :=
    Variables.areBraceFree_of_forall_bindings (by decide)
  have topicClosed : IsBraceClosed topic := by decide
  have payloadClosed : IsBraceClosed payload := by decide
  have topicReturns : resolver.TimesReturn siteNames topic unused :=
    returns_resolve_iff_timesReturn.1 (by decide +kernel)
  have payloadReturns : resolver.TimesReturn siteNames payload
      (unused ++ resolver.uses (expressions topic)) :=
    returns_resolve_iff_timesReturn.1 (by decide +kernel)
  have ordered := (resolve_evaluates_once resolver siteNames).2 valuesFree
  refine ⟨⟨valuesClosed, closed, low, timesReturn, ?_⟩, by decide +kernel, valuesFree, topicClosed,
    payloadClosed, topicReturns, payloadReturns,
    ordered.1 topic unused topicClosed topicReturns, ?_, by decide +kernel⟩
  · exact (resolve_evaluates_once resolver nestedNames).1 valuesClosed template unused closed low
      timesReturn
  · have result := ordered.2 { topic, payload := some payload } unused topicClosed
      (by rintro _ ⟨⟩; exact payloadClosed) topicReturns (by rintro _ ⟨⟩; exact payloadReturns)
    rwa [Option.toList_some, List.flatMap_singleton] at result

end Resolver
end Stencil
