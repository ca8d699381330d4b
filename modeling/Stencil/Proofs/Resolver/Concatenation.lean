import Stencil.Proofs.Resolver.Returns
import Stencil.Proofs.Resolver.Steady

/-!
# Resolving texts that are joined

With sources that answer alike always, and values that are brace-closed, a brace-closed
text resolves piece by piece: each character stays where it is, and each expression
resolves as if it stood alone (`iterate_flatMap_text`). The pieces may settle after
different numbers of passes, or not at all. Main statement: `resolve_append`.
-/

namespace Stencil.Resolver

open Template

variable {resolver : Resolver} {vars : Variables}

/-- What so many passes make of a piece that stands alone. -/
def iteratePiece (resolver : Resolver) (vars : Variables) (count : Nat) :
    Piece → Except Fault Text
  | .char c => .ok [c]
  | .expression expression => resolver.iterate vars count expression.text

/-- Repeated passes treat closed pieces apart from each other. -/
theorem iterate_flatMap_text (steady : resolver.sources.IsSteady)
    (valuesClosed : vars.AreBraceClosed) (count : Nat) {found : List Piece}
    (closed : AreClosed found) :
    resolver.iterate vars count (found.flatMap Piece.text) =
      Fault.concatAll (found.map (resolver.iteratePiece vars count)) := by
  induction found with
  | nil => exact iterate_of_isBraceFree Text.isBraceFree_nil count
  | cons piece rest ih =>
    obtain ⟨pieceClosed, restClosed⟩ := List.forall_mem_cons.1 closed
    have firstClosed := closed.isBraceClosed_text (List.mem_cons_self ..)
    have alone : resolver.iterate vars count piece.text =
        resolver.iteratePiece vars count piece := by
      cases piece with
      | char c =>
        have free : Text.IsBraceFree [c] := by simpa [Piece.isStray] using pieceClosed.1
        exact iterate_of_isBraceFree free count
      | expression expression => rfl
    have othersClosed := AreClosed.isBraceClosed restClosed
    rw [List.flatMap_cons, iterate_append steady valuesClosed count firstClosed othersClosed,
      alone, ih restClosed]
    rfl

/-- With sources that answer alike always, and values that are brace-closed, resolving
takes two brace-closed texts that are joined to what it takes each of them to. No time
of the whole is stopped unless one of a part is. So many passes leave each character
outside of expressions in its place, and take each expression to what they take it to
when it stands alone. -/
theorem resolve_append {first second : Text} (steady : resolver.sources.IsSteady)
    (valuesClosed : vars.AreBraceClosed) (firstClosed : IsBraceClosed first)
    (secondClosed : IsBraceClosed second) :
    (∀ usage usedForFirst usedForSecond,
      ((resolver.resolve vars (first ++ second)).outcome usage).1 =
        Fault.concat ((resolver.resolve vars first).outcome usedForFirst).1
          ((resolver.resolve vars second).outcome usedForSecond).1) ∧
    (∀ usage, resolver.TimesReturn vars (first ++ second) usage ↔
      resolver.TimesReturn vars first usage ∧ resolver.TimesReturn vars second usage) ∧
    (∀ usage, resolver.TimesReturn vars (first ++ second) usage →
      ∃ before after, ((resolver.resolve vars first).outcome usage).1 = .ok before ∧
        ((resolver.resolve vars second).outcome usage).1 = .ok after ∧
        ((resolver.resolve vars (first ++ second)).outcome usage).1 = .ok (before ++ after)) ∧
    ∀ limit usage, ((resolver.passes vars limit first).outcome usage).1 =
      Fault.concatAll ((pieces first).map fun
        | .char c => .ok [c]
        | .expression expression =>
          ((resolver.passes vars limit expression.text).outcome usage).1) := by
  have joined (usage usedForFirst usedForSecond : Usage) :
      ((resolver.resolve vars (first ++ second)).outcome usage).1 =
        Fault.concat ((resolver.resolve vars first).outcome usedForFirst).1
          ((resolver.resolve vars second).outcome usedForSecond).1 := by
    simp only [outcome_resolve steady]
    exact iterate_append steady valuesClosed _ firstClosed secondClosed
  refine ⟨joined, fun usage => ?_, fun usage timesReturn => ?_, fun limit usage => ?_⟩
  · simp only [← returns_resolve_iff_timesReturn, Eval.returns_iff, joined usage usage usage,
      Fault.concat_eq_ok_iff]
    constructor
    · rintro ⟨text, before, after, firstText, secondText, -⟩
      exact ⟨⟨before, firstText⟩, after, secondText⟩
    · rintro ⟨⟨before, firstText⟩, after, secondText⟩
      exact ⟨before ++ after, before, after, firstText, secondText, rfl⟩
  · obtain ⟨text, returned⟩ :=
      Eval.returns_iff.1 (returns_resolve_iff_timesReturn.2 timesReturn)
    obtain ⟨before, after, firstText, secondText, rfl⟩ :=
      Fault.concat_eq_ok_iff.1 ((joined usage usage usage).symm.trans returned)
    exact ⟨before, after, firstText, secondText, returned⟩
  · have apart := iterate_flatMap_text steady valuesClosed limit firstClosed.areClosed
    rw [text_pieces] at apart
    rw [outcome_passes steady, apart]
    refine congrArg Fault.concatAll (List.map_congr_left fun piece _ => ?_)
    cases piece with
    | char c => rfl
    | expression expression => exact (outcome_passes steady limit expression.text usage).symm

/-- A reference that grows with every pass, joined to two that lead to each other. -/
theorem resolve_append_growing :
    let resolver : Resolver := ⟨.still ⟨1718447445, 0⟩ {} 7, { maxPasses := 3 }⟩
    let vars := Variables.ofList
      [("a".toList, "x{a}".toList), ("b".toList, "{c}".toList), ("c".toList, "#{b}".toList)]
    let first := "+/{a}/".toList
    let second := "{b}{a:x}+{now:unix}#".toList
    resolver.sources.IsSteady ∧ vars.AreBraceClosed ∧ IsBraceClosed first ∧
      IsBraceClosed second ∧ resolver.TimesReturn vars (first ++ second) {} ∧
      (∃ before after, ((resolver.resolve vars first).outcome {}).1 = .ok before ∧
        ((resolver.resolve vars second).outcome {}).1 = .ok after ∧
        ((resolver.resolve vars (first ++ second)).outcome {}).1 = .ok (before ++ after)) ∧
      ∀ usage usedForFirst usedForSecond,
        ((resolver.resolve vars (first ++ second)).outcome usage).1 =
          Fault.concat ((resolver.resolve vars first).outcome usedForFirst).1
            ((resolver.resolve vars second).outcome usedForSecond).1 := by
  intro resolver vars first second
  have steady : resolver.sources.IsSteady := Sources.isSteady_still ⟨1718447445, 0⟩ {} 7
  have valuesClosed : vars.AreBraceClosed :=
    Variables.areBraceClosed_of_forall_bindings (by decide)
  have firstClosed : IsBraceClosed first := by decide
  have secondClosed : IsBraceClosed second := by decide
  have timesReturn : resolver.TimesReturn vars (first ++ second) {} :=
    returns_resolve_iff_timesReturn.1 (by decide +kernel)
  have joined := resolve_append steady valuesClosed firstClosed secondClosed
  exact ⟨steady, valuesClosed, firstClosed, secondClosed, timesReturn,
    joined.2.2.1 {} timesReturn, joined.1⟩

end Stencil.Resolver
