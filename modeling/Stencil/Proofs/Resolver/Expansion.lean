import Mathlib
import Stencil.Proofs.Resolver.Steady

/-!
# The expansion of a template

`Expands` gives a template its meaning by recursion into the values of variables,
without passes and without a limit. `height` counts how deep that recursion goes;
it is infinite where a reference leads back to itself. Main statement:
`resolve_eq_iff_expands`: on brace-closed templates of a height that the settings
admit, resolving gives the expansion.
-/

namespace Stencil

namespace Template

/-- One more level of a height: the greatest of what the expressions of a template
contribute. A reference contributes one more than the value that it refers to. -/
noncomputable def heightStep (vars : Variables) : (Text → ℕ∞) →o (Text → ℕ∞) where
  toFun height template := ⨆ expression ∈ expressions template,
    match expression.meaning vars with
    | .computed _ => 1
    | .reference value => 1 + height value
    | .verbatim => 0
  monotone' := by
    intro lower upper le template
    apply iSup₂_mono
    intro expression _
    split
    · exact le_rfl
    · next value _ => exact add_le_add_right (le value) 1
    · exact le_rfl

/-- How many passes a template takes until nothing is left to replace: the least
solution of the recursion that `heightStep` describes. -/
noncomputable def height (vars : Variables) : Text → ℕ∞ :=
  (heightStep vars).lfp

/-- The height of a template comes from the heights of the values in it. -/
theorem height_eq (vars : Variables) (template : Text) :
    height vars template = ⨆ expression ∈ expressions template,
      match expression.meaning vars with
      | .computed _ => 1
      | .reference value => 1 + height vars value
      | .verbatim => 0 :=
  (congrFun (heightStep vars).map_lfp template).symm

/-- A bound on the height of a template bounds what each expression contributes. -/
theorem height_le_iff {vars : Variables} {template : Text} {bound : ℕ∞} :
    height vars template ≤ bound ↔ ∀ expression ∈ expressions template,
      (match expression.meaning vars with
      | .computed _ => 1
      | .reference value => 1 + height vars value
      | .verbatim => 0) ≤ bound := by
  rw [height_eq, iSup₂_le_iff]

end Template

open Template

/-- The expansion of a sequence of pieces. Characters stay, a builtin gives its
value, a reference the expansion of the value that it refers to, and any other
expression stays as it is. A fault of one part is a fault of the whole. -/
inductive Expands (resolver : Resolver) (vars : Variables) :
    List Piece → Except Fault Text → Prop
  | nil : Expands resolver vars [] (.ok [])
  | char {c rest others} (after : Expands resolver vars rest others) :
      Expands resolver vars (.char c :: rest) (Fault.concat (.ok [c]) others)
  | computed {expression builtin rest others}
      (computes : expression.meaning vars = .computed builtin)
      (after : Expands resolver vars rest others) :
      Expands resolver vars (.expression expression :: rest)
        (Fault.concat (resolver.compute builtin expression).result others)
  | reference {expression value rest inner others}
      (refers : expression.meaning vars = .reference value)
      (within : Expands resolver vars (pieces value) inner)
      (after : Expands resolver vars rest others) :
      Expands resolver vars (.expression expression :: rest) (Fault.concat inner others)
  | verbatim {expression rest others}
      (stays : expression.meaning vars = .verbatim)
      (after : Expands resolver vars rest others) :
      Expands resolver vars (.expression expression :: rest)
        (Fault.concat (.ok expression.text) others)

variable {resolver : Resolver} {vars : Variables}

/-- Pieces have one expansion at most. -/
theorem Expands.unique {found : List Piece} {first second : Except Fault Text}
    (firstExpands : Expands resolver vars found first)
    (secondExpands : Expands resolver vars found second) : first = second := by
  induction firstExpands generalizing second with
  | nil =>
    cases secondExpands
    rfl
  | char _ ih =>
    cases secondExpands with
    | char after => rw [ih after]
  | computed computes _ ih =>
    cases secondExpands with
    | computed alsoComputes after =>
      cases computes.symm.trans alsoComputes
      rw [ih after]
    | reference refers => cases computes.symm.trans refers
    | verbatim stays => cases computes.symm.trans stays
  | reference refers _ _ innerIh ih =>
    cases secondExpands with
    | computed computes => cases refers.symm.trans computes
    | reference alsoRefers within after =>
      cases refers.symm.trans alsoRefers
      rw [innerIh within, ih after]
    | verbatim stays => cases refers.symm.trans stays
  | verbatim stays _ ih =>
    cases secondExpands with
    | computed computes => cases stays.symm.trans computes
    | reference refers => cases stays.symm.trans refers
    | verbatim _ after => rw [ih after]

/-- The expressions that an expression leads to: itself, and those that the
expressions of the value that it refers to lead to. -/
inductive Reaches (vars : Variables) : Expression → Expression → Prop
  | self {expression} : Reaches vars expression expression
  | within {expression value inner reached}
      (refers : expression.meaning vars = .reference value)
      (member : inner ∈ expressions value) (onward : Reaches vars inner reached) :
      Reaches vars expression reached

/-- An expansion is a text if no builtin that it leads to gives a fault. -/
theorem Expands.exists_text {found : List Piece} {expansion : Except Fault Text}
    (expands : Expands resolver vars found expansion)
    (noFault : ∀ expression, .expression expression ∈ found → ∀ reached builtin,
      Reaches vars expression reached → reached.meaning vars = .computed builtin →
        ∃ text, (resolver.compute builtin reached).result = .ok text) :
    ∃ text, expansion = .ok text := by
  induction expands with
  | nil => exact ⟨[], rfl⟩
  | char _ ih =>
    obtain ⟨others, rfl⟩ := ih fun expression member =>
      noFault expression (List.mem_cons_of_mem _ member)
    exact ⟨_, rfl⟩
  | computed computes _ ih =>
    obtain ⟨others, rfl⟩ := ih fun expression member =>
      noFault expression (List.mem_cons_of_mem _ member)
    obtain ⟨value, known⟩ := noFault _ (List.mem_cons_self ..) _ _ .self computes
    exact ⟨value ++ others, by rw [known, Fault.concat_ok]⟩
  | reference refers _ _ innerIh ih =>
    obtain ⟨others, rfl⟩ := ih fun expression member =>
      noFault expression (List.mem_cons_of_mem _ member)
    obtain ⟨inner, rfl⟩ := innerIh fun expression member reached builtin onward =>
      noFault _ (List.mem_cons_self ..) reached builtin
        (.within refers (mem_expressions_iff.2 member) onward)
    exact ⟨_, rfl⟩
  | verbatim _ _ ih =>
    obtain ⟨others, rfl⟩ := ih fun expression member =>
      noFault expression (List.mem_cons_of_mem _ member)
    exact ⟨_, rfl⟩

namespace Resolver

/-- Repeated passes expand closed pieces if they expand every expression of them. -/
theorem expands_iterate_of_forall (steady : resolver.sources.IsSteady)
    (valuesClosed : vars.AreBraceClosed) (count : Nat) {found : List Piece}
    (closed : AreClosed found)
    (each : ∀ expression, .expression expression ∈ found → expression.IsWellFormed →
      ∀ rest others, Expands resolver vars rest others →
        Expands resolver vars (.expression expression :: rest)
          (Fault.concat (resolver.iterate vars count expression.text) others)) :
    Expands resolver vars found (resolver.iterate vars count (found.flatMap Piece.text)) := by
  induction found with
  | nil =>
    rw [List.flatMap_nil, iterate_of_isBraceFree Text.isBraceFree_nil]
    exact .nil
  | cons piece rest ih =>
    obtain ⟨pieceClosed, restClosed⟩ := List.forall_mem_cons.1 closed
    have others := ih restClosed fun expression member =>
      each expression (List.mem_cons_of_mem _ member)
    have firstClosed := closed.isBraceClosed_text (List.mem_cons_self ..)
    have othersClosed : IsBraceClosed (rest.flatMap Piece.text) :=
      AreClosed.isBraceClosed restClosed
    rw [List.flatMap_cons, iterate_append steady valuesClosed count firstClosed othersClosed]
    cases piece with
    | char c =>
      have free : Text.IsBraceFree [c] := by simpa [Piece.isStray] using pieceClosed.1
      rw [Piece.text, iterate_of_isBraceFree free]
      exact .char others
    | expression expression =>
      exact each expression (List.mem_cons_self ..) (pieceClosed.2 expression rfl) _ _ others

/-- As many passes as a template is high expand it. The induction is on the number
of passes: the first pass replaces a reference by its value, which is lower. -/
theorem expands_iterate (steady : resolver.sources.IsSteady)
    (valuesClosed : vars.AreBraceClosed) (count : Nat) {template : Text}
    (closed : IsBraceClosed template) (low : height vars template ≤ count) :
    Expands resolver vars (pieces template) (resolver.iterate vars count template) := by
  induction count generalizing template with
  | zero =>
    have expands := expands_iterate_of_forall steady valuesClosed 0 closed.areClosed ?_
    · rwa [text_pieces] at expands
    · intro expression member _ rest others after
      -- Nothing has any height, so every expression stands for itself.
      have contribution := height_le_iff.1 low expression (mem_expressions_iff.2 member)
      cases stands : expression.meaning vars with
      | computed => simp [stands] at contribution
      | reference => simp [stands] at contribution
      | verbatim => exact .verbatim stands after
  | succ count ih =>
    have expands := expands_iterate_of_forall steady valuesClosed (count + 1) closed.areClosed ?_
    · rwa [text_pieces] at expands
    · intro expression member wellFormed rest others after
      cases stands : expression.meaning vars with
      | computed builtin =>
        rw [iterate_text_of_computed wellFormed stands]
        exact .computed stands after
      | reference value =>
        have contribution := height_le_iff.1 low expression (mem_expressions_iff.2 member)
        have lower : 1 + height vars value ≤ 1 + (count : ℕ∞) := by
          rwa [stands, Nat.cast_add, Nat.cast_one, add_comm (count : ℕ∞)] at contribution
        have valueClosed := valuesClosed _ value (Expression.get?_of_meaning_eq_reference stands)
        rw [iterate_text_of_reference wellFormed stands]
        exact .reference stands
          (ih valueClosed ((ENat.add_le_add_iff_left ENat.one_ne_top).1 lower)) after
      | verbatim =>
        rw [iterate_text_of_verbatim wellFormed stands]
        exact .verbatim stands after

/-- With sources that answer alike always, resolving a brace-closed template gives
its expansion, provided that the values of the variables are brace-closed and the
template is no higher than there are passes. The expansion is a text unless a
builtin that the template leads to gives a fault. -/
theorem resolve_eq_iff_expands {resolver : Resolver} {vars : Variables} {template : Text}
    (steady : resolver.sources.IsSteady) (valuesClosed : vars.AreBraceClosed)
    (closed : IsBraceClosed template)
    (low : height vars template ≤ resolver.settings.passes) :
    (∀ usage expansion, ((resolver.resolve vars template).outcome usage).1 = expansion ↔
      Expands resolver vars (pieces template) expansion) ∧
    ((∀ expression ∈ expressions template, ∀ reached builtin,
        Reaches vars expression reached → reached.meaning vars = .computed builtin →
          ∃ text, (resolver.compute builtin reached).result = .ok text) →
      ∃ text, Expands resolver vars (pieces template) (.ok text)) := by
  have expands := expands_iterate steady valuesClosed resolver.settings.passes closed low
  constructor
  · intro usage expansion
    rw [outcome_resolve steady template usage]
    constructor
    · rintro rfl
      exact expands
    · exact expands.unique
  · intro noFault
    obtain ⟨text, known⟩ := expands.exists_text fun expression member =>
      noFault expression (mem_expressions_iff.2 member)
    exact ⟨text, known ▸ expands⟩

/-- A name whose value holds a further name, whose value a builtin computes. -/
def nestedNames : Variables :=
  .ofList [("a".toList, "<{b}>".toList), ("b".toList, "{uuid}".toList)]

/-- A builtin within a value within a value is at height three. -/
theorem height_nestedNames_le : height nestedNames "{a}/{now:unix}/{c:x}".toList ≤ 3 := by
  have computed : height nestedNames "{uuid}".toList ≤ 1 := by
    rw [height_le_iff]
    decide
  have once : height nestedNames "<{b}>".toList ≤ 1 + 1 := by
    have single : expressions "<{b}>".toList = [⟨"b".toList, []⟩] := by decide
    rw [height_le_iff, single, List.forall_mem_singleton]
    exact add_le_add_right computed 1
  have parts : expressions "{a}/{now:unix}/{c:x}".toList =
      [⟨"a".toList, []⟩, ⟨"now".toList, ["unix".toList]⟩, ⟨"c".toList, ["x".toList]⟩] := by decide
  rw [height_le_iff, parts, List.forall_mem_cons]
  constructor
  · exact add_le_add_right once 1
  · decide

/-- Three passes expand a value within a value. -/
theorem resolve_nestedNames_eq_iff_expands :
    let resolver : Resolver := ⟨.still ⟨1718447445, 0⟩ {} 7, { maxPasses := 3 }⟩
    let template := "{a}/{now:unix}/{c:x}".toList
    resolver.sources.IsSteady ∧ nestedNames.AreBraceClosed ∧ IsBraceClosed template ∧
      height nestedNames template ≤ resolver.settings.passes ∧
      ∀ usage expansion, ((resolver.resolve nestedNames template).outcome usage).1 = expansion ↔
        Expands resolver nestedNames (pieces template) expansion := by
  intro resolver template
  have steady : resolver.sources.IsSteady := Sources.isSteady_still ⟨1718447445, 0⟩ {} 7
  have valuesClosed : nestedNames.AreBraceClosed :=
    Variables.areBraceClosed_of_forall_bindings (by decide)
  have closed : IsBraceClosed template := by decide
  have low : height nestedNames template ≤ resolver.settings.passes := height_nestedNames_le
  exact ⟨steady, valuesClosed, closed, low,
    (resolve_eq_iff_expands steady valuesClosed closed low).1⟩

end Resolver
end Stencil
