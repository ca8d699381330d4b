import Stencil.Proofs.Resolver.Settled

/-!
# The surroundings of an expression

A pass cuts a text at each of its expressions, whatever stands on either side: what comes
before is treated as if it stood alone, then the expression is replaced, then what comes behind
is treated as if it stood alone. Characters that belong to no expression stay. Main statement:
`resolve_around`.
-/

namespace Stencil

open Template

/-- The text between braces. -/
def Text.braced (text : Text) : Text :=
  '{' :: text ++ ['}']

/-- The text of an expression whose tokens are formed by segments holds the segments. -/
theorem Expression.text_gather (name : Text) (segments : List Text) :
    (⟨name, gather segments⟩ : Expression).text =
      (name ++ Text.prefixed ':' segments).braced := by
  rw [text, body, prefixed_gather]
  rfl

/-- The text of an expression without tokens holds its name. -/
theorem Expression.text_plain (name : Text) : (⟨name, []⟩ : Expression).text = name.braced :=
  (text_gather name []).trans (congrArg Text.braced (List.append_nil name))

namespace Resolver

variable (resolver : Resolver) (vars : Variables)

/-- What takes the place of an expression: the value of the builtin that it names; else the
value of the variable, if the expression has no modifiers and the variable is defined; else the
expression as it is written. -/
def replacement (expression : Expression) : Eval Text :=
  match Builtin.ofName? expression.name, expression.modifiers, vars.get? expression.name with
  | some builtin, _, _ =>
    builtin.value resolver.sources resolver.settings.defaultRange expression.classified
  | none, [], some value => return value
  | none, _, _ => return expression.text

/-- The resolver puts the replacement in the place of an expression. -/
theorem replace_eq_replacement (expression : Expression) :
    resolver.replace vars expression = resolver.replacement vars expression := by
  rw [replace_eq, Expression.meaning, replacement, Builtin.ofName?_eq_named?]
  cases expression.name.named? Builtin.words with
  | some builtin => rfl
  | none =>
    cases modifiers : expression.modifiers with
    | nil => cases vars.get? expression.name <;> simp [Expression.hasModifiers, modifiers]
    | cons token rest => simp [Expression.hasModifiers, modifiers]

/-- A pass over a text with an expression in it treats what comes before, the expression and
what comes behind, one after the other. -/
theorem pass_around {expression : Expression} (wellFormed : expression.IsWellFormed)
    (before after : Text) :
    resolver.pass vars (before ++ expression.text ++ after) = do
      let first ← resolver.pass vars before
      let value ← resolver.replacement vars expression
      let last ← resolver.pass vars after
      return first ++ value ++ last := by
  rw [List.append_assoc, pass_eq, pieces_around wellFormed, passPieces_append, passPieces_cons]
  simp [replacePiece, replace_eq_replacement, pass_eq]

/-- Pieces are expressions with characters in front of them and characters behind the last one,
and a pass over them replaces the expressions and keeps these characters. -/
theorem exists_gaps (found : List Piece) : ∃ (parts : List (Text × Expression)) (rest : Text),
    found.flatMap Piece.text = parts.flatMap (fun part => part.1 ++ part.2.text) ++ rest ∧
    parts.map Prod.snd = found.filterMap Piece.expression? ∧
    resolver.passPieces vars found = do
      let values ← parts.mapM fun part => (part.1 ++ ·) <$> resolver.replacement vars part.2
      return values.flatten ++ rest := by
  induction found with
  | nil => exact ⟨[], [], rfl, rfl, by simp [passPieces_nil]⟩
  | cons piece found ih =>
    obtain ⟨parts, rest, parted, inOrder, passed⟩ := ih
    rw [passPieces_cons, passed]
    cases piece with
    | expression expression =>
      refine ⟨([], expression) :: parts, rest, ?_, ?_, ?_⟩
      · simp [parted, Piece.text]
      · simp [inOrder, Piece.expression?]
      · simp [replacePiece, replace_eq_replacement, List.mapM_cons]
    | char c =>
      cases parts with
      | nil =>
        refine ⟨[], c :: rest, ?_, ?_, ?_⟩
        · simpa [Piece.text] using parted
        · exact inOrder
        · simp [replacePiece]
      | cons part parts =>
        refine ⟨(c :: part.1, part.2) :: parts, rest, ?_, ?_, ?_⟩
        · simpa [Piece.text] using parted
        · exact inOrder
        · simp [replacePiece, List.mapM_cons]

/-- Where the settings admit one pass, a text with the text of an expression in it resolves to
what comes before resolves to, what takes the place of the expression, and what comes behind
resolves to, evaluated in this order; the texts around it may hold any braces. Each template
consists of its expressions and the characters in front of each and behind the last one, and
resolving it replaces the expressions from left to right and leaves these characters as they
are. -/
theorem resolve_around {resolver : Resolver} (once : resolver.settings.passes = 1)
    (vars : Variables) :
    (∀ (before after name : Text) (segments : List Text), Name.isValid name = true →
      (∀ segment ∈ segments, Expression.IsSegment segment) →
      resolver.resolve vars (before ++ (name ++ Text.prefixed ':' segments).braced ++ after) = do
        let first ← resolver.resolve vars before
        let value ← resolver.replacement vars ⟨name, Expression.gather segments⟩
        let last ← resolver.resolve vars after
        return first ++ value ++ last) ∧
    ∀ template : Text, ∃ (parts : List (Text × Expression)) (rest : Text),
      template = parts.flatMap (fun part => part.1 ++ part.2.text) ++ rest ∧
      parts.map Prod.snd = expressions template ∧
      resolver.resolve vars template = do
        let values ← parts.mapM fun part => (part.1 ++ ·) <$> resolver.replacement vars part.2
        return values.flatten ++ rest := by
  have isPass (template : Text) := resolver.resolve_of_passes_eq_one vars once template
  refine ⟨fun before after name segments valid areSegments => ?_, fun template => ?_⟩
  · have wellFormed := Expression.isWellFormed_gather valid areSegments
    simp only [isPass, ← Expression.text_gather]
    exact resolver.pass_around vars wellFormed before after
  · obtain ⟨parts, rest, parted, inOrder, passed⟩ := resolver.exists_gaps vars (pieces template)
    rw [text_pieces] at parted
    refine ⟨parts, rest, parted, inOrder, ?_⟩
    rw [isPass, pass_eq, passed]

/-- A time between braces that could enclose it, on a clock that moves on: the setting of no
passes admits one. -/
theorem resolve_around_openBraces :
    let resolver : Resolver := ⟨⟨.ofTable ⟨1718447445, 0⟩ 60 {}, .ofDraws []⟩, { maxPasses := 0 }⟩
    let vars := Variables.ofList [("a".toList, "\x7bb\x7d".toList)]
    let before : Text := "\x7ba\x7d\x7bnow:unix\x7d\x7ba:".toList
    let after : Text := "\x7d\x7bnow:unix\x7d\x7d".toList
    let name : Text := "now".toList
    let segments : List Text := ["unix".toList]
    let template : Text := before ++ "\x7bnow:unix\x7d".toList ++ after
    resolver.settings.passes = 1 ∧ Name.isValid name = true ∧
      (∀ segment ∈ segments, Expression.IsSegment segment) ∧
      resolver.resolve vars template = (do
        let first ← resolver.resolve vars before
        let value ← resolver.replacement vars ⟨name, ["unix".toList]⟩
        let last ← resolver.resolve vars after
        return first ++ value ++ last) ∧
      ((resolver.resolve vars template).outcome {}).1.toOption =
        some "\x7bb\x7d1718447445\x7ba:1718447505\x7d1718447565\x7d".toList := by
  intro resolver vars before after name segments template
  have once : resolver.settings.passes = 1 := rfl
  have valid : Name.isValid name = true := rfl
  have areSegments : ∀ segment ∈ segments, Expression.IsSegment segment := by decide
  obtain ⟨around, -⟩ := resolve_around once vars
  exact ⟨once, valid, areSegments, around before after name segments valid areSegments,
    by decide +kernel⟩

end Resolver
end Stencil
