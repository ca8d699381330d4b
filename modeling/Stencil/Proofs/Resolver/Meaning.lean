import Stencil.Resolver
import Stencil.Proofs.Builtin.Braces
import Stencil.Proofs.Builtin.Words
import Stencil.Proofs.Template.BraceClosed

/-!
# What an expression stands for

With given variables an expression is computed by a builtin, refers to the value
of a variable, or stands for itself. `replace_eq` says what the resolver makes of
each, and `pass_append` that a pass treats the parts of a text one after the
other wherever the text is cut between its pieces.
-/

namespace Stencil

/-- What an expression stands for. -/
inductive Meaning
  /-- The value that a builtin computes. -/
  | computed (builtin : Builtin)
  /-- The value of a variable. -/
  | reference (value : Text)
  /-- The expression itself, as it is written. -/
  | verbatim

/-- What the expression stands for with the variables. The words for builtins come first,
in any ASCII case, and modifiers apply to nothing else. -/
def Expression.meaning (vars : Variables) (expression : Expression) : Meaning :=
  match expression.name.named? Builtin.words with
  | some builtin => .computed builtin
  | none =>
    if expression.hasModifiers then .verbatim
    else
      match vars.get? expression.name with
      | some value => .reference value
      | none => .verbatim

/-- An expression is computed by a builtin exactly if it names the builtin. -/
theorem Expression.meaning_eq_computed_iff {vars : Variables} {expression : Expression}
    {builtin : Builtin} :
    expression.meaning vars = .computed builtin ↔
      Builtin.ofName? expression.name = some builtin := by
  rw [Builtin.ofName?_eq_named?]
  unfold meaning
  constructor
  · intro computes
    split at computes
    · next named =>
      cases computes
      exact named
    · split at computes
      · cases computes
      · split at computes <;> cases computes
  · intro named
    rw [named]

/-- All values of the variables are brace-closed. -/
def Variables.AreBraceClosed (vars : Variables) : Prop :=
  ∀ name value, vars.get? name = some value → Template.IsBraceClosed value

/-- No value of the variables holds a brace. -/
def Variables.AreBraceFree (vars : Variables) : Prop :=
  ∀ name value, vars.get? name = some value → Text.IsBraceFree value

/-- A name is looked up among the bindings. -/
theorem Variables.mem_bindings_of_get? {vars : Variables} {name value : Text}
    (found : vars.get? name = some value) : (name, value) ∈ vars.bindings := by
  obtain ⟨before, after, parts, -⟩ := List.lookup_eq_some_iff.1 found
  simp [parts]

/-- Values are brace-closed if those of all bindings are, hidden ones included. -/
theorem Variables.areBraceClosed_of_forall_bindings {vars : Variables}
    (closed : ∀ binding ∈ vars.bindings, Template.IsBraceClosed binding.2) :
    vars.AreBraceClosed :=
  fun _ _ found => closed _ (mem_bindings_of_get? found)

/-- No value holds a brace if none of any binding does, hidden ones included. -/
theorem Variables.areBraceFree_of_forall_bindings {vars : Variables}
    (free : ∀ binding ∈ vars.bindings, Text.IsBraceFree binding.2) : vars.AreBraceFree :=
  fun _ _ found => free _ (mem_bindings_of_get? found)

/-- Values without braces are brace-closed. -/
theorem Variables.AreBraceFree.areBraceClosed {vars : Variables} (free : vars.AreBraceFree) :
    vars.AreBraceClosed :=
  fun name value found => Template.isBraceClosed_of_isBraceFree (free name value found)

/-- An expression refers to a value exactly if it has no modifiers, names no builtin, and its
name has the value. -/
theorem Expression.meaning_eq_reference_iff {vars : Variables} {expression : Expression}
    {value : Text} :
    expression.meaning vars = .reference value ↔
      Builtin.isReserved expression.name = false ∧ expression.modifiers = [] ∧
        vars.get? expression.name = some value := by
  rw [meaning, Builtin.isReserved, Builtin.ofName?_eq_named?]
  cases expression.name.named? Builtin.words with
  | some builtin => simp
  | none =>
    cases modifiers : expression.modifiers with
    | nil => cases vars.get? expression.name <;> simp [hasModifiers, modifiers]
    | cons token rest => simp [hasModifiers, modifiers]

/-- What an expression refers to is the value of a variable. -/
theorem Expression.get?_of_meaning_eq_reference {vars : Variables} {expression : Expression}
    {value : Text} (refers : expression.meaning vars = .reference value) :
    vars.get? expression.name = some value :=
  (meaning_eq_reference_iff.1 refers).2.2

/-- An expression stands for the same with two maps unless it is a reference and they differ
at its name. -/
theorem Expression.meaning_congr {first second : Variables} {expression : Expression}
    (same : Builtin.isReserved expression.name = false → expression.modifiers = [] →
      first.get? expression.name = second.get? expression.name) :
    expression.meaning first = expression.meaning second := by
  unfold meaning
  cases named : expression.name.named? Builtin.words with
  | some builtin => rfl
  | none =>
    have free : Builtin.isReserved expression.name = false := by
      rw [Builtin.isReserved, Builtin.ofName?_eq_named?, named]
      rfl
    cases modifiers : expression.modifiers with
    | nil => rw [same free modifiers]
    | cons token rest => simp [hasModifiers, modifiers]

/-- Each value that the template refers to is brace-closed. -/
def Template.RefersToClosed (vars : Variables) (template : Text) : Prop :=
  ∀ expression ∈ expressions template, ∀ value, expression.meaning vars = .reference value →
    IsBraceClosed value

/-- If all values are brace-closed, so are those that a template refers to. -/
theorem Variables.AreBraceClosed.refersToClosed {vars : Variables} (closed : vars.AreBraceClosed)
    (template : Text) : Template.RefersToClosed vars template :=
  fun _ _ value refers => closed _ value (Expression.get?_of_meaning_eq_reference refers)

/-- Whether a text can take the place of an expression: only the value of a builtin is left
open, and it holds no brace. -/
def Expression.CanBecome (vars : Variables) (expression : Expression) (text : Text) : Prop :=
  match expression.meaning vars with
  | .computed _ => text.IsBraceFree
  | .reference value => text = value
  | .verbatim => text = expression.text

namespace Resolver

variable (resolver : Resolver) (vars : Variables)

/-- The value of a builtin with the modifiers of an expression. -/
def compute (builtin : Builtin) (expression : Expression) : Eval Text :=
  builtin.value resolver.sources resolver.settings.defaultRange expression.classified

/-- An expression is replaced by what it stands for. -/
theorem replace_eq (expression : Expression) :
    resolver.replace vars expression =
      match expression.meaning vars with
      | .computed builtin => resolver.compute builtin expression
      | .reference value => pure value
      | .verbatim => pure expression.text := by
  unfold replace builtin? Builtin.evaluate? Expression.meaning
  rw [Builtin.ofName?_eq_named?]
  cases expression.name.named? Builtin.words with
  | some builtin => simp [compute]
  | none =>
    simp only [pure_bind, lookup]
    split
    · rfl
    · cases vars.get? expression.name <;> rfl

/-- One pass over pieces, from left to right. -/
def passPieces (found : List Piece) : Eval Text :=
  List.flatten <$> found.mapM (resolver.replacePiece vars)

/-- A pass over a template is one over its pieces. -/
theorem pass_eq (template : Text) :
    resolver.pass vars template = resolver.passPieces vars (Template.pieces template) := rfl

/-- Nothing is made of no pieces. -/
theorem passPieces_nil : resolver.passPieces vars [] = pure [] := by
  simp [passPieces]

/-- A pass replaces the first piece and goes on with the others. -/
theorem passPieces_cons (piece : Piece) (rest : List Piece) :
    resolver.passPieces vars (piece :: rest) = do
      let first ← resolver.replacePiece vars piece
      let others ← resolver.passPieces vars rest
      return first ++ others := by
  simp [passPieces, List.mapM_cons]

/-- A pass treats one list of pieces after the other. -/
theorem passPieces_append (first second : List Piece) :
    resolver.passPieces vars (first ++ second) = do
      let before ← resolver.passPieces vars first
      let after ← resolver.passPieces vars second
      return before ++ after := by
  simp [passPieces, List.mapM_append]

/-- A pass over a brace-closed template and what comes behind it treats one after
the other. -/
theorem pass_append {first : Text} (closed : Template.IsBraceClosed first) (second : Text) :
    resolver.pass vars (first ++ second) = do
      let before ← resolver.pass vars first
      let after ← resolver.pass vars second
      return before ++ after := by
  rw [pass_eq, Template.pieces_append closed, passPieces_append]
  rfl

/-- A pass over the text of an expression replaces the expression. -/
theorem pass_text {expression : Expression} (wellFormed : expression.IsWellFormed) :
    resolver.pass vars expression.text = resolver.replace vars expression := by
  rw [pass_eq, Template.pieces_text wellFormed, passPieces_cons, passPieces_nil]
  simp [replacePiece]

/-- A pass is the same with variables for which every expression stands for the same. -/
theorem pass_congr {first second : Variables} {template : Text}
    (same : ∀ expression ∈ Template.expressions template,
      expression.meaning first = expression.meaning second) :
    resolver.pass first template = resolver.pass second template := by
  have samePieces : (Template.pieces template).mapM (resolver.replacePiece first) =
      (Template.pieces template).mapM (resolver.replacePiece second) := by
    refine Eval.mapM_congr fun piece member => ?_
    cases piece with
    | char c => rfl
    | expression expression =>
      have standsAlike := same expression (Template.mem_expressions_iff.2 member)
      simp only [replacePiece, replace_eq, standsAlike]
  rw [pass, pass, samePieces]

variable {resolver vars}

/-- Passes return a text exactly if the first one does, and either changes nothing or leads to
a text from which the others return it. -/
theorem outcome_passes_succ_eq_ok_iff {limit : Nat} {template text : Text} {usage used : Usage} :
    (resolver.passes vars (limit + 1) template).outcome usage = (.ok text, used) ↔
      ∃ next between, (resolver.pass vars template).outcome usage = (.ok next, between) ∧
        (next = template ∧ text = next ∧ used = between ∨ next ≠ template ∧
          (resolver.passes vars limit next).outcome between = (.ok text, used)) := by
  rw [passes, Eval.outcome_bind_eq_ok_iff]
  refine exists_congr fun next => exists_congr fun between => and_congr_right fun _ => ?_
  by_cases same : next = template
  · subst same
    simp [eq_comm]
  · simp [same]

/-- An expression is replaced by a text that can take its place. -/
theorem ensures_canBecome_replace {expression : Expression}
    (wellFormed : expression.IsWellFormed) :
    (resolver.replace vars expression).Ensures (expression.CanBecome vars) := by
  rw [replace_eq]
  unfold Expression.CanBecome
  cases expression.meaning vars with
  | computed builtin => exact builtin.ensures_isBraceFree _ _ wellFormed.isBraceFree_body
  | reference value => exact .pure rfl
  | verbatim => exact .pure rfl

/-- What replaces an expression is brace-closed if the value that it refers to is. -/
theorem ensures_isBraceClosed_replace {expression : Expression}
    (valueClosed : ∀ value, expression.meaning vars = .reference value →
      Template.IsBraceClosed value) (wellFormed : expression.IsWellFormed) :
    (resolver.replace vars expression).Ensures Template.IsBraceClosed := by
  refine (ensures_canBecome_replace wellFormed).mono fun text becomes => ?_
  unfold Expression.CanBecome at becomes
  split at becomes
  · exact Template.isBraceClosed_of_isBraceFree becomes
  · next value refers => exact becomes ▸ valueClosed value refers
  · exact becomes ▸ Template.isBraceClosed_text wellFormed

/-- A pass keeps a template brace-closed. -/
theorem ensures_isBraceClosed_pass {template : Text}
    (valuesClosed : Template.RefersToClosed vars template)
    (closed : Template.IsBraceClosed template) :
    (resolver.pass vars template).Ensures Template.IsBraceClosed := by
  refine Eval.Ensures.map (.mapM ?_) fun parts allClosed => Template.isBraceClosed_flatten allClosed
  intro piece member
  cases piece with
  | char c =>
    have notStray := closed _ member
    exact .pure (Template.isBraceClosed_of_isBraceFree (by
      simpa [Piece.isStray] using notStray))
  | expression expression =>
    apply ensures_isBraceClosed_replace
    · exact valuesClosed expression (Template.mem_expressions_iff.2 member)
    · exact Template.isWellFormed_of_mem_pieces member

end Resolver
end Stencil
