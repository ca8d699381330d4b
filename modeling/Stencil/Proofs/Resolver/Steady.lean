import Stencil.Proofs.Resolver.Settled

/-!
# Resolving from steady sources

When the clock stands still and the random source does not move on, a pass is a
function of the text. Then stopping early is invisible: resolving is the same as
repeating the pass (`result_passes`). On brace-closed templates repeated passes
treat the parts of a text apart from each other (`iterate_append`).
-/

namespace Stencil

/-- The first text and then the second, unless one of them is a fault. -/
def Fault.concat (first second : Except Fault Text) : Except Fault Text := do
  return (← first) ++ (← second)

namespace Fault

/-- Two texts are put together. -/
@[simp] theorem concat_ok (first second : Text) :
    concat (.ok first) (.ok second) = .ok (first ++ second) := rfl

/-- A fault of the second part makes a fault of the whole. -/
@[simp] theorem concat_error_right (first : Except Fault Text) (fault : Fault) :
    concat first (.error fault) = .error fault := by
  cases first with
  | error other => exact congrArg Except.error (Subsingleton.elim other fault)
  | ok => rfl

/-- Two texts make up a text exactly if neither of them is a fault. -/
theorem concat_eq_ok_iff {first second : Except Fault Text} {text : Text} :
    concat first second = .ok text ↔
      ∃ before after, first = .ok before ∧ second = .ok after ∧ text = before ++ after := by
  constructor
  · intro joined
    cases first with
    | error fault => cases joined
    | ok before =>
      cases second with
      | error fault => cases joined
      | ok after =>
        cases joined
        exact ⟨before, after, rfl, rfl, rfl⟩
  · rintro ⟨before, after, rfl, rfl, rfl⟩
    rfl

/-- All texts, one after the other, unless one of them is a fault. -/
def concatAll (parts : List (Except Fault Text)) : Except Fault Text :=
  parts.foldr concat (.ok [])

end Fault

variable {resolver : Resolver} {vars : Variables}

/-- With steady sources the value of a builtin does not depend on earlier uses. -/
theorem Builtin.isSteady_value {sources : Sources} (steady : sources.IsSteady) (builtin : Builtin)
    (default : Range) (modifiers : List Modifier) :
    (builtin.value sources default modifiers).IsSteady := by
  cases builtin with
  | now => exact steady.readClock.bind fun reading => .ofExcept _
  | uuid => exact (steady.drawBytes 16).bind fun bytes => .pure _
  | random => exact (steady.drawNumber _).bind fun number => .pure _

namespace Resolver

/-- With steady sources replacing an expression is steady. -/
theorem isSteady_replace (steady : resolver.sources.IsSteady) (expression : Expression) :
    (resolver.replace vars expression).IsSteady := by
  rw [replace_eq]
  split
  · next builtin _ => exact builtin.isSteady_value steady _ _
  · exact .pure _
  · exact .pure _

/-- With steady sources a pass over a template is steady. -/
theorem isSteady_pass (steady : resolver.sources.IsSteady) (template : Text) :
    (resolver.pass vars template).IsSteady := by
  refine Eval.IsSteady.map (.mapM fun piece => ?_) _
  cases piece with
  | char c => exact .pure _
  | expression expression => exact isSteady_replace steady expression

/-- With steady sources repeated passes are steady. -/
theorem isSteady_passes (steady : resolver.sources.IsSteady) (limit : Nat) (template : Text) :
    (resolver.passes vars limit template).IsSteady := by
  induction limit generalizing template with
  | zero => exact .pure _
  | succ limit ih =>
    apply (isSteady_pass steady template).bind
    intro next
    split
    · exact .pure _
    · exact ih next

/-- The result of so many passes, one on the result of the other, none left out. -/
def iterate (resolver : Resolver) (vars : Variables) : Nat → Text → Except Fault Text
  | 0, template => .ok template
  | count + 1, template => (resolver.pass vars template).result >>= iterate resolver vars count

/-- A text that a pass does not change is not changed by more passes. -/
theorem iterate_of_result_pass_eq {template : Text}
    (fixed : (resolver.pass vars template).result = .ok template) (count : Nat) :
    resolver.iterate vars count template = .ok template := by
  induction count with
  | zero => rfl
  | succ count ih =>
    rw [iterate, fixed]
    exact ih

/-- Stopping at the first pass that changes nothing gives the result of all passes. -/
theorem result_passes (steady : resolver.sources.IsSteady) (limit : Nat) (template : Text) :
    (resolver.passes vars limit template).result = resolver.iterate vars limit template := by
  induction limit generalizing template with
  | zero => rfl
  | succ limit ih =>
    have nextSteady (next : Text) : (if next = template then pure template
        else resolver.passes vars limit next : Eval Text).IsSteady := by
      split
      · exact .pure _
      · exact isSteady_passes steady limit next
    rw [passes, Eval.result_bind nextSteady, iterate]
    cases once : (resolver.pass vars template).result with
    | error fault => rfl
    | ok next =>
      by_cases same : next = template
      · subst same
        exact (congrArg Eval.result (if_pos rfl)).trans
          (iterate_of_result_pass_eq once limit).symm
      · exact (congrArg Eval.result (if_neg same)).trans (ih next)

/-- With steady sources so many passes are repetitions of the pass, whatever was used before. -/
theorem outcome_passes (steady : resolver.sources.IsSteady) (limit : Nat) (template : Text)
    (usage : Usage) :
    ((resolver.passes vars limit template).outcome usage).1 =
      resolver.iterate vars limit template := by
  rw [← result_passes steady]
  exact isSteady_passes steady limit template usage

/-- So resolving is repeating the pass. -/
theorem outcome_resolve (steady : resolver.sources.IsSteady) (template : Text) (usage : Usage) :
    ((resolver.resolve vars template).outcome usage).1 =
      resolver.iterate vars resolver.settings.passes template := by
  rw [resolve_eq_passes, outcome_passes steady]

/-- A pass over two texts, the first of them brace-closed, gives both results. -/
theorem result_pass_append (steady : resolver.sources.IsSteady) {first : Text}
    (closed : Template.IsBraceClosed first) (second : Text) :
    (resolver.pass vars (first ++ second)).result =
      Fault.concat (resolver.pass vars first).result (resolver.pass vars second).result := by
  have join (before : Text) : (resolver.pass vars second >>= fun after =>
      (pure (before ++ after) : Eval Text)).IsSteady :=
    (isSteady_pass steady second).bind fun after => .pure _
  rw [pass_append resolver vars closed, Eval.result_bind join]
  refine congrArg _ (funext fun before => ?_)
  exact Eval.result_bind fun after => .pure _

/-- Repeated passes over two brace-closed texts give the results of both. They may
settle after different numbers of passes; a fault in one is a fault of the whole. -/
theorem iterate_append (steady : resolver.sources.IsSteady)
    (valuesClosed : vars.AreBraceClosed) (count : Nat) {first second : Text}
    (firstClosed : Template.IsBraceClosed first) (secondClosed : Template.IsBraceClosed second) :
    resolver.iterate vars count (first ++ second) =
      Fault.concat (resolver.iterate vars count first) (resolver.iterate vars count second) := by
  induction count generalizing first second with
  | zero => rfl
  | succ count ih =>
    simp only [iterate, result_pass_append steady firstClosed]
    cases firstPass : (resolver.pass vars first).result with
    | error fault => rfl
    | ok nextFirst =>
      cases secondPass : (resolver.pass vars second).result with
      | error fault => exact (Fault.concat_error_right _ fault).symm
      | ok nextSecond =>
        have nextFirstClosed := ensures_isBraceClosed_pass (valuesClosed.refersToClosed first)
          firstClosed {} nextFirst firstPass
        have nextSecondClosed := ensures_isBraceClosed_pass (valuesClosed.refersToClosed second)
          secondClosed {} nextSecond secondPass
        exact ih nextFirstClosed nextSecondClosed

/-- No number of passes changes a settled text. -/
theorem iterate_of_isSettled {text : Text} (settled : Template.IsSettled vars text)
    (count : Nat) : resolver.iterate vars count text = .ok text := by
  refine iterate_of_result_pass_eq ?_ count
  rw [pass_of_isSettled settled]
  rfl

/-- No number of passes changes a text without braces. -/
theorem iterate_of_isBraceFree {text : Text} (free : text.IsBraceFree) (count : Nat) :
    resolver.iterate vars count text = .ok text :=
  iterate_of_isSettled (Template.isSettled_of_isBraceFree free) count

/-- The first of repeated passes over an expression replaces it. -/
theorem iterate_text {expression : Expression} (wellFormed : expression.IsWellFormed)
    (count : Nat) : resolver.iterate vars (count + 1) expression.text =
      (resolver.replace vars expression).result >>= resolver.iterate vars count := by
  rw [iterate, pass_text resolver vars wellFormed]

/-- Passes after the first leave the value of a builtin as it is. -/
theorem iterate_text_of_computed {expression : Expression} (wellFormed : expression.IsWellFormed)
    {builtin : Builtin} (computes : expression.meaning vars = .computed builtin) (count : Nat) :
    resolver.iterate vars (count + 1) expression.text =
      (resolver.compute builtin expression).result := by
  rw [iterate_text wellFormed, replace_eq, computes]
  cases computed : (resolver.compute builtin expression).result with
  | error fault => rfl
  | ok text =>
    have free := builtin.ensures_isBraceFree resolver.sources resolver.settings.defaultRange
      wellFormed.isBraceFree_body
    exact iterate_of_isBraceFree (free {} text computed) count

/-- Passes after the first go on with the value of a variable. -/
theorem iterate_text_of_reference {expression : Expression} (wellFormed : expression.IsWellFormed)
    {value : Text} (refers : expression.meaning vars = .reference value) (count : Nat) :
    resolver.iterate vars (count + 1) expression.text = resolver.iterate vars count value := by
  rw [iterate_text wellFormed, replace_eq, refers]
  rfl

/-- No number of passes changes an expression that stands for itself. -/
theorem iterate_text_of_verbatim {expression : Expression} (wellFormed : expression.IsWellFormed)
    (stays : expression.meaning vars = .verbatim) (count : Nat) :
    resolver.iterate vars count expression.text = .ok expression.text :=
  iterate_of_isSettled (Template.isSettled_text wellFormed stays) count

end Resolver
end Stencil
