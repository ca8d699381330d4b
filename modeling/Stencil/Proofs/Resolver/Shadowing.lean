import Stencil.Message
import Stencil.Proofs.Resolver.Settled

/-!
# Variables that a template cannot refer to

A template refers to variables by names, and reserved names belong to the builtins.
So a variable whose name is reserved, or is no name at all, has no influence on
anything: not in the first pass over a template, and not in a later one over a text
in which such a name appears only then. Main statement: `resolve_eq_of_agree`.
-/

namespace Stencil

/-- The variables agree on every name that a template can refer to them by. -/
def Variables.Agree (first second : Variables) : Prop :=
  ∀ name, Name.isValid name = true →
    (∀ word ∈ ["now", "timestamp", "uuid", "random", "rand"], name.isKeyword word = false) →
      first.get? name = second.get? name

/-- Agreement goes both ways. -/
theorem Variables.Agree.symm {first second : Variables} (agree : first.Agree second) :
    second.Agree first :=
  fun name valid free => (agree name valid free).symm

/-- Agreement carries on from one map to the next. -/
theorem Variables.Agree.trans {first second third : Variables} (agree : first.Agree second)
    (alsoAgree : second.Agree third) : first.Agree third :=
  fun name valid free => (agree name valid free).trans (alsoAgree name valid free)

/-- Defining what a template cannot refer to changes nothing that it can refer to. -/
theorem Variables.agree_insert (vars : Variables) {name : Text} (value : Text)
    (hidden : Name.isValid name = false ∨ Builtin.isReserved name = true) :
    (vars.insert name value).Agree vars := by
  intro other valid free
  rw [get?_insert]
  refine if_neg ?_
  rintro rfl
  rcases hidden with invalid | reserved
  · exact Bool.false_ne_true (invalid.symm.trans valid)
  · have notReserved := (Builtin.isReserved_eq_false_iff other).2 free
    exact Bool.false_ne_true (notReserved.symm.trans reserved)

variable {first second : Variables}

/-- Whether a name that is valid but not reserved has a value, and which, is the same
with variables that agree. -/
theorem Variables.Agree.get?_eq (agree : first.Agree second) {name : Text}
    (valid : Name.isValid name = true) (free : Builtin.isReserved name = false) :
    first.get? name = second.get? name :=
  agree name valid ((Builtin.isReserved_eq_false_iff name).1 free)

/-- The name of an expression in a template is valid. -/
theorem Expression.IsWellFormed.isValid_name {expression : Expression}
    (wellFormed : expression.IsWellFormed) : Name.isValid expression.name = true :=
  wellFormed.isExpressionText.1

/-- An expression in a template stands for the same with variables that agree. -/
theorem Expression.meaning_eq_of_agree (agree : first.Agree second) {expression : Expression}
    (wellFormed : expression.IsWellFormed) :
    expression.meaning first = expression.meaning second :=
  meaning_congr fun free _ => agree.get?_eq wellFormed.isValid_name free

namespace Resolver

/-- A pass over any text is the same with variables that agree. -/
theorem pass_eq_of_agree (agree : first.Agree second) (resolver : Resolver) (template : Text) :
    resolver.pass first template = resolver.pass second template := by
  apply pass_congr
  intro expression member
  apply Expression.meaning_eq_of_agree agree
  exact Template.isWellFormed_of_mem_pieces (Template.mem_expressions_iff.1 member)

/-- So are repeated passes, whatever texts they lead to. -/
theorem passes_eq_of_agree (agree : first.Agree second) (resolver : Resolver) (limit : Nat)
    (template : Text) :
    resolver.passes first limit template = resolver.passes second limit template := by
  induction limit generalizing template with
  | zero => rfl
  | succ limit ih => simp only [passes, pass_eq_of_agree agree, ih]

end Resolver

/-- The missing names of a template are the same with variables that agree. -/
theorem Template.missingNames_eq_of_agree (agree : first.Agree second) (template : Text) :
    missingNames first template = missingNames second template := by
  refine List.filter_congr fun name member => ?_
  rw [userNames, List.mem_filter, Bool.not_eq_true'] at member
  obtain ⟨isName, free⟩ := member
  obtain ⟨expression, found, rfl⟩ := List.mem_map.1 isName
  have wellFormed := isWellFormed_of_mem_pieces (mem_expressions_iff.1 found)
  rw [Variables.defines, Variables.defines, agree.get?_eq wellFormed.isValid_name free]

/-- With variables that agree on every valid name but `now`, `timestamp`, `uuid`,
`random` and `rand` in any case, templates and messages resolve to the same results,
faults included, with the same uses of the sources, and miss the same names. -/
theorem Resolver.resolve_eq_of_agree (agree : first.Agree second) :
    (∀ (resolver : Resolver) template usage,
      (resolver.resolve first template).outcome usage =
        (resolver.resolve second template).outcome usage) ∧
    (∀ (resolver : Resolver) message usage,
      (resolver.resolveMessage first message).outcome usage =
        (resolver.resolveMessage second message).outcome usage) ∧
    (∀ template, Template.missingNames first template = Template.missingNames second template) ∧
    (∀ message : Message, message.hints first = message.hints second) := by
  have sameTexts (resolver : Resolver) : resolver.resolve first = resolver.resolve second := by
    funext template
    rw [resolve_eq_passes, resolve_eq_passes, passes_eq_of_agree agree]
  have sameNames := funext (Template.missingNames_eq_of_agree agree)
  refine ⟨fun resolver template usage => ?_, fun resolver message usage => ?_,
    congrFun sameNames, fun message => ?_⟩
  · rw [sameTexts]
  · rw [resolveMessage, resolveMessage, sameTexts]
  · rw [Message.hints, Message.hints, sameNames]

/-- A value under a reserved name, one under a text that is no name, and neither. -/
theorem Resolver.resolve_eq_of_agree_hiddenNames :
    let base := Variables.ofList [("a".toList, "{NOW:unix}/{1st}/{Uuid}".toList)]
    let first := (base.insert "Now".toList "{a}".toList).insert "1st".toList "x".toList
    let second := base.insert "UUID".toList "\x7bb".toList
    first.Agree second ∧
      (∀ (resolver : Resolver) template usage,
        (resolver.resolve first template).outcome usage =
          (resolver.resolve second template).outcome usage) ∧
      ∀ message : Message, message.hints first = message.hints second := by
  intro base first second
  have agree : first.Agree second :=
    ((Variables.agree_insert _ _ (.inl (by decide))).trans
      (Variables.agree_insert base _ (.inr (by decide)))).trans
      (Variables.agree_insert base _ (.inr (by decide))).symm
  have same := resolve_eq_of_agree agree
  exact ⟨agree, same.1, same.2.2.2⟩

end Stencil
