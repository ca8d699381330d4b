import Stencil.Proofs.Resolver.Shadowing
import Stencil.Proofs.Resolver.Surroundings
import Stencil.Proofs.Template.Occurrences
import Stencil.Proofs.Text.Keywords

/-!
# Names that can be referred to

The names that can be defined are those that an expression of some template can have: a name
between braces is an expression of its own, and no other text is. So a definition that is
accepted can be reached, and one that is refused could not have been. Main statement:
`validate_exact`.
-/

namespace Stencil

open Template

namespace Name

/-- The character is an ASCII letter or an underscore. -/
def IsLetter (c : Char) : Prop :=
  'A' ≤ c ∧ c ≤ 'Z' ∨ 'a' ≤ c ∧ c ≤ 'z' ∨ c = '_'

/-- The text is a letter and then letters and digits, all of them ASCII. -/
def IsWord (text : Text) : Prop :=
  ∃ first rest, text = first :: rest ∧ IsLetter first ∧
    ∀ c ∈ rest, IsLetter c ∨ '0' ≤ c ∧ c ≤ '9'

/-- A name starts with a letter or an underscore. -/
theorem canStart_iff {c : Char} : canStart c = true ↔ IsLetter c := by
  simp [canStart, IsLetter, Text.isAlpha_iff, or_assoc]

/-- A name goes on with the same characters and with digits. -/
theorem canContinue_iff {c : Char} : canContinue c = true ↔ IsLetter c ∨ '0' ≤ c ∧ c ≤ '9' := by
  have sameDigits : c.isDigit = true ↔ '0' ≤ c ∧ c ≤ '9' := by simp [Char.isDigit, Char.le_def]
  rw [← canStart_iff, ← sameDigits, canContinue, canStart, Char.isAlphanum]
  simp [or_right_comm]

/-- The valid names are the words. -/
theorem isValid_iff_isWord {text : Text} : isValid text = true ↔ IsWord text := by
  cases text with
  | nil => simp [isValid, IsWord]
  | cons first rest =>
    simp only [isValid, IsWord, Bool.and_eq_true, List.all_eq_true, canStart_iff,
      canContinue_iff, List.cons.injEq]
    constructor
    · exact fun written => ⟨first, rest, ⟨rfl, rfl⟩, written⟩
    · rintro ⟨_, _, ⟨rfl, rfl⟩, written⟩
      exact written

/-- A valid name without modifiers is an expression that a template can hold. -/
theorem isWellFormed_plain {name : Text} (valid : isValid name = true) :
    (⟨name, []⟩ : Expression).IsWellFormed :=
  Expression.isWellFormed_gather valid (List.forall_mem_nil _)

/-- The names of expressions in templates are the valid names. -/
theorem isValid_iff_exists_mem_names {name : Text} :
    isValid name = true ↔ ∃ template, name ∈ names template := by
  constructor
  · intro valid
    refine ⟨name.braced, ?_⟩
    rw [names, ← Expression.text_plain, expressions_text (isWellFormed_plain valid)]
    exact List.mem_singleton_self name
  · rintro ⟨template, member⟩
    obtain ⟨expression, inTemplate, rfl⟩ := List.mem_map.1 member
    exact (isWellFormed_of_mem_pieces (mem_expressions_iff.1 inTemplate)).isValid_name

/-- The text of an expression holds one occurrence, from its first octet to its last. -/
theorem occurrences_text {expression : Expression} (wellFormed : expression.IsWellFormed) :
    occurrences expression.text = [⟨expression, 0, expression.text.utf8Length⟩] := by
  rw [occurrences, pieces_text wellFormed, occurrencesFrom, Nat.zero_add]
  rfl

/-- A text is a valid name exactly if it is read as one expression without modifiers when it
stands between braces. -/
theorem isValid_iff_occurrences_braced {name : Text} :
    isValid name = true ↔ occurrences name.braced = [⟨⟨name, []⟩, 0, name.braced.utf8Length⟩] := by
  constructor
  · intro valid
    have single := occurrences_text (isWellFormed_plain valid)
    rwa [Expression.text_plain] at single
  · intro single
    refine isValid_iff_exists_mem_names.2 ⟨name.braced, ?_⟩
    rw [names, ← map_expression_occurrences, single]
    exact List.mem_singleton_self name

/-- A name passes the check if it is valid. -/
theorem validate_eq_ok_iff {text : Text} : validate text = .ok () ↔ isValid text = true := by
  rw [validate]
  split <;> simp [*]

/-- A text that is no valid name is refused, and the error names it. -/
theorem validate_eq_error_iff {text : Text} {cause : Invalid} :
    validate text = .error cause ↔ isValid text = false ∧ cause = .variableName text := by
  rw [validate]
  split <;> simp [*, eq_comm]

end Name

/-- A reference to a variable resolves to its value, without any use of the sources, if the
value holds no brace. -/
theorem Resolver.resolve_braced {vars : Variables} {name value : Text}
    (valid : Name.isValid name = true) (free : Builtin.isReserved name = false)
    (found : vars.get? name = some value) (plain : value.IsBraceFree) (resolver : Resolver) :
    resolver.resolve vars name.braced = pure value := by
  have refers : (⟨name, []⟩ : Expression).meaning vars = .reference value :=
    Expression.meaning_eq_reference_iff.2 ⟨free, rfl, found⟩
  have passed : resolver.pass vars name.braced = pure value := by
    rw [← Expression.text_plain, pass_text resolver vars (Name.isWellFormed_plain valid),
      replace_eq, refers]
  -- The first pass leaves a text without expressions, on which all others do nothing.
  obtain ⟨more, passes⟩ := Nat.exists_eq_add_of_le' resolver.settings.passes_bounds.1
  rw [resolve_eq_passes, passes, passes_succ_of_pass_eq_pure passed,
    passes_of_isSettled (isSettled_of_isBraceFree plain)]

namespace Name

/-- A name is accepted exactly if some template holds an expression with it, and exactly if it
is read as the only expression, and one without modifiers, when it stands between braces; these
are the words of ASCII letters, digits and underscores that do not start with a digit. Every
other text is refused with an error that holds it. A name that is accepted, is not reserved
and has a value without braces resolves to that value in braces, whatever the settings are, and
without any use of the sources. -/
theorem validate_exact (text : Text) :
    (validate text = .ok () ↔ ∃ template, text ∈ names template) ∧
    (validate text = .ok () ↔
      occurrences text.braced = [⟨⟨text, []⟩, 0, text.braced.utf8Length⟩]) ∧
    (validate text = .ok () ↔ IsWord text) ∧
    (∀ cause, validate text = .error cause ↔
      (∀ template, text ∉ names template) ∧ cause = .variableName text) ∧
    ∀ (resolver : Resolver) (vars : Variables) value usage, validate text = .ok () →
      Builtin.isReserved text = false → vars.get? text = some value → value.IsBraceFree →
        (resolver.resolve vars text.braced).outcome usage = (.ok value, usage) := by
  refine ⟨validate_eq_ok_iff.trans isValid_iff_exists_mem_names,
    validate_eq_ok_iff.trans isValid_iff_occurrences_braced,
    validate_eq_ok_iff.trans isValid_iff_isWord, fun cause => ?_, ?_⟩
  · rw [validate_eq_error_iff, ← Bool.not_eq_true, isValid_iff_exists_mem_names, not_exists]
  · intro resolver vars value usage accepted free found plain
    rw [Resolver.resolve_braced (validate_eq_ok_iff.1 accepted) free found plain]
    rfl

/-- A name with a digit that is bound to a text with colons, beside a variable that a builtin
hides. -/
theorem validate_exact_boundName :
    let name : Text := "_a1".toList
    let value : Text := "00:1A".toList
    let vars := Variables.ofList [("uuid".toList, "u".toList), (name, value)]
    validate name = .ok () ∧ Builtin.isReserved name = false ∧ vars.get? name = some value ∧
      value.IsBraceFree ∧
      ∀ (resolver : Resolver) usage,
        (resolver.resolve vars "\x7b_a1\x7d".toList).outcome usage = (.ok value, usage) := by
  intro name value vars
  have accepted : validate name = .ok () := validate_eq_ok_iff.2 (by decide)
  have free : Builtin.isReserved name = false := by decide
  have found : vars.get? name = some value := by decide
  have plain : value.IsBraceFree := by decide
  exact ⟨accepted, free, found, plain, fun resolver usage =>
    (validate_exact name).2.2.2.2 resolver vars value usage accepted free found plain⟩

end Name
end Stencil
