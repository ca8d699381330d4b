import Mathlib.Control.Monad.Basic
import Stencil.Proofs.Builtin.Braces
import Stencil.Proofs.Template.BraceClosed
import Stencil.Proofs.Template.Occurrences

/-!
# Builtins open and close no expression

An expression begins and ends with a brace. So none begins or ends in a text without braces,
whatever stands around it. The values of builtins are such texts, since the expressions that a
template can hold have no brace to pass on. Main statement: `evaluate?_isInert`.
-/

namespace Stencil

/-- A character that does not occur in a part of a text stands before that part or behind it. -/
theorem Text.utf8Length_outside {before part after first last : Text} {c : Char} (absent : c ∉ part)
    (same : before ++ part ++ after = first ++ c :: last) :
    first.utf8Length < before.utf8Length ∨ (before ++ part).utf8Length ≤ first.utf8Length := by
  rw [List.append_assoc] at same
  rcases List.append_eq_append_iff.1 same with ⟨between, rfl, behind⟩ | ⟨excess, rfl, within⟩
  · obtain ⟨more, rfl, -⟩ := exists_of_append_eq absent behind
    right
    rw [← List.append_assoc, utf8Length_append (before ++ part)]
    omega
  · cases excess with
    | nil =>
      -- The character stands where the part starts, so the part is empty.
      have starts : part ++ after = [] ++ c :: last := within.symm
      obtain ⟨more, nothing, -⟩ := exists_of_append_eq absent starts
      obtain ⟨rfl, -⟩ := List.append_eq_nil_iff.1 nothing.symm
      right
      simp
    | cons d excess =>
      left
      have positive := d.utf8Size_pos
      simp only [utf8Length_append, utf8Length]
      omega

namespace Template

/-- Wherever the text stands in a template, no expression of the template begins or ends in
it. -/
def IsInert (text : Text) : Prop :=
  ∀ before after, ∀ found ∈ occurrences (before ++ text ++ after),
    (found.start < before.utf8Length ∨ (before ++ text).utf8Length ≤ found.start) ∧
    (found.stop ≤ before.utf8Length ∨ (before ++ text).utf8Length < found.stop)

/-- A text without braces cannot be part of an expression, so it is inert. -/
theorem isInert_of_isBraceFree {text : Text} (free : text.IsBraceFree) : IsInert text := by
  obtain ⟨noOpening, noClosing⟩ := Text.isBraceFree_iff_not_mem.1 free
  intro before after found member
  obtain ⟨first, last, parts, startsAt, stopsAt, -⟩ := exists_parts_of_mem_occurrences member
  have opening : before ++ text ++ after =
      first ++ '{' :: (found.expression.body ++ '}' :: last) := by
    simp [parts, Expression.text]
  have closing : before ++ text ++ after =
      (first ++ '{' :: found.expression.body) ++ '}' :: last := by
    simp [parts, Expression.text]
  have braces : found.stop = (first ++ '{' :: found.expression.body).utf8Length + 1 := by
    have single : Char.utf8Size '}' = 1 := by decide
    simp only [stopsAt, Expression.text, Text.utf8Length_append, Text.utf8Length, single,
      Nat.add_assoc, List.cons_append]
  have begins := Text.utf8Length_outside noOpening opening
  have ends := Text.utf8Length_outside noClosing closing
  omega

end Template

namespace Builtin

/-- The value of an expression that names a builtin is not empty and holds no brace. -/
theorem ensures_evaluate? {expression : Expression} (wellFormed : expression.IsWellFormed)
    {builtin : Builtin} (named : ofName? expression.name = some builtin) (sources : Sources)
    (default : Range) :
    (evaluate? sources default expression).Ensures fun value =>
      ∃ text, value = some text ∧ text ≠ [] ∧ text.IsBraceFree := by
  rw [evaluate?, named]
  have notEmpty := builtin.ensures_ne_nil sources default expression
  have free := builtin.ensures_isBraceFree sources default wellFormed.isBraceFree_body
  exact (notEmpty.and free).map fun text known => ⟨text, rfl, known⟩

/-- No builtin but the time is ever stopped. -/
theorem returns_evaluate? {expression : Expression} (notNow : ofName? expression.name ≠ some .now)
    (sources : Sources) (default : Range) (usage : Usage) :
    (evaluate? sources default expression).Returns usage := by
  unfold evaluate?
  split
  · next builtin named =>
    rw [Eval.returns_map_iff]
    cases builtin with
    | now => exact absurd named notNow
    | uuid => exact ⟨_, _, rfl⟩
    | random => exact ⟨_, _, rfl⟩
  · exact .pure _ _

/-- Whatever template an expression stands in, the builtin that it names writes a text for it if
it is not stopped, as only the time can be. That text is not empty and holds no brace, and no
expression begins or ends in it wherever it stands. This holds for all modifiers, also for a
pattern with any characters in it, and for all years that a clock can show. -/
theorem evaluate?_isInert {template : Text} {occurrence : Occurrence}
    (found : occurrence ∈ Template.occurrences template)
    (reserved : isReserved occurrence.expression.name = true) (sources : Sources)
    (default : Range) (usage : Usage) :
    (ofName? occurrence.expression.name ≠ some .now →
      (evaluate? sources default occurrence.expression).Returns usage) ∧
    ∀ value used,
      (evaluate? sources default occurrence.expression).outcome usage = (.ok value, used) →
        ∃ text, value = some text ∧ text ≠ [] ∧ '{' ∉ text ∧ '}' ∉ text ∧
          Template.IsInert text := by
  obtain ⟨-, -, -, -, -, wellFormed⟩ := Template.exists_parts_of_mem_occurrences found
  obtain ⟨builtin, named⟩ := Option.isSome_iff_exists.1 reserved
  refine ⟨fun notNow => returns_evaluate? notNow sources default usage, ?_⟩
  intro value used run
  obtain ⟨text, isText, notEmpty, free⟩ :=
    ensures_evaluate? wellFormed named sources default usage value (congrArg Prod.fst run)
  obtain ⟨noOpening, noClosing⟩ := Text.isBraceFree_iff_not_mem.1 free
  exact ⟨text, isText, notEmpty, noOpening, noClosing, Template.isInert_of_isBraceFree free⟩

/-- Stray braces around an expression do not get into its pattern, which is filled in with a year
before the first one. -/
theorem evaluate?_isInert_pattern :
    let template : Text := "\x7b\x7bnOw:-1M:FMT:YYYY: é\x7d\x7d".toList
    let occurrence : Occurrence :=
      ⟨⟨"nOw".toList, ["-1M".toList, "FMT:YYYY: é".toList]⟩, 1, 23⟩
    let sources := Sources.still ⟨-70000000000, 0⟩ {} 0
    let value : Text := "-249: é".toList
    occurrence ∈ Template.occurrences template ∧
      isReserved occurrence.expression.name = true ∧
      (evaluate? sources ⟨0, 100⟩ occurrence.expression).outcome {} =
        (.ok (some value), { readings := 1 }) ∧
      value ≠ [] ∧ '{' ∉ value ∧ '}' ∉ value ∧ Template.IsInert value := by
  intro template occurrence sources value
  have found : occurrence ∈ Template.occurrences template := by decide
  have reserved : isReserved occurrence.expression.name = true := by decide
  have run : (evaluate? sources ⟨0, 100⟩ occurrence.expression).outcome {} =
      (.ok (some value), { readings := 1 }) := by decide +kernel
  obtain ⟨-, values⟩ := evaluate?_isInert found reserved sources ⟨0, 100⟩ {}
  obtain ⟨text, isText, known⟩ := values _ _ run
  cases isText
  exact ⟨found, reserved, run, known⟩

end Builtin
end Stencil
