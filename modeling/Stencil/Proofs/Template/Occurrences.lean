import Stencil.Resolver
import Stencil.Proofs.Template.Grammar
import Stencil.Proofs.Text.Octets

/-!
# Occurrences of expressions

The expressions found in a template are all the ranges of octets that hold the
text of an expression, each once and from left to right. Nothing of that shape
is passed over, nothing else is found, and no two of them overlap. Main
statement: `occurrences_exact`.
-/

namespace Stencil.Template

/-- The octets of the template from `start` up to but not including `stop` are
those of the text. Nothing is said about where characters begin and end. -/
def HoldsAt (template text : Text) (start stop : Nat) : Prop :=
  ∃ before after, Utf8.encode template = before ++ Utf8.encode text ++ after ∧
    start = before.length ∧ stop = before.length + (Utf8.encode text).length

/-- An occurrence is a piece that is an expression; it starts behind the text of
the pieces before it. -/
theorem mem_occurrencesFrom_iff {start : Nat} {found : List Piece} {occurrence : Occurrence} :
    occurrence ∈ occurrencesFrom start found ↔
      ∃ before after, found = before ++ .expression occurrence.expression :: after ∧
        occurrence.start = start + Text.utf8Length (before.flatMap Piece.text) ∧
        occurrence.stop = occurrence.start + occurrence.expression.text.utf8Length := by
  induction found generalizing start with
  | nil => simp [occurrencesFrom]
  | cons piece rest ih =>
    -- A piece in front moves all occurrences behind it on by its own octets.
    cases piece with
    | char c =>
      rw [occurrencesFrom, ih]
      constructor
      · rintro ⟨before, after, rfl, startsAt, stopsAt⟩
        refine ⟨.char c :: before, after, rfl, ?_, stopsAt⟩
        simp [startsAt, Piece.text, Text.utf8Length, Nat.add_assoc]
      · rintro ⟨before, after, split, startsAt, stopsAt⟩
        cases before with
        | nil => simp at split
        | cons first before =>
          obtain ⟨rfl, rfl⟩ := List.cons.inj split
          refine ⟨before, after, rfl, ?_, stopsAt⟩
          simp [startsAt, Piece.text, Text.utf8Length, Nat.add_assoc]
    | expression expression =>
      rw [occurrencesFrom, List.mem_cons, ih]
      constructor
      · rintro (rfl | ⟨before, after, rfl, startsAt, stopsAt⟩)
        · exact ⟨[], rest, rfl, by simp [Text.utf8Length], rfl⟩
        · refine ⟨.expression expression :: before, after, rfl, ?_, stopsAt⟩
          simp [startsAt, Piece.text, Text.utf8Length_append, Nat.add_assoc]
      · rintro ⟨before, after, split, startsAt, stopsAt⟩
        cases before with
        | nil =>
          obtain ⟨here, -⟩ := List.cons.inj split
          cases here
          left
          obtain ⟨_, _, _⟩ := occurrence
          simp only [List.flatMap_nil, Text.utf8Length, Nat.add_zero] at startsAt stopsAt
          simp [startsAt, stopsAt]
        | cons first before =>
          obtain ⟨rfl, rfl⟩ := List.cons.inj split
          refine .inr ⟨before, after, rfl, ?_, stopsAt⟩
          simp [startsAt, Piece.text, Text.utf8Length_append, Nat.add_assoc]

/-- The expressions found are the expressions of the occurrences. -/
theorem map_expression_occurrencesFrom (start : Nat) (found : List Piece) :
    (occurrencesFrom start found).map Occurrence.expression =
      found.filterMap Piece.expression? := by
  induction found generalizing start with
  | nil => rfl
  | cons piece rest ih =>
    cases piece with
    | char c =>
      rw [occurrencesFrom, ih, List.filterMap_cons]
      rfl
    | expression expression => simp [occurrencesFrom, Piece.expression?, ih]

/-- The expressions of a template are those of its occurrences. -/
theorem map_expression_occurrences (template : Text) :
    (occurrences template).map Occurrence.expression = expressions template :=
  map_expression_occurrencesFrom 0 (pieces template)

/-- An expression takes up an octet at least. -/
theorem one_le_utf8Length_text (expression : Expression) :
    1 ≤ expression.text.utf8Length := by
  have brace : Char.utf8Size '{' = 1 := by decide
  simp only [Expression.text, List.cons_append, Text.utf8Length, brace]
  omega

/-- Occurrences come from left to right and do not overlap. -/
theorem pairwise_occurrencesFrom (start : Nat) (found : List Piece) :
    (occurrencesFrom start found).Pairwise fun earlier later =>
      earlier.start < later.start ∧ earlier.stop ≤ later.start := by
  induction found generalizing start with
  | nil => exact .nil
  | cons piece rest ih =>
    cases piece with
    | char c => exact ih _
    | expression expression =>
      refine .cons ?_ (ih _)
      intro later member
      obtain ⟨before, -, -, startsAt, -⟩ := mem_occurrencesFrom_iff.1 member
      have positive := one_le_utf8Length_text expression
      simp only
      omega

/-- An occurrence cuts the template into the characters before, within and behind
it, and its octets are counted accordingly. -/
theorem exists_parts_of_mem_occurrences {template : Text} {occurrence : Occurrence}
    (member : occurrence ∈ occurrences template) :
    ∃ before after, template = before ++ occurrence.expression.text ++ after ∧
      occurrence.start = before.utf8Length ∧
      occurrence.stop = before.utf8Length + occurrence.expression.text.utf8Length ∧
      occurrence.expression.IsWellFormed := by
  obtain ⟨before, after, split, startsAt, stopsAt⟩ := mem_occurrencesFrom_iff.1 member
  have parts := text_pieces template
  rw [split, List.flatMap_append, List.flatMap_cons, ← List.append_assoc] at parts
  have isPiece : .expression occurrence.expression ∈ pieces template := by simp [split]
  have wellFormed := isWellFormed_of_mem_pieces isPiece
  refine ⟨before.flatMap Piece.text, after.flatMap Piece.text, parts.symm, ?_, ?_, wellFormed⟩
  · rw [startsAt, Nat.zero_add]
  · rw [stopsAt, startsAt, Nat.zero_add]

/-- The text of a well-formed expression occurs wherever characters spell it. -/
theorem mem_occurrences_of_parts {expression : Expression}
    (wellFormed : expression.IsWellFormed) (before after : Text) :
    ⟨expression, before.utf8Length, before.utf8Length + expression.text.utf8Length⟩ ∈
      occurrences (before ++ (expression.text ++ after)) := by
  refine mem_occurrencesFrom_iff.2 ⟨pieces before, pieces after, ?_, ?_, rfl⟩
  · exact pieces_around wellFormed before after
  · rw [text_pieces, Nat.zero_add]

/-- The ranges of the occurrences are those whose octets are the text of an expression. -/
theorem exists_mem_occurrences_iff (template : Text) (start stop : Nat) :
    (∃ occurrence ∈ occurrences template, occurrence.start = start ∧ occurrence.stop = stop) ↔
      ∃ name text, Expression.IsExpressionText name text ∧ HoldsAt template text start stop := by
  constructor
  · rintro ⟨occurrence, member, rfl, rfl⟩
    obtain ⟨before, after, parts, startsAt, stopsAt, wellFormed⟩ :=
      exists_parts_of_mem_occurrences member
    refine ⟨occurrence.expression.name, occurrence.expression.text,
      wellFormed.isExpressionText,
      Utf8.encode before, Utf8.encode after, ?_, ?_, ?_⟩
    · have octets := congrArg Utf8.encode parts
      rwa [Utf8.encode_append, Utf8.encode_append] at octets
    · rw [startsAt, Utf8.length_encode]
    · rw [stopsAt, Utf8.length_encode, Utf8.length_encode]
  · rintro ⟨name, text, isText, octetsBefore, octetsAfter, octets, rfl, rfl⟩
    obtain ⟨expression, wellFormed, rfl, -⟩ := isText.exists_isWellFormed
    have opening : expression.text = '{' :: (expression.body ++ ['}']) := rfl
    rw [opening] at octets
    obtain ⟨before, after, parts, rfl, -⟩ := Utf8.exists_parts_of_encode_eq octets (by decide)
    have whole : template = before ++ (expression.text ++ after) := by
      rw [parts, List.append_assoc]
      rfl
    rw [whole, Utf8.length_encode, Utf8.length_encode]
    exact ⟨_, mem_occurrences_of_parts wellFormed before after, rfl, rfl⟩

/-- The name of a well-formed expression is the text behind the opening brace up to
the first colon or the closing brace. -/
theorem takeWhile_text_eq_name {expression : Expression}
    (wellFormed : expression.IsWellFormed) :
    (expression.text.drop 1).takeWhile (fun c => c != ':' && c != '}') = expression.name := by
  obtain ⟨valid, segments, -, spelled⟩ := wellFormed.isExpressionText
  obtain ⟨-, noClosing, noColon⟩ := Name.not_mem_of_isValid valid
  have within : ∀ c ∈ expression.name, (c != ':' && c != '}') = true := by
    intro c member
    have notColon : c ≠ ':' := fun same => noColon (same ▸ member)
    have notClosing : c ≠ '}' := fun same => noClosing (same ▸ member)
    simp [notColon, notClosing]
  have shape : expression.text.drop 1 =
      expression.name ++ (Text.prefixed ':' segments ++ ['}']) := by
    rw [spelled]
    simp
  rw [shape, List.takeWhile_append_of_pos within]
  cases segments <;> simp [Text.prefixed]

/-- The occurrences of expressions in a template are exactly the ranges of octets
that hold the text of an expression. They come in ascending order, are disjoint and
begin and end with characters; each has the name that stands behind its opening
brace. The other views of a template agree with them. -/
theorem occurrences_exact (template : Text) :
    (∀ start stop,
      (∃ occurrence ∈ occurrences template, occurrence.start = start ∧ occurrence.stop = stop) ↔
        ∃ name text, Expression.IsExpressionText name text ∧ HoldsAt template text start stop) ∧
    ((occurrences template).Pairwise fun earlier later =>
      earlier.start < later.start ∧ earlier.stop ≤ later.start) ∧
    (∀ occurrence ∈ occurrences template, ∃ before text after,
      template = before ++ text ++ after ∧
      occurrence.start = before.utf8Length ∧
      occurrence.stop = before.utf8Length + text.utf8Length ∧
      Expression.IsExpressionText occurrence.expression.name text ∧
      occurrence.expression.name = (text.drop 1).takeWhile fun c => c != ':' && c != '}') ∧
    (hasExpressions template = true ↔ occurrences template ≠ []) ∧
    names template = (occurrences template).map (fun occurrence => occurrence.expression.name) ∧
    userNames template = ((occurrences template).map fun occurrence =>
      occurrence.expression.name).filter fun name => !Builtin.isReserved name := by
  have sameNames : names template =
      (occurrences template).map (fun occurrence => occurrence.expression.name) := by
    rw [names, ← map_expression_occurrences, List.map_map]
    rfl
  refine ⟨exists_mem_occurrences_iff template, pairwise_occurrencesFrom 0 _, ?_, ?_, sameNames, ?_⟩
  · intro occurrence member
    obtain ⟨before, after, parts, startsAt, stopsAt, wellFormed⟩ :=
      exists_parts_of_mem_occurrences member
    exact ⟨before, occurrence.expression.text, after, parts, startsAt, stopsAt,
      wellFormed.isExpressionText, (takeWhile_text_eq_name wellFormed).symm⟩
  · rw [hasExpressions, ← map_expression_occurrences]
    simp
  · rw [userNames, sameNames]

/-- Braces that belong to no expression and a segment without characters hide no
expression behind them. -/
example : occurrences "é\x7ba\x7bb\x7d:\x7bc:\x7d\x7bnow:fmt:H:m\x7d\x7d".toList =
    [⟨⟨['b'], []⟩, 4, 7⟩, ⟨⟨"now".toList, ["fmt:H:m".toList]⟩, 12, 25⟩] := by
  decide

end Stencil.Template
