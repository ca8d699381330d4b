import Stencil.Template

/-!
# The grammar of expressions

`IsExpressionText` describes the text of an expression without reference to how
templates are read; it describes the texts of the well-formed expressions
(`exists_isWellFormed`, `isExpressionText`). A well-formed expression is a piece of
every template that holds its text: `pieces_around` cuts the pieces of such a
template there, whatever stray braces stand on either side.
-/

namespace Stencil

namespace Text

/-- Parts without the separator are the segments of what they are joined to. -/
theorem segments_prefixed {separator : Char} {first : Text} {others : List Text}
    (firstFree : separator ∉ first) (othersFree : ∀ part ∈ others, separator ∉ part) :
    segments separator (first ++ prefixed separator others) = (first, others) := by
  induction others generalizing first with
  | nil =>
    induction first with
    | nil => rfl
    | cons c rest ih =>
      simp only [List.mem_cons, not_or] at firstFree
      have later : segments separator rest = (rest, []) := by
        simpa [prefixed] using ih firstFree.2
      simp [segments, prefixed, later, Ne.symm firstFree.1]
  | cons part others inner =>
    simp only [List.forall_mem_cons] at othersFree
    have later := inner othersFree.1 othersFree.2
    induction first with
    | nil =>
      have shape : [] ++ prefixed separator (part :: others) =
          separator :: (part ++ prefixed separator others) := rfl
      simp [shape, segments, later]
    | cons c rest ih =>
      simp only [List.mem_cons, not_or] at firstFree
      simp [segments, ih firstFree.2, Ne.symm firstFree.1]

/-- Other than separators only what occurs in one of the parts occurs in what they are
joined to. -/
theorem mem_prefixed_iff {separator c : Char} {parts : List Text} (other : c ≠ separator) :
    c ∈ prefixed separator parts ↔ ∃ part ∈ parts, c ∈ part := by
  simp [prefixed, other]

/-- The octets of two texts add up. -/
theorem utf8Length_append (first second : Text) :
    utf8Length (first ++ second) = utf8Length first + utf8Length second := by
  induction first with
  | nil => simp [utf8Length]
  | cons c rest ih => simp [utf8Length, ih, Nat.add_assoc]

end Text

namespace Expression

/-- An expression that a template can hold. -/
structure IsWellFormed (expression : Expression) : Prop where
  isBody : isBody expression.body = true
  noOpening : '{' ∉ expression.body
  noClosing : '}' ∉ expression.body
  ofBody_body : ofBody expression.body = expression

/-- A body without braces that a template can hold makes a well-formed expression. -/
theorem isWellFormed_ofBody {body : Text} (valid : isBody body = true)
    (noOpening : '{' ∉ body) (noClosing : '}' ∉ body) : (ofBody body).IsWellFormed where
  isBody := by rwa [body_ofBody]
  noOpening := by rwa [body_ofBody]
  noClosing := by rwa [body_ofBody]
  ofBody_body := by rw [body_ofBody]

/-- What may stand behind a colon of an expression. -/
def IsSegment (segment : Text) : Prop :=
  segment ≠ [] ∧ '{' ∉ segment ∧ '}' ∉ segment ∧ ':' ∉ segment

instance (segment : Text) : Decidable (IsSegment segment) :=
  inferInstanceAs (Decidable (_ ∧ _))

/-- The text of an expression with the given name: the name and any number of
segments, each behind a colon, between braces. -/
def IsExpressionText (name text : Text) : Prop :=
  Name.isValid name = true ∧ ∃ segments : List Text, (∀ segment ∈ segments, IsSegment segment) ∧
    text = '{' :: (name ++ Text.prefixed ':' segments) ++ ['}']

/-- The name of an expression is what stands in front of the first colon. -/
theorem name_ofBody (body : Text) : (ofBody body).name = (body.segments ':').1 := rfl

/-- A name and segments that are joined are taken apart again. -/
theorem segments_name_prefixed {name : Text} {segments : List Text}
    (valid : Name.isValid name = true) (areSegments : ∀ segment ∈ segments, IsSegment segment) :
    Text.segments ':' (name ++ Text.prefixed ':' segments) = (name, segments) :=
  Text.segments_prefixed (Name.not_mem_of_isValid valid).2.2
    fun segment member => (areSegments segment member).2.2.2

/-- They are read as the name and the tokens that the segments form. -/
theorem ofBody_prefixed {name : Text} {segments : List Text} (valid : Name.isValid name = true)
    (areSegments : ∀ segment ∈ segments, IsSegment segment) :
    ofBody (name ++ Text.prefixed ':' segments) = ⟨name, gather segments⟩ := by
  rw [ofBody, segments_name_prefixed valid areSegments]

/-- The tokens that segments form make a well-formed expression with every name. -/
theorem isWellFormed_gather {name : Text} {segments : List Text}
    (valid : Name.isValid name = true) (areSegments : ∀ segment ∈ segments, IsSegment segment) :
    (⟨name, gather segments⟩ : Expression).IsWellFormed := by
  obtain ⟨nameOpening, nameClosing, -⟩ := Name.not_mem_of_isValid valid
  rw [← ofBody_prefixed valid areSegments]
  apply isWellFormed_ofBody
  · simp only [isBody, segments_name_prefixed valid areSegments, valid, Bool.true_and,
      List.all_eq_true]
    intro segment member
    simpa using (areSegments segment member).1
  · rw [List.mem_append, Text.mem_prefixed_iff (by decide)]
    rintro (inName | ⟨segment, member, inSegment⟩)
    · exact nameOpening inName
    · exact (areSegments segment member).2.1 inSegment
  · rw [List.mem_append, Text.mem_prefixed_iff (by decide)]
    rintro (inName | ⟨segment, member, inSegment⟩)
    · exact nameClosing inName
    · exact (areSegments segment member).2.2.1 inSegment

/-- What the grammar describes is the text of a well-formed expression. -/
theorem IsExpressionText.exists_isWellFormed {name text : Text}
    (isText : IsExpressionText name text) :
    ∃ expression : Expression, expression.IsWellFormed ∧ expression.text = text ∧
      expression.name = name := by
  obtain ⟨valid, segments, areSegments, rfl⟩ := isText
  refine ⟨⟨name, gather segments⟩, isWellFormed_gather valid areSegments, ?_, rfl⟩
  rw [text, body, prefixed_gather]

/-- The grammar describes the text of a well-formed expression. -/
theorem IsWellFormed.isExpressionText {expression : Expression}
    (wellFormed : expression.IsWellFormed) :
    IsExpressionText expression.name expression.text := by
  have valid := wellFormed.isBody
  simp only [Expression.isBody, Bool.and_eq_true, List.all_eq_true] at valid
  have joined := Text.segments_join ':' expression.body
  have colonFree := (Text.separator_not_mem_segments ':' expression.body).2
  have named : expression.name = (expression.body.segments ':').1 := by
    rw [← name_ofBody, wellFormed.ofBody_body]
  refine ⟨by rw [named]; exact valid.1, (expression.body.segments ':').2, ?_, ?_⟩
  · intro segment member
    have inBody (c : Char) (other : c ≠ ':') (inSegment : c ∈ segment) : c ∈ expression.body := by
      rw [← joined]
      exact List.mem_append_right _ ((Text.mem_prefixed_iff other).2 ⟨segment, member, inSegment⟩)
    refine ⟨by simpa using valid.2 segment member, ?_, ?_, colonFree segment member⟩
    · exact fun brace => wellFormed.noOpening (inBody _ (by decide) brace)
    · exact fun brace => wellFormed.noClosing (inBody _ (by decide) brace)
  · rw [named, joined]
    rfl

end Expression

namespace Template

/-- The search for a closing brace does not look past a whole expression. -/
theorem enclosed?_append_expression (before after : List Piece) (expression : Expression) :
    enclosed? (before ++ .expression expression :: after) =
      (enclosed? before).map fun (body, rest) =>
        (body, rest ++ .expression expression :: after) := by
  induction before with
  | nil => rfl
  | cons piece before ih =>
    cases piece with
    | expression => rfl
    | char c =>
      simp only [List.cons_append, enclosed?]
      split
      · rfl
      · split
        · rfl
        · rw [ih]
          cases enclosed? before <;> rfl

/-- A character changes nothing from a whole expression on. -/
theorem prepend_append_expression (c : Char) (before after : List Piece)
    (expression : Expression) :
    prepend c (before ++ .expression expression :: after) =
      prepend c before ++ .expression expression :: after := by
  unfold prepend
  rw [enclosed?_append_expression]
  cases enclosed? before with
  | none => split <;> rfl
  | some found =>
    simp only [Option.map_some]
    split
    · split <;> rfl
    · rfl

/-- Text in front of a whole expression is read as if nothing came behind it. -/
theorem foldr_prepend_expression (before : Text) (after : List Piece)
    (expression : Expression) :
    before.foldr prepend (.expression expression :: after) =
      pieces before ++ .expression expression :: after := by
  induction before with
  | nil => rfl
  | cons c before ih =>
    rw [List.foldr_cons, ih, prepend_append_expression]
    rfl

/-- Characters other than an opening brace are pieces of their own. -/
theorem foldr_prepend_plain {plain : Text} (noOpening : '{' ∉ plain) (after : List Piece) :
    plain.foldr prepend after = plain.map Piece.char ++ after := by
  induction plain with
  | nil => rfl
  | cons c plain ih =>
    simp only [List.mem_cons, not_or] at noOpening
    rw [List.foldr_cons, ih noOpening.2, prepend, if_neg (Ne.symm noOpening.1)]
    rfl

/-- Without braces in front of it, the first closing brace ends the search. -/
theorem enclosed?_plain {body : Text} (noOpening : '{' ∉ body) (noClosing : '}' ∉ body)
    (after : List Piece) :
    enclosed? (body.map Piece.char ++ .char '}' :: after) = some (body, after) := by
  induction body with
  | nil => simp [enclosed?]
  | cons c body ih =>
    simp only [List.mem_cons, not_or] at noOpening noClosing
    have later := ih noOpening.2 noClosing.2
    simp [enclosed?, later, Ne.symm noOpening.1, Ne.symm noClosing.1]

/-- A character other than an opening brace at the start of a template is a piece. -/
theorem pieces_cons {c : Char} (notOpening : c ≠ '{') (rest : Text) :
    pieces (c :: rest) = .char c :: pieces rest := by
  simp [pieces, prepend, notOpening]

/-- The text of a well-formed expression at the start of a template is a piece. -/
theorem pieces_text_append {expression : Expression} (wellFormed : expression.IsWellFormed)
    (after : Text) :
    pieces (expression.text ++ after) = .expression expression :: pieces after := by
  have layout : expression.text ++ after = '{' :: (expression.body ++ '}' :: after) := by
    simp [Expression.text]
  have inner : (expression.body ++ '}' :: after).foldr prepend [] =
      expression.body.map Piece.char ++ .char '}' :: pieces after := by
    rw [List.foldr_append, foldr_prepend_plain wellFormed.noOpening, List.foldr_cons]
    simp [prepend, pieces]
  rw [layout, pieces, List.foldr_cons, inner, prepend, if_pos rfl,
    enclosed?_plain wellFormed.noOpening wellFormed.noClosing]
  simp only [wellFormed.isBody, wellFormed.ofBody_body, if_true]

/-- A template is cut at every text of a well-formed expression in it. The parts on
both sides are read apart, whatever braces they hold. -/
theorem pieces_around {expression : Expression} (wellFormed : expression.IsWellFormed)
    (before after : Text) :
    pieces (before ++ (expression.text ++ after)) =
      pieces before ++ .expression expression :: pieces after := by
  rw [← foldr_prepend_expression, ← pieces_text_append wellFormed]
  simp [pieces]

/-- What a search finds ends the searched pieces and encloses no brace. -/
theorem enclosed?_spec {rest after : List Piece} {body : Text}
    (found : enclosed? rest = some (body, after)) :
    after <:+ rest ∧ '{' ∉ body ∧ '}' ∉ body := by
  fun_induction enclosed? rest generalizing body after with
  | case1 rest =>
    obtain ⟨rfl, rfl⟩ : [] = body ∧ rest = after := by simpa using found
    exact ⟨List.suffix_cons _ _, by simp, by simp⟩
  | case2 => simp at found
  | case3 c rest notClosing notOpening ih =>
    simp only [Option.map_eq_some_iff, Prod.exists, Prod.mk.injEq] at found
    obtain ⟨shorter, _, inner, rfl, rfl⟩ := found
    obtain ⟨suffix, noOpening, noClosing⟩ := ih inner
    refine ⟨suffix.trans (List.suffix_cons _ _), ?_, ?_⟩
    · simp [Ne.symm notOpening, noOpening]
    · simp [Ne.symm notClosing, noClosing]
  | case4 => simp at found

/-- Every expression among the pieces of a template is well-formed. -/
theorem isWellFormed_of_mem_pieces {template : Text} {expression : Expression}
    (member : .expression expression ∈ pieces template) : expression.IsWellFormed := by
  induction template with
  | nil => simp [pieces] at member
  | cons c rest ih =>
    have step : .expression expression ∈ prepend c (pieces rest) := member
    unfold prepend at step
    split at step
    · split at step
      · next body after found =>
        obtain ⟨suffix, noOpening, noClosing⟩ := enclosed?_spec found
        split at step
        · next valid =>
          rcases List.mem_cons.1 step with here | later
          · cases here
            exact Expression.isWellFormed_ofBody valid noOpening noClosing
          · exact ih (suffix.mem later)
        · exact ih (by simpa using step)
      · exact ih (by simpa using step)
    · exact ih (by simpa using step)

end Template
end Stencil
