import Stencil.Proofs.Modifier.Classes
import Stencil.Proofs.Template.Occurrences

/-!
# Bodies split at their colons

A body is split into a name and tokens, and nothing of it is lost: joined with colons they are
the body again. Since a segment `fmt` takes the rest of the body with it, only the last token
can hold colons. `AreSplit` describes the tokens that arise in this way, and each list of such
tokens is split as it was written. Main statement: `ofBody_exact`.
-/

namespace Stencil

/-- Texts that are joined with a separator are the first one, and the others behind a
separator each. -/
theorem Text.intercalate_cons (separator : Char) (first : Text) (others : List Text) :
    [separator].intercalate (first :: others) = first ++ prefixed separator others := by
  induction others generalizing first with
  | nil => simp [prefixed]
  | cons part others ih =>
    rw [List.intercalate_cons_cons, ih]
    simp [prefixed]

namespace Expression

/-- Tokens of which each but the last is without colons and other than `fmt`, in any spelling,
while the last holds a colon only if it starts with `fmt:`. -/
structure AreSplit (tokens : List Text) : Prop where
  others : ∀ token ∈ tokens.dropLast, ':' ∉ token ∧ ¬ token.Spells "fmt"
  last : ∀ token, tokens.getLast? = some token → ':' ∈ token →
    ∃ keyword pattern : Text, keyword.Spells "fmt" ∧ token = keyword ++ ':' :: pattern

namespace AreSplit

variable {token : Text} {rest : List Text}

/-- No tokens are split. -/
theorem nil : AreSplit [] where
  others := by simp
  last := by simp

/-- A single token may hold a colon only behind `fmt`. -/
theorem singleton (written : ':' ∈ token →
    ∃ keyword pattern : Text, keyword.Spells "fmt" ∧ token = keyword ++ ':' :: pattern) :
    AreSplit [token] where
  others := by simp
  last := by simpa using written

/-- A token without colons goes in front of split tokens, unless it would take them for its
pattern. -/
theorem cons (noColon : ':' ∉ token) (notFormat : ¬ token.Spells "fmt") (areSplit : AreSplit rest) :
    AreSplit (token :: rest) := by
  cases rest with
  | nil => exact singleton fun colon => absurd colon noColon
  | cons next rest =>
    constructor
    · rw [List.dropLast_cons_cons, List.forall_mem_cons]
      exact ⟨⟨noColon, notFormat⟩, areSplit.others⟩
    · rw [List.getLast?_cons_cons]
      exact areSplit.last

/-- What follows the first of split tokens is split. -/
theorem tail {next : Text} (areSplit : AreSplit (token :: next :: rest)) :
    AreSplit (next :: rest) where
  others := by
    have all := areSplit.others
    rw [List.dropLast_cons_cons, List.forall_mem_cons] at all
    exact all.2
  last := by
    have atEnd := areSplit.last
    rwa [List.getLast?_cons_cons] at atEnd

end AreSplit

/-- The tokens that segments form are split. -/
theorem areSplit_gather {segments : List Text}
    (colonFree : ∀ segment ∈ segments, ':' ∉ segment) : AreSplit (gather segments) := by
  induction segments with
  | nil => exact .nil
  | cons segment rest ih =>
    obtain ⟨noColon, restFree⟩ := List.forall_mem_cons.1 colonFree
    rw [gather]
    split
    · next isFormat =>
      refine .singleton fun colon => ?_
      cases rest with
      | nil => exact absurd (by simpa [Text.prefixed] using colon) noColon
      | cons part parts =>
        exact ⟨segment, part ++ Text.prefixed ':' parts,
          Modifier.isKeyword_formatKeyword_iff.1 isFormat, rfl⟩
    · next notFormat =>
      exact .cons noColon (mt Modifier.isKeyword_formatKeyword_iff.2 notFormat) (ih restFree)

/-- Split tokens are formed by some segments: the pattern of the last token is split further,
and takes part in it all. -/
theorem AreSplit.exists_segments {tokens : List Text} (areSplit : AreSplit tokens) :
    ∃ segments : List Text, (∀ segment ∈ segments, ':' ∉ segment) ∧ gather segments = tokens := by
  induction tokens with
  | nil => exact ⟨[], List.forall_mem_nil _, rfl⟩
  | cons token rest ih =>
    cases rest with
    | nil =>
      by_cases colon : ':' ∈ token
      · obtain ⟨keyword, pattern, spelled, rfl⟩ := areSplit.last token rfl colon
        have keywordFree : ':' ∉ keyword := fun member =>
          absurd (spelled.isAlpha (by decide) member) (by decide)
        obtain ⟨firstFree, othersFree⟩ := Text.separator_not_mem_segments ':' pattern
        refine ⟨keyword :: (pattern.segments ':').1 :: (pattern.segments ':').2, ?_, ?_⟩
        · exact List.forall_mem_cons.2
            ⟨keywordFree, List.forall_mem_cons.2 ⟨firstFree, othersFree⟩⟩
        · have joined := Text.segments_join ':' pattern
          rw [gather, if_pos (Modifier.isKeyword_formatKeyword_iff.2 spelled)]
          simpa [Text.prefixed] using joined
      · refine ⟨[token], List.forall_mem_singleton.2 colon, ?_⟩
        unfold gather
        split <;> simp [Text.prefixed, gather]
    | cons next rest =>
      obtain ⟨noColon, notFormat⟩ := areSplit.others token (by simp)
      obtain ⟨segments, segmentsFree, formed⟩ := ih areSplit.tail
      refine ⟨token :: segments, List.forall_mem_cons.2 ⟨noColon, segmentsFree⟩, ?_⟩
      rw [gather, if_neg (mt Modifier.isKeyword_formatKeyword_iff.1 notFormat), formed]

/-- A name without colons and split tokens are read from the body that they make up. -/
theorem ofBody_body_of_areSplit {expression : Expression} (noColon : ':' ∉ expression.name)
    (areSplit : AreSplit expression.modifiers) : ofBody expression.body = expression := by
  obtain ⟨segments, segmentsFree, formed⟩ := areSplit.exists_segments
  rw [body, ← formed, prefixed_gather, ofBody, Text.segments_prefixed noColon segmentsFree]
  exact congrArg (Expression.mk expression.name) formed

/-- The first colon of an expression stands in front of its first modifier. -/
theorem hasModifiers_iff_mem_text {expression : Expression} (noColon : ':' ∉ expression.name) :
    expression.hasModifiers = true ↔ ':' ∈ expression.text := by
  cases modifiers : expression.modifiers <;>
    simp [hasModifiers, text, body, Text.prefixed, modifiers, noColon]

/-- Each body is split into a name without colons and tokens that, joined with colons, are the
body again; no token but the last holds a colon or is `fmt`, and the last holds one only if it
starts with `fmt:`. Conversely every such name and tokens are what the text that joins them is
split into. An expression that occurs in a template has modifiers exactly if its text there
holds a colon. -/
theorem ofBody_exact :
    (∀ body, [':'].intercalate ((ofBody body).name :: (ofBody body).modifiers) = body ∧
      ':' ∉ (ofBody body).name ∧ AreSplit (ofBody body).modifiers) ∧
    (∀ name modifiers, ':' ∉ name → AreSplit modifiers →
      ofBody ([':'].intercalate (name :: modifiers)) = ⟨name, modifiers⟩) ∧
    ∀ template, ∀ occurrence ∈ Template.occurrences template, ∃ before text after,
      template = before ++ text ++ after ∧ occurrence.start = before.utf8Length ∧
      occurrence.stop = before.utf8Length + text.utf8Length ∧
      (occurrence.expression.hasModifiers = true ↔ ':' ∈ text) := by
  refine ⟨fun body => ⟨?_, ?_⟩, fun name modifiers noColon areSplit => ?_,
    fun template occurrence member => ?_⟩
  · rw [Text.intercalate_cons]
    exact body_ofBody body
  · obtain ⟨nameFree, segmentsFree⟩ := Text.separator_not_mem_segments ':' body
    exact ⟨nameFree, areSplit_gather segmentsFree⟩
  · have readBack : ofBody (Expression.body ⟨name, modifiers⟩) = ⟨name, modifiers⟩ :=
      ofBody_body_of_areSplit noColon areSplit
    rw [Text.intercalate_cons]
    exact readBack
  · obtain ⟨before, after, parts, startsAt, stopsAt, wellFormed⟩ :=
      Template.exists_parts_of_mem_occurrences member
    have noColon := (Name.not_mem_of_isValid wellFormed.isExpressionText.1).2.2
    exact ⟨before, occurrence.expression.text, after, parts, startsAt, stopsAt,
      hasModifiers_iff_mem_text noColon⟩

/-- An empty token, and a last one whose pattern holds empty segments; and an expression behind
a stray brace. -/
theorem ofBody_exact_emptySegments :
    let name : Text := "a b".toList
    let modifiers : List Text := [[], "utc".toList, "FmT::H:".toList]
    let template : Text := "é:\x7b\x7bnow:fmt:H:m\x7d".toList
    let occurrence : Occurrence := ⟨⟨"now".toList, ["fmt:H:m".toList]⟩, 4, 17⟩
    ':' ∉ name ∧ AreSplit modifiers ∧ ofBody "a b::utc:FmT::H:".toList = ⟨name, modifiers⟩ ∧
      occurrence ∈ Template.occurrences template ∧
      ∃ before text after, template = before ++ text ++ after ∧
        occurrence.start = before.utf8Length ∧
        occurrence.stop = before.utf8Length + text.utf8Length ∧
        (occurrence.expression.hasModifiers = true ↔ ':' ∈ text) := by
  intro name modifiers template occurrence
  obtain ⟨-, readBack, occurring⟩ := ofBody_exact
  have noColon : ':' ∉ name := by decide
  have areSplit : AreSplit modifiers := by
    apply AreSplit.cons (by decide) (mt Modifier.isKeyword_formatKeyword_iff.2 (by decide))
    apply AreSplit.cons (by decide) (mt Modifier.isKeyword_formatKeyword_iff.2 (by decide))
    apply AreSplit.singleton
    intro _
    exact ⟨"FmT".toList, ":H:".toList, Modifier.isKeyword_formatKeyword_iff.1 (by decide), rfl⟩
  have member : occurrence ∈ Template.occurrences template := by decide
  exact ⟨noColon, areSplit, readBack name modifiers noColon areSplit, member,
    occurring template occurrence member⟩

end Expression
end Stencil
