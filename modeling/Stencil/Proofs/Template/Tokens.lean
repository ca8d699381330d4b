import Stencil.Proofs.Template.Grammar
import Stencil.Proofs.Text.Keywords

/-!
# Tokens that are read as they were written

A segment `fmt` takes all that follows into one token, so not every list of tokens is read
back when it is written behind colons. `AreTokens` describes those that are: single segments,
of which only the last may be `fmt`, or may be a pattern with that keyword in front. Main
statement: `isWellFormed_of_areTokens`.
-/

namespace Stencil

/-- A keyword of letters is a name. -/
theorem Name.isValid_of_isKeyword {name : Text} {keyword : String}
    (isWord : name.isKeyword keyword = true) (letters : keyword.toList.all Char.isAlpha = true)
    (notEmpty : keyword.toList ≠ []) : isValid name = true := by
  have written (c : Char) (member : c ∈ name) : canStart c = true := by
    rw [canStart, Text.isAlpha_of_isKeyword isWord letters member, Bool.true_or]
  cases name with
  | nil => exact absurd rfl (Text.ne_nil_of_isKeyword isWord notEmpty)
  | cons first rest =>
    rw [isValid, Bool.and_eq_true, List.all_eq_true]
    refine ⟨written first (List.mem_cons_self ..), fun c member => ?_⟩
    exact canContinue_of_canStart (written c (List.mem_cons_of_mem _ member))

namespace Expression

/-- The keyword `fmt`, in any ASCII case, with a pattern behind it: segments with a colon in
front of each. -/
def IsPatternToken (token : Text) : Prop :=
  ∃ (keyword : Text) (segments : List Text),
    keyword.isKeyword Modifier.formatKeyword = true ∧ segments ≠ [] ∧
      (∀ segment ∈ segments, IsSegment segment) ∧ token = keyword ++ Text.prefixed ':' segments

/-- Tokens of which each but the last is a segment other than `fmt`, and the last is a
segment or a pattern with its keyword. -/
inductive AreTokens : List Text → Prop
  | nil : AreTokens []
  | last {token} (written : IsSegment token ∨ IsPatternToken token) : AreTokens [token]
  | cons {token rest} (segment : IsSegment token)
      (notFormat : token.isKeyword Modifier.formatKeyword = false) (others : AreTokens rest) :
      AreTokens (token :: rest)

/-- The keyword in front of a pattern is a segment of its own. -/
theorem isSegment_of_isKeyword {keyword : Text}
    (isFormat : keyword.isKeyword Modifier.formatKeyword = true) : IsSegment keyword := by
  have letters : Modifier.formatKeyword.toList.all Char.isAlpha = true := by decide
  have written (c : Char) (member : c ∈ keyword) : c.isAlpha = true :=
    Text.isAlpha_of_isKeyword isFormat letters member
  refine ⟨Text.ne_nil_of_isKeyword isFormat (by decide), ?_, ?_, ?_⟩ <;>
    exact fun member => absurd (written _ member) (by decide)

/-- Such tokens are formed by some segments. -/
theorem AreTokens.exists_segments {tokens : List Text} (areTokens : AreTokens tokens) :
    ∃ segments : List Text, (∀ segment ∈ segments, IsSegment segment) ∧
      gather segments = tokens := by
  induction areTokens with
  | nil => exact ⟨[], List.forall_mem_nil _, rfl⟩
  | @last token written =>
    rcases written with segment | ⟨keyword, segments, isFormat, -, areSegments, rfl⟩
    · refine ⟨[token], List.forall_mem_singleton.2 segment, ?_⟩
      unfold gather
      split <;> simp [Text.prefixed, gather]
    · refine ⟨keyword :: segments, ?_, ?_⟩
      · exact List.forall_mem_cons.2 ⟨isSegment_of_isKeyword isFormat, areSegments⟩
      · rw [gather, if_pos isFormat]
  | @cons token rest segment notFormat _ ih =>
    obtain ⟨segments, areSegments, formed⟩ := ih
    refine ⟨token :: segments, List.forall_mem_cons.2 ⟨segment, areSegments⟩, ?_⟩
    rw [gather, notFormat, formed]
    rfl

/-- A name and such tokens make an expression that a template can hold. -/
theorem isWellFormed_of_areTokens {expression : Expression}
    (valid : Name.isValid expression.name = true) (areTokens : AreTokens expression.modifiers) :
    expression.IsWellFormed := by
  obtain ⟨segments, areSegments, formed⟩ := areTokens.exists_segments
  have wellFormed := isWellFormed_gather valid areSegments
  rwa [formed] at wellFormed

end Expression
end Stencil
