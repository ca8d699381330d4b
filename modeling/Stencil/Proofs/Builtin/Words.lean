import Stencil.Builtin
import Stencil.Proofs.Text.Keywords

/-!
# The words for builtins

A builtin goes by its name and by further names. These are five words, and a name is that of a
builtin exactly if it is a spelling of one of them (`ofName?_eq_named?`).
-/

namespace Stencil.Builtin

/-- The words for builtins, each with the builtin that it stands for. -/
def words : List (String × Builtin) :=
  [("now", .now), ("timestamp", .now), ("uuid", .uuid), ("random", .random), ("rand", .random)]

/-- No word is written in capitals, and none stands for two builtins. -/
theorem isKeywordTable_words : Text.IsKeywordTable words :=
  ⟨by decide, by decide⟩

/-- Builtins are recognized by the five words and by nothing else. -/
theorem ofName?_eq_named? (name : Text) : ofName? name = name.named? words := by
  simp only [ofName?, all, isNamed, Builtin.name, aliases, Text.named?, words, List.find?_cons,
    List.any_cons, List.any_nil, Bool.or_false]
  cases name.isKeyword "now" <;> cases name.isKeyword "timestamp" <;>
    cases name.isKeyword "uuid" <;> cases name.isKeyword "random" <;>
      cases name.isKeyword "rand" <;> rfl

/-- The reserved names are five words in any ASCII case. -/
theorem isReserved_iff (name : Text) :
    isReserved name = true ↔
      ∃ word ∈ ["now", "timestamp", "uuid", "random", "rand"], name.isKeyword word = true := by
  simp [isReserved, ofName?, all, isNamed, Builtin.name, aliases, or_assoc]

/-- Every name but the five words may belong to a variable. -/
theorem isReserved_eq_false_iff (name : Text) :
    isReserved name = false ↔
      ∀ word ∈ ["now", "timestamp", "uuid", "random", "rand"], name.isKeyword word = false := by
  rw [← Bool.not_eq_true, isReserved_iff]
  simp only [not_exists, not_and, Bool.not_eq_true]

end Stencil.Builtin
