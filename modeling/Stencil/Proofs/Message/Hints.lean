import Mathlib.Data.List.Basic
import Mathlib.Data.List.Induction
import Stencil.Message
import Stencil.Proofs.Builtin.Words

/-!
# Hints for a message

The hints are the names of the message with all but the first occurrence of each removed, of
which those are kept that are neither reserved nor defined. Which names are kept does not depend
on where they occur, so a definition takes its name out of the list and leaves the rest in
order. Main statement: `hints_exact`.
-/

namespace Stencil

namespace Hints

variable {α : Type} [BEq α] [LawfulBEq α]

/-- The last element is kept if it occurs for the first time. -/
theorem eraseDups_concat (before : List α) (last : α) :
    (before ++ [last]).eraseDups =
      if before.contains last then before.eraseDups else before.eraseDups ++ [last] := by
  rw [List.eraseDups_append]
  by_cases seen : last ∈ before <;> simp [List.removeAll, List.eraseDups_cons, seen]

/-- It does not matter whether elements are left out before repetitions are, or after that. -/
theorem eraseDups_filter (keep : α → Bool) (elements : List α) :
    (elements.filter keep).eraseDups = elements.eraseDups.filter keep := by
  induction elements using List.reverseRecOn with
  | nil => rfl
  | append_singleton before last ih =>
    rw [List.filter_append, eraseDups_concat]
    by_cases kept : keep last = true
    · rw [List.filter_cons_of_pos kept, List.filter_nil, eraseDups_concat, ih]
      by_cases seen : last ∈ before <;> simp [seen, kept]
    · rw [List.filter_cons_of_neg kept, List.filter_nil, List.append_nil, ih]
      by_cases seen : last ∈ before <;> simp [seen, kept]

/-- What is left is in the order of first occurrences. -/
theorem pairwise_idxOf_eraseDups (elements : List α) :
    elements.eraseDups.Pairwise fun earlier later =>
      elements.idxOf earlier < elements.idxOf later := by
  induction elements using List.reverseRecOn with
  | nil => exact .nil
  | append_singleton before last ih =>
    have place {element : α} (member : element ∈ before.eraseDups) :
        (before ++ [last]).idxOf element = before.idxOf element :=
      List.idxOf_append_of_mem (List.mem_eraseDups.1 member)
    have kept : before.eraseDups.Pairwise fun earlier later =>
        (before ++ [last]).idxOf earlier < (before ++ [last]).idxOf later := by
      refine ih.imp_of_mem fun inFront behind ordered => ?_
      rwa [place inFront, place behind]
    rw [eraseDups_concat]
    split
    · exact kept
    · next unseen =>
      rw [List.contains_iff_mem] at unseen
      refine List.pairwise_append.2 ⟨kept, List.pairwise_singleton _ _, fun earlier member => ?_⟩
      rw [List.forall_mem_singleton, place member, List.idxOf_append_of_notMem unseen]
      exact Nat.lt_add_right _ (List.idxOf_lt_length_iff.2 (List.mem_eraseDups.1 member))

end Hints

/-- Whether the name is neither reserved nor defined. -/
def Variables.misses (vars : Variables) (name : Text) : Bool :=
  !Builtin.isReserved name && !vars.defines name

/-- A name is missed exactly if it is neither reserved nor defined. -/
theorem Variables.misses_iff {vars : Variables} {name : Text} :
    vars.misses name = true ↔ Builtin.isReserved name = false ∧ vars.get? name = none := by
  simp [misses, defines]

/-- A definition makes its own name known and no other. -/
theorem Variables.misses_insert (vars : Variables) (name value other : Text) :
    (vars.insert name value).misses other = (vars.misses other && decide (other ≠ name)) := by
  rw [misses, misses, defines, defines, get?_insert]
  by_cases same : other = name <;> simp [same]

/-- Removing a definition of a name that was unknown gives back the same names. -/
theorem Variables.misses_erase_insert {vars : Variables} {name : Text}
    (undefined : vars.get? name = none) (value other : Text) :
    ((vars.insert name value).erase name).misses other = vars.misses other := by
  rw [misses, misses, defines, defines, get?_erase, get?_insert]
  by_cases same : other = name <;> simp [same, undefined]

namespace Message

variable {vars : Variables} {message : Message}

/-- The names of the expressions of the topic and then of the payload. -/
def names (message : Message) : List Text :=
  Template.names message.topic ++ message.payload.toList.flatMap Template.names

/-- The hints are the names at their first occurrences, less those that are reserved or
defined. -/
theorem missing_hints_eq (vars : Variables) (message : Message) :
    (message.hints vars).missing = message.names.eraseDups.filter vars.misses := by
  have ofTemplate : Template.missingNames vars =
      fun template => (Template.names template).filter vars.misses := by
    funext template
    rw [Template.missingNames, Template.userNames, List.filter_filter]
    exact List.filter_congr fun name _ => Bool.and_comm ..
  have ofTemplates : message.names = message.templates.flatMap Template.names := rfl
  simp only [hints, ofTemplate, ← Hints.eraseDups_filter, ofTemplates, List.filter_flatMap]

/-- A name of the message is the name of an expression of the topic or of the payload. -/
theorem mem_names_iff {name : Text} : name ∈ message.names ↔
    (∃ expression ∈ Template.expressions message.topic, expression.name = name) ∨
      ∃ payload ∈ message.payload, ∃ expression ∈ Template.expressions payload,
        expression.name = name := by
  simp only [names, Template.names, List.mem_append, List.mem_flatMap, List.mem_map,
    Option.mem_toList, Option.mem_def]

/-- The hints for a message are the names of expressions of its topic or its payload that are
no words for builtins and are undefined, each once, in the order in which they occur first in
the topic followed by the payload. Defining a name, with whatever value, takes it out of the
hints and changes nothing else; removing the definition of a name that was undefined restores
them. -/
theorem hints_exact (vars : Variables) (message : Message) :
    let inOrder : List Text := (Template.expressions message.topic ++
      message.payload.toList.flatMap Template.expressions).map Expression.name
    (message.hints vars).missing.Nodup ∧
    (∀ name, name ∈ (message.hints vars).missing ↔
      ((∃ expression ∈ Template.expressions message.topic, expression.name = name) ∨
        ∃ payload ∈ message.payload, ∃ expression ∈ Template.expressions payload,
          expression.name = name) ∧
      (∀ word ∈ ["now", "timestamp", "uuid", "random", "rand"], name.isKeyword word = false) ∧
      vars.get? name = none) ∧
    ((message.hints vars).missing.Pairwise fun earlier later =>
      inOrder.idxOf earlier < inOrder.idxOf later) ∧
    (∀ name value, (message.hints (vars.insert name value)).missing =
      (message.hints vars).missing.filter (· ≠ name)) ∧
    ∀ name value, vars.get? name = none →
      message.hints ((vars.insert name value).erase name) = message.hints vars := by
  intro inOrder
  have allNames : inOrder = message.names := by
    simp only [inOrder, names, List.map_append, List.map_flatMap]
    rfl
  have ordered : (message.hints vars).missing.Pairwise fun earlier later =>
      inOrder.idxOf earlier < inOrder.idxOf later := by
    rw [missing_hints_eq, allNames]
    exact (Hints.pairwise_idxOf_eraseDups message.names).filter _
  refine ⟨?_, fun name => ?_, ordered, fun name value => ?_, fun name value undefined => ?_⟩
  · exact ordered.imp fun before same => Nat.ne_of_lt before (congrArg inOrder.idxOf same)
  · rw [missing_hints_eq, List.mem_filter, List.mem_eraseDups, mem_names_iff,
      Variables.misses_iff, Builtin.isReserved_eq_false_iff]
  · rw [missing_hints_eq, missing_hints_eq, List.filter_filter]
    refine List.filter_congr fun other _ => ?_
    rw [Variables.misses_insert, Bool.and_comm]
  · rw [Hints.mk.injEq, missing_hints_eq, missing_hints_eq]
    exact List.filter_congr fun other _ => Variables.misses_erase_insert undefined value other

/-- A name that topic and payload have in common, and one of the payload alone, are undefined,
and another name is defined. Any definition of the first leaves the second. -/
theorem hints_exact_restored :
    let vars := Variables.ofList [("mac".toList, "00:1A".toList)]
    let message : Message :=
      { topic := "\x7bsite\x7d/\x7bmac\x7d/\x7bUuid\x7d".toList
        payload := some "\x7bzone:x\x7d\x7bsite\x7d".toList }
    (message.hints vars).missing = ["site".toList, "zone".toList] ∧
      (∀ value, (message.hints (vars.insert "site".toList value)).missing = ["zone".toList]) ∧
      vars.get? "site".toList = none ∧
      ∀ value, message.hints ((vars.insert "site".toList value).erase "site".toList) =
        message.hints vars := by
  intro vars message
  obtain ⟨-, -, -, defined, restored⟩ := hints_exact vars message
  have both : (message.hints vars).missing = ["site".toList, "zone".toList] := by decide
  have undefined : vars.get? "site".toList = none := by decide
  refine ⟨both, fun value => ?_, undefined, fun value => restored _ value undefined⟩
  rw [defined, both]
  rfl

end Message
end Stencil
