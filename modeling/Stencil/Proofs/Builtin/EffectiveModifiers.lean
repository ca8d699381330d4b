import Mathlib.Data.List.Induction
import Mathlib.Logic.Relation
import Stencil.Builtin
import Stencil.Proofs.Modifier.Classes

/-!
# Effective modifiers

Of the zones, formats, patterns and offsets among its modifiers a builtin heeds the last one
each, and of the ranges the first one. `effective` collects these, and the value of a builtin
is a function of them. So a modifier that is overridden or unrecognized may be left out, and
modifiers of different kinds may change places. Main statement:
`outcome_evaluate?_of_effective`.
-/

namespace Stencil

namespace Modifier

/-- The zone that the modifier selects. -/
def toZone? : Modifier → Option Zone
  | .zone selected => some selected
  | _ => none

/-- The named format that the modifier selects. -/
def toPreset? : Modifier → Option Preset
  | .preset selected => some selected
  | _ => none

/-- The pattern that the modifier selects. -/
def toPattern? : Modifier → Option Text
  | .pattern selected => some selected
  | _ => none

/-- The offset that the modifier selects. -/
def toOffset? : Modifier → Option Offset
  | .offset selected => some selected
  | _ => none

/-- At most one modifier of each kind. -/
structure Effective where
  zone : Option Zone
  preset : Option Preset
  pattern : Option Text
  offset : Option Offset
  range : Option Range
  deriving DecidableEq, Repr

/-- The modifiers that count: the first range, and of all other kinds the last one. -/
def effective (modifiers : List Modifier) : Effective where
  zone := (modifiers.filterMap toZone?).getLast?
  preset := (modifiers.filterMap toPreset?).getLast?
  pattern := (modifiers.filterMap toPattern?).getLast?
  offset := (modifiers.filterMap toOffset?).getLast?
  range := (modifiers.filterMap range?).head?

/-- A modifier has no effect between others if it is of no kind, or if another one of its
kind counts. -/
inductive Idle (before : List Modifier) (modifier : Modifier) (after : List Modifier) : Prop
  | unrecognized (noKind : modifier.kind? = none)
  | overridden {kind : Kind} (isKind : modifier.kind? = some kind) (notRange : kind ≠ .range)
      (later : ∃ other ∈ after, other.kind? = some kind)
  | preceded (isRange : modifier.kind? = some .range)
      (earlier : ∃ other ∈ before, other.kind? = some .range)

/-- Tokens come from others by leaving out one without effect, or by two neighbours of
different kinds that change places. -/
inductive Rearranges : List Text → List Text → Prop
  | leaveOut {before after : List Text} {token : Text}
      (idle : Idle (before.map ofToken) (ofToken token) (after.map ofToken)) :
      Rearranges (before ++ token :: after) (before ++ after)
  | swap {before after : List Text} {first second : Text}
      (different : (ofToken first).kind? ≠ (ofToken second).kind?) :
      Rearranges (before ++ first :: second :: after) (before ++ second :: first :: after)

/-! ## Modifiers of one kind -/

/-- The function reads something off the modifiers of the kind and of no other. -/
def Reads {α : Type} (read : Modifier → Option α) (kind : Kind) : Prop :=
  ∀ modifier, read modifier ≠ none ↔ modifier.kind? = some kind

/-- Zones are all that is read where a zone is looked for. -/
theorem reads_toZone? : Reads toZone? .zone := by
  rintro (_ | _ | _ | _ | _ | _) <;> simp [toZone?, kind?]

/-- Presets are all that is read where a preset is looked for. -/
theorem reads_toPreset? : Reads toPreset? .preset := by
  rintro (_ | _ | _ | _ | _ | _) <;> simp [toPreset?, kind?]

/-- Patterns are all that is read where a pattern is looked for. -/
theorem reads_toPattern? : Reads toPattern? .pattern := by
  rintro (_ | _ | _ | _ | _ | _) <;> simp [toPattern?, kind?]

/-- Offsets are all that is read where an offset is looked for. -/
theorem reads_toOffset? : Reads toOffset? .offset := by
  rintro (_ | _ | _ | _ | _ | _) <;> simp [toOffset?, kind?]

/-- Ranges are all that is read where a range is looked for. -/
theorem reads_range? : Reads range? .range := by
  rintro (_ | _ | _ | _ | _ | _) <;> simp [range?, kind?]

section

variable {α : Type} {read : Modifier → Option α} {kind : Kind} {before after : List Modifier}
  {modifier : Modifier}

/-- Nothing is read from a modifier of another kind. -/
theorem Reads.eq_none (reads : Reads read kind) (other : modifier.kind? ≠ some kind) :
    read modifier = none :=
  Classical.not_not.1 fun some => other ((reads modifier).1 some)

/-- Something is read from modifiers if one of them is of the kind. -/
theorem Reads.filterMap_ne_nil (reads : Reads read kind) {modifiers : List Modifier}
    (exists_kind : ∃ other ∈ modifiers, other.kind? = some kind) :
    modifiers.filterMap read ≠ [] := by
  obtain ⟨other, member, isKind⟩ := exists_kind
  intro empty
  exact (reads other).2 isKind (List.filterMap_eq_nil_iff.1 empty other member)

/-- Nothing of a kind is left out with a modifier of another. -/
theorem Reads.filterMap_leaveOut (reads : Reads read kind) (other : modifier.kind? ≠ some kind) :
    (before ++ modifier :: after).filterMap read = (before ++ after).filterMap read := by
  rw [List.filterMap_append, List.filterMap_cons_none (reads.eq_none other), List.filterMap_append]

/-- What is left out without effect is not the last one of a kind that heeds its last one. -/
theorem Reads.getLast?_leaveOut (reads : Reads read kind) (notRange : kind ≠ .range)
    (idle : Idle before modifier after) :
    ((before ++ modifier :: after).filterMap read).getLast? =
      ((before ++ after).filterMap read).getLast? := by
  by_cases other : modifier.kind? ≠ some kind
  · rw [reads.filterMap_leaveOut other]
  have same := Classical.not_not.1 other
  cases idle with
  | unrecognized noKind => cases same.symm.trans noKind
  | preceded isRange earlier =>
    cases same.symm.trans isRange
    exact absurd rfl notRange
  | overridden isKind _ later =>
    cases same.symm.trans isKind
    have notNil := reads.filterMap_ne_nil later
    rw [List.append_cons, List.filterMap_append, List.getLast?_append_of_ne_nil _ notNil,
      List.filterMap_append, List.getLast?_append_of_ne_nil _ notNil]

/-- What is left out without effect is not the first range. -/
theorem Reads.head?_leaveOut (reads : Reads read .range) (idle : Idle before modifier after) :
    ((before ++ modifier :: after).filterMap read).head? =
      ((before ++ after).filterMap read).head? := by
  by_cases other : modifier.kind? ≠ some .range
  · rw [reads.filterMap_leaveOut other]
  have same := Classical.not_not.1 other
  cases idle with
  | unrecognized noKind => cases same.symm.trans noKind
  | overridden isKind notRange _ =>
    cases same.symm.trans isKind
    exact absurd rfl notRange
  | preceded _ earlier =>
    have notNil := reads.filterMap_ne_nil earlier
    rw [List.filterMap_append, List.head?_append_of_ne_nil _ notNil, List.filterMap_append,
      List.head?_append_of_ne_nil _ notNil]

/-- Where two modifiers of different kinds change places, those of each kind keep their order. -/
theorem Reads.filterMap_swap (reads : Reads read kind) {first second : Modifier}
    (different : first.kind? ≠ second.kind?) :
    (before ++ first :: second :: after).filterMap read =
      (before ++ second :: first :: after).filterMap read := by
  have oneReadsNothing : read first = none ∨ read second = none := by
    by_cases isFirst : first.kind? = some kind
    · exact .inr (reads.eq_none fun isSecond => different (isFirst.trans isSecond.symm))
    · exact .inl (reads.eq_none isFirst)
  rcases oneReadsNothing with nothing | nothing <;>
    simp only [List.filterMap_append, List.filterMap_cons, nothing]

/-- A modifier without effect may be left out. -/
theorem Idle.effective_eq (idle : Idle before modifier after) :
    effective (before ++ modifier :: after) = effective (before ++ after) := by
  rw [effective, reads_toZone?.getLast?_leaveOut (by decide) idle,
    reads_toPreset?.getLast?_leaveOut (by decide) idle,
    reads_toPattern?.getLast?_leaveOut (by decide) idle,
    reads_toOffset?.getLast?_leaveOut (by decide) idle, reads_range?.head?_leaveOut idle, effective]

/-- Modifiers of different kinds may change places. -/
theorem effective_swap {first second : Modifier} (different : first.kind? ≠ second.kind?) :
    effective (before ++ first :: second :: after) =
      effective (before ++ second :: first :: after) := by
  rw [effective, reads_toZone?.filterMap_swap different, reads_toPreset?.filterMap_swap different,
    reads_toPattern?.filterMap_swap different, reads_toOffset?.filterMap_swap different,
    reads_range?.filterMap_swap different, effective]

end

/-- A single rearrangement keeps the modifiers in effect. -/
theorem Rearranges.effective_eq {first second : List Text} (rearranges : Rearranges first second) :
    effective (first.map ofToken) = effective (second.map ofToken) := by
  cases rearranges with
  | leaveOut idle =>
    rw [List.map_append, List.map_cons, idle.effective_eq, List.map_append]
  | swap different =>
    rw [List.map_append, List.map_cons, List.map_cons, effective_swap different, List.map_append,
      List.map_cons, List.map_cons]

/-- Any number of steps, in either direction, keeps the effective modifiers. -/
theorem effective_eq_of_eqvGen {first second : List Text}
    (steps : Relation.EqvGen Rearranges first second) :
    effective (first.map ofToken) = effective (second.map ofToken) := by
  induction steps with
  | rel _ _ step => exact step.effective_eq
  | refl _ => rfl
  | symm _ _ _ ih => exact ih.symm
  | trans _ _ _ _ _ ih alsoIh => exact ih.trans alsoIh

end Modifier

open Modifier

/-- The style of a time is made of the effective modifiers. -/
theorem TimeStyle.ofModifiers_eq (modifiers : List Modifier) :
    ofModifiers modifiers =
      { zone := (effective modifiers).zone.getD .utc
        preset := (effective modifiers).preset
        pattern := (effective modifiers).pattern
        offset := (effective modifiers).offset } := by
  induction modifiers using List.reverseRecOn with
  | nil => rfl
  | append_singleton before modifier ih =>
    rw [ofModifiers_append_singleton, ih]
    cases modifier <;>
      simp [effective, select, toZone?, toPreset?, toPattern?, toOffset?, List.filterMap_append]

/-- A random number is drawn from the effective range, or from the default. -/
theorem Range.select_eq (default : Range) (modifiers : List Modifier) :
    select default modifiers = ((effective modifiers).range.getD default).sorted := by
  rw [select, effective, List.head?_filterMap]

namespace Builtin

/-- The value of a builtin is a function of the effective modifiers. -/
theorem value_eq_of_effective_eq (sources : Sources) (default : Range) (builtin : Builtin)
    {first second : List Modifier} (same : effective first = effective second) :
    builtin.value sources default first = builtin.value sources default second := by
  cases builtin with
  | now => simp only [value, Sources.now, TimeStyle.ofModifiers_eq, same]
  | uuid => rfl
  | random => simp only [value, Sources.randomNumber, Range.select_eq, same]

/-- Expressions of one name with the same modifiers in effect have the same value, and use the
sources alike. -/
theorem evaluate?_eq_of_effective_eq (sources : Sources) (default : Range) (name : Text)
    {first second : List Text}
    (same : effective (first.map ofToken) = effective (second.map ofToken)) :
    evaluate? sources default ⟨name, first⟩ = evaluate? sources default ⟨name, second⟩ := by
  unfold evaluate?
  cases ofName? name with
  | none => rfl
  | some builtin =>
    exact congrArg (Functor.map some) (value_eq_of_effective_eq sources default builtin same)

/-- What an expression that may name a builtin gives, and how it uses the sources, depends on
its tokens only through the effective modifiers. So it stays the same in any number of steps
that insert or leave out tokens without effect, or let tokens of different kinds change places. -/
theorem outcome_evaluate?_of_effective (sources : Sources) (default : Range) (name : Text)
    (used : Usage) :
    (∀ first second : List Text,
      effective (first.map ofToken) = effective (second.map ofToken) →
        (evaluate? sources default ⟨name, first⟩).outcome used =
          (evaluate? sources default ⟨name, second⟩).outcome used) ∧
      ∀ first second : List Text, Relation.EqvGen Rearranges first second →
        (evaluate? sources default ⟨name, first⟩).outcome used =
          (evaluate? sources default ⟨name, second⟩).outcome used := by
  refine ⟨fun first second same => ?_, fun first second steps => ?_⟩
  · rw [evaluate?_eq_of_effective_eq sources default name same]
  · rw [evaluate?_eq_of_effective_eq sources default name (effective_eq_of_eqvGen steps)]

/-- Only the first range is drawn from, and a format that another one follows does not matter. -/
theorem outcome_evaluate?_of_effective_overridden :
    let sources : Sources := ⟨.ofTable ⟨0, 0⟩ 60 {}, .ofDraws [7]⟩
    let ranges : List Text := ["5-1".toList, "weekly".toList, "2-9".toList]
    let range : List Text := ["5-1".toList]
    let formats : List Text := ["unix".toList, "+1d".toList, "DATE".toList]
    let format : List Text := ["DATE".toList, "+1d".toList]
    effective (ranges.map ofToken) = effective (range.map ofToken) ∧
      (evaluate? sources ⟨0, 100⟩ ⟨"rand".toList, ranges⟩).outcome {} =
        (.ok (some "3".toList), { requests := [.number ⟨1, 5⟩] }) ∧
      Relation.EqvGen Rearranges formats format ∧
      (evaluate? sources ⟨0, 100⟩ ⟨"now".toList, formats⟩).outcome {} =
        (.ok (some "1970-01-02".toList), { readings := 1 }) := by
  intro sources ranges range formats format
  have same : effective (ranges.map ofToken) = effective (range.map ofToken) := by decide
  have idle : Idle [] (ofToken "unix".toList) (["+1d".toList, "DATE".toList].map ofToken) :=
    .overridden (show _ = some .preset by decide) (by decide) ⟨ofToken "DATE".toList, by decide⟩
  have steps : Relation.EqvGen Rearranges formats format := by
    refine .trans _ _ _ (.rel _ _ (@Rearranges.leaveOut [] _ _ idle)) (.rel _ _ ?_)
    exact @Rearranges.swap [] [] _ _ (by decide)
  have number := (outcome_evaluate?_of_effective sources ⟨0, 100⟩ "rand".toList {}).1 _ _ same
  have day := (outcome_evaluate?_of_effective sources ⟨0, 100⟩ "now".toList {}).2 _ _ steps
  refine ⟨same, number.trans ?_, steps, day.trans ?_⟩
  · simp only [sources, range]
    rfl
  · simp only [sources, format]
    rfl

end Builtin
end Stencil
