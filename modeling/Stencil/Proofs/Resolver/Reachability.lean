import Stencil.Proofs.Resolver.Succession

/-!
# The variables that a template leads to

A template leads to the variables that it refers to, and from there to those that their
values refer to, also where this goes round in circles. A pass over a brace-closed template
leaves a text that refers to no other variables (`ensures_staysWithin_pass`), so maps that
agree on these give the same passes. Main statement: `resolve_eq_of_agreeOn_leadsTo`.
-/

namespace Stencil

/-- Each of the names has the same value in both maps, or no value in either. -/
def Variables.AgreeOn (first second : Variables) (names : Text → Prop) : Prop :=
  ∀ name, names name → first.get? name = second.get? name

namespace Template

/-- The names that occur in the template without modifiers and are not reserved for a
builtin, whether they are defined or not. -/
def references (template : Text) : List Text :=
  ((expressions template).filter fun expression =>
    !expression.hasModifiers && !Builtin.isReserved expression.name).map Expression.name

/-- The least set of names that holds the references of a template and, with each name that
has a value, the references of the value. -/
inductive LeadsTo (vars : Variables) (template : Text) : Text → Prop
  | direct {name} (refers : name ∈ references template) : LeadsTo vars template name
  | onward {name value other} (leads : LeadsTo vars template name)
      (found : vars.get? name = some value) (refers : other ∈ references value) :
      LeadsTo vars template other

/-- Each value that the template leads to is brace-closed. -/
def LeadsToClosed (vars : Variables) (template : Text) : Prop :=
  ∀ name value, LeadsTo vars template name → vars.get? name = some value → IsBraceClosed value

/-- The text is brace-closed and refers only to names that the template leads to. -/
structure StaysWithin (vars : Variables) (template text : Text) : Prop where
  closed : IsBraceClosed text
  leadsTo : ∀ name ∈ references text, LeadsTo vars template name

variable {vars first second : Variables} {template text : Text}

/-- The name of an expression without modifiers is a reference unless it is reserved. -/
theorem name_mem_references {expression : Expression} (member : expression ∈ expressions text)
    (free : Builtin.isReserved expression.name = false) (plain : expression.modifiers = []) :
    expression.name ∈ references text := by
  refine List.mem_map_of_mem (List.mem_filter.2 ⟨member, ?_⟩)
  simp [Expression.hasModifiers, free, plain]

/-- What a text refers to comes from one of its expressions. -/
theorem exists_of_mem_references {name : Text} (refers : name ∈ references text) :
    ∃ expression ∈ expressions text, expression.name = name ∧
      Builtin.isReserved expression.name = false ∧ expression.modifiers = [] := by
  obtain ⟨expression, member, rfl⟩ := List.mem_map.1 refers
  obtain ⟨inText, kind⟩ := List.mem_filter.1 member
  rw [Bool.and_eq_true, Bool.not_eq_true', Bool.not_eq_true'] at kind
  obtain ⟨noModifiers, free⟩ := kind
  exact ⟨expression, inText, rfl, free, by simpa [Expression.hasModifiers] using noModifiers⟩

/-- The name of an expression that refers to a value is among the references. -/
theorem mem_references_of_meaning_eq {expression : Expression} {value : Text}
    (member : expression ∈ expressions text) (refers : expression.meaning vars = .reference value) :
    expression.name ∈ references text := by
  obtain ⟨free, plain, -⟩ := Expression.meaning_eq_reference_iff.1 refers
  exact name_mem_references member free plain

/-- A list of names that holds the references of a template, and those of the values of its
names, holds all that the template leads to. -/
theorem LeadsTo.mem_of_subset {names : List Text} (direct : references template ⊆ names)
    (onward : ∀ name ∈ names, ∀ value ∈ vars.get? name, references value ⊆ names)
    {name : Text} (leads : LeadsTo vars template name) : name ∈ names := by
  induction leads with
  | direct refers => exact direct refers
  | onward _ found refers ih => exact onward _ ih _ found refers

/-- Maps that agree on the names that a template leads to lead to the same names. -/
theorem leadsTo_iff_of_agreeOn (agree : first.AgreeOn second (LeadsTo first template))
    (name : Text) : LeadsTo second template name ↔ LeadsTo first template name := by
  constructor
  · intro leads
    induction leads with
    | direct refers => exact .direct refers
    | onward _ found refers ih => exact .onward ih ((agree _ ih).trans found) refers
  · intro leads
    induction leads with
    | direct refers => exact .direct refers
    | onward leads found refers ih => exact .onward ih ((agree _ leads).symm.trans found) refers

namespace StaysWithin

/-- A text within the template refers to brace-closed values if the template leads to no
others. -/
theorem refersToClosed (within : StaysWithin vars template text)
    (valuesClosed : LeadsToClosed vars template) : RefersToClosed vars text := by
  intro expression member value refers
  have leads := within.leadsTo _ (mem_references_of_meaning_eq member refers)
  exact valuesClosed _ value leads (Expression.get?_of_meaning_eq_reference refers)

/-- Within a template everything stands for the same with maps that agree on the names that
it leads to. -/
theorem meaning_eq (within : StaysWithin first template text)
    (agree : first.AgreeOn second (LeadsTo first template)) {expression : Expression}
    (member : expression ∈ expressions text) :
    expression.meaning first = expression.meaning second := by
  apply Expression.meaning_congr
  intro free plain
  exact agree _ (within.leadsTo _ (name_mem_references member free plain))

end StaysWithin

end Template

open Template

namespace Resolver

variable {resolver : Resolver} {vars first second : Variables} {template text : Text}

/-- A pass stays within the template: a reference that it leaves behind stood there before,
or stands in a value that was referred to. -/
theorem ensures_staysWithin_pass (valuesClosed : LeadsToClosed vars template)
    (within : StaysWithin vars template text) :
    (resolver.pass vars text).Ensures (StaysWithin vars template) := by
  have referencesClosed := within.refersToClosed valuesClosed
  have staysClosed : (resolver.pass vars text).Ensures IsBraceClosed :=
    ensures_isBraceClosed_pass referencesClosed within.closed
  refine (staysClosed.and (ensures_expressions_pass referencesClosed within.closed)).mono ?_
  rintro next ⟨nextClosed, left⟩
  refine ⟨nextClosed, fun name refers => ?_⟩
  obtain ⟨expression, member, rfl, free, plain⟩ := exists_of_mem_references refers
  rw [left] at member
  obtain ⟨origin, isOrigin, isSuccessor⟩ := List.mem_flatMap.1 member
  unfold Expression.successors at isSuccessor
  split at isSuccessor
  · cases isSuccessor
  · next value refersOn =>
    have leads := within.leadsTo _ (mem_references_of_meaning_eq isOrigin refersOn)
    have found := Expression.get?_of_meaning_eq_reference refersOn
    exact .onward leads found (name_mem_references isSuccessor free plain)
  · rw [List.mem_singleton] at isSuccessor
    subst isSuccessor
    exact within.leadsTo _ (name_mem_references isOrigin free plain)

/-- Passes over a text within a template are the same with maps that agree on the names that
the template leads to. The induction is on the number of passes; each stays within the
template. -/
theorem passes_eq_of_staysWithin (agree : first.AgreeOn second (LeadsTo first template))
    (valuesClosed : LeadsToClosed first template) (limit : Nat)
    (within : StaysWithin first template text) :
    resolver.passes first limit text = resolver.passes second limit text := by
  induction limit generalizing text with
  | zero => rfl
  | succ limit ih =>
    have samePass : resolver.pass first text = resolver.pass second text :=
      resolver.pass_congr fun expression member => within.meaning_eq agree member
    rw [passes, passes, ← samePass]
    apply (ensures_staysWithin_pass valuesClosed within).bind_congr
    intro next nextWithin
    rw [ih nextWithin]

/-- A brace-closed template resolves to the same result, a fault included, and with the same
uses of the sources, for two maps that agree on the names that it leads to, if their values
are brace-closed. What the maps hold under other names has no influence. The maps lead to
the same names, so it does not matter for which of them these are determined. -/
theorem resolve_eq_of_agreeOn_leadsTo (closed : IsBraceClosed template)
    (agree : first.AgreeOn second (LeadsTo first template))
    (valuesClosed : LeadsToClosed first template) :
    (∀ (resolver : Resolver) usage, (resolver.resolve first template).outcome usage =
      (resolver.resolve second template).outcome usage) ∧
    ∀ name, LeadsTo second template name ↔ LeadsTo first template name := by
  have within : StaysWithin first template template := ⟨closed, fun _ refers => .direct refers⟩
  refine ⟨fun resolver usage => ?_, leadsTo_iff_of_agreeOn agree⟩
  rw [resolve_eq_passes, resolve_eq_passes, passes_eq_of_staysWithin agree valuesClosed _ within]

/-- Two values lead to each other and to a name that has none. Under a name that occurs with
modifiers only, and under a reserved one, the maps hold different values with stray braces. -/
theorem resolve_eq_of_agreeOn_leadsTo_circle :
    let circle := Variables.ofList
      [("a".toList, "x{b}".toList), ("b".toList, "{a}{NOW:unix}{gone}".toList)]
    let first := circle.insert "z".toList "\x7b".toList
    let second := circle.insert "now".toList "\x7d{a}".toList
    let template := "{a}/{z:x}/{now}".toList
    IsBraceClosed template ∧ first.AgreeOn second (LeadsTo first template) ∧
      LeadsToClosed first template ∧
      (∀ (resolver : Resolver) usage, (resolver.resolve first template).outcome usage =
        (resolver.resolve second template).outcome usage) ∧
      ∀ name, LeadsTo second template name ↔ LeadsTo first template name := by
  intro circle first second template
  have closed : IsBraceClosed template := by decide
  have leads (name : Text) (leads : LeadsTo first template name) :
      name ∈ ["a".toList, "b".toList, "gone".toList] :=
    leads.mem_of_subset (by decide) (by decide)
  have agreeListed : ∀ name ∈ ["a".toList, "b".toList, "gone".toList],
      first.get? name = second.get? name := by decide
  have closedListed : ∀ name ∈ ["a".toList, "b".toList, "gone".toList],
      ∀ value ∈ first.get? name, IsBraceClosed value := by decide
  have agree : first.AgreeOn second (LeadsTo first template) :=
    fun name leadsTo => agreeListed name (leads name leadsTo)
  have valuesClosed : LeadsToClosed first template :=
    fun name value leadsTo found => closedListed name (leads name leadsTo) value found
  exact ⟨closed, agree, valuesClosed, resolve_eq_of_agreeOn_leadsTo closed agree valuesClosed⟩

end Resolver
end Stencil
