import Stencil.Proofs.Resolver.Surroundings

/-!
# Chains of references

Where each value holds one reference, with texts around it that hold no brace, a reference
leads from name to name. Each pass follows one link: it moves the reference to the next name
and leaves the texts of the link around it. So resolving follows as many links as there are
passes, or as many as there are before a name that is undefined, no matter whether the names
come back to one that was there before. Main statement: `resolve_chain`.
-/

namespace Stencil

/-- A reference to a variable between texts without braces. -/
structure Link where
  before : Text
  next : Text
  after : Text
  isBraceFree_before : before.IsBraceFree := by decide
  isBraceFree_after : after.IsBraceFree := by decide
  isValid_next : Name.isValid next = true := by decide
  isReserved_next : Builtin.isReserved next = false := by decide

/-- The text of a link. -/
def Link.text (link : Link) : Text :=
  link.before ++ link.next.braced ++ link.after

/-- A variable to start from, and the link that leads on from each name. -/
structure Chain where
  start : Text
  link : Text → Link
  isValid_start : Name.isValid start = true := by decide
  isReserved_start : Builtin.isReserved start = false := by decide

namespace Chain

variable (chain : Chain)

/-- The name that is reached by following so many links. -/
def name : Nat → Text
  | 0 => chain.start
  | count + 1 => (chain.link (name count)).next

/-- The texts in front of the first links, from left to right. -/
def before (count : Nat) : Text :=
  (List.range count).flatMap fun i => (chain.link (chain.name i)).before

/-- The texts behind the first links: what is behind the last link comes first. -/
def after (count : Nat) : Text :=
  (List.range count).reverse.flatMap fun i => (chain.link (chain.name i)).after

/-- The reference that is reached by following so many links, with the texts around it. -/
def text (count : Nat) : Text :=
  chain.before count ++ (chain.name count).braced ++ chain.after count

/-- The first number of links behind which the name is undefined, but no more than the limit. -/
def stop (vars : Variables) (limit : Nat) : Nat :=
  ((List.range limit).find? fun i => !vars.defines (chain.name i)).getD limit

/-- The values of the variables are the links. -/
def IsIn (vars : Variables) : Prop :=
  ∀ name value, vars.get? name = some value → value = (chain.link name).text

/-- The chain is in variables if each binding is a link. -/
theorem isIn_of_forall_bindings {chain : Chain} {vars : Variables}
    (links : ∀ binding ∈ vars.bindings, binding.2 = (chain.link binding.1).text) :
    chain.IsIn vars :=
  fun _ _ found => links _ (Variables.mem_bindings_of_get? found)

/-- Every name of the chain is a valid one. -/
theorem isValid_name (count : Nat) : Name.isValid (chain.name count) = true := by
  cases count with
  | zero => exact chain.isValid_start
  | succ count => exact (chain.link (chain.name count)).isValid_next

/-- No name of the chain is reserved. -/
theorem isReserved_name (count : Nat) : Builtin.isReserved (chain.name count) = false := by
  cases count with
  | zero => exact chain.isReserved_start
  | succ count => exact (chain.link (chain.name count)).isReserved_next

/-- The text in front of a further link is added at the end. -/
theorem before_succ (count : Nat) :
    chain.before (count + 1) = chain.before count ++ (chain.link (chain.name count)).before := by
  simp [before, List.range_succ]

/-- The text behind a further link is added in front. -/
theorem after_succ (count : Nat) :
    chain.after (count + 1) = (chain.link (chain.name count)).after ++ chain.after count := by
  simp [after, List.range_succ]

/-- No brace stands in front of the reference that is reached. -/
theorem isBraceFree_before (count : Nat) : (chain.before count).IsBraceFree := by
  induction count with
  | zero => exact Text.isBraceFree_nil
  | succ count ih =>
    rw [before_succ]
    exact Text.isBraceFree_append.2 ⟨ih, (chain.link _).isBraceFree_before⟩

/-- No brace stands behind the reference that is reached. -/
theorem isBraceFree_after (count : Nat) : (chain.after count).IsBraceFree := by
  induction count with
  | zero => exact Text.isBraceFree_nil
  | succ count ih =>
    rw [after_succ]
    exact Text.isBraceFree_append.2 ⟨(chain.link _).isBraceFree_after, ih⟩

/-- Before any link is followed there is the reference to the start. -/
@[simp] theorem text_zero : chain.text 0 = chain.start.braced :=
  List.append_nil _

/-- Following one more link puts the text of the link in place of the reference. -/
theorem text_succ (count : Nat) :
    chain.text (count + 1) =
      chain.before count ++ (chain.link (chain.name count)).text ++ chain.after count := by
  simp [text, before_succ, after_succ, Link.text, name]

/-- Each name before the stop is defined, and a stop before the limit is at a name that is
undefined. -/
structure StopsAt (vars : Variables) (limit stop : Nat) : Prop where
  le : stop ≤ limit
  defined : ∀ count < stop, vars.defines (chain.name count) = true
  undefined : stop < limit → vars.defines (chain.name stop) = false

/-- The computed stop is the stop. -/
theorem stopsAt_stop (vars : Variables) (limit : Nat) :
    chain.StopsAt vars limit (chain.stop vars limit) := by
  rw [stop]
  cases found : (List.range limit).find? fun i => !vars.defines (chain.name i) with
  | none =>
    refine ⟨Nat.le_refl limit, fun count below => ?_, fun before => ?_⟩
    · simpa using List.find?_eq_none.1 found count (List.mem_range.2 below)
    · exact absurd before (Nat.lt_irrefl limit)
  | some first =>
    obtain ⟨undefined, inRange, least⟩ := List.find?_range_eq_some.1 found
    refine ⟨?_, fun count before => ?_, fun _ => ?_⟩
    · exact Nat.le_of_lt (List.mem_range.1 inRange)
    · simpa using least count before
    · simpa using undefined

end Chain

namespace Resolver

variable {resolver : Resolver} {vars : Variables} {chain : Chain}

/-- A reference is replaced by the value of the variable, if it is defined. -/
theorem replacement_reference {name : Text} (free : Builtin.isReserved name = false) :
    resolver.replacement vars ⟨name, []⟩ = pure ((vars.get? name).getD name.braced) := by
  have noBuiltin : Builtin.ofName? name = none := by
    simpa [Builtin.isReserved] using free
  simp only [replacement, noBuiltin]
  cases vars.get? name with
  | none => exact congrArg pure (Expression.text_plain name)
  | some value => rfl

/-- A pass replaces the reference of a chain where it is. -/
theorem pass_text_chain (count : Nat) :
    resolver.pass vars (chain.text count) =
      pure (chain.before count ++
        (vars.get? (chain.name count)).getD (chain.name count).braced ++ chain.after count) := by
  have wellFormed : (⟨chain.name count, []⟩ : Expression).IsWellFormed :=
    Expression.isWellFormed_gather (chain.isValid_name count) (List.forall_mem_nil _)
  rw [Chain.text, ← Expression.text_plain, pass_around resolver vars wellFormed,
    pass_of_isSettled (Template.isSettled_of_isBraceFree (chain.isBraceFree_before count)),
    pass_of_isSettled (Template.isSettled_of_isBraceFree (chain.isBraceFree_after count)),
    replacement_reference (chain.isReserved_name count), Expression.text_plain]
  simp

/-- A pass follows the next link where the name that was reached is defined. -/
theorem pass_chain (isIn : chain.IsIn vars) {count : Nat}
    (defined : vars.defines (chain.name count) = true) :
    resolver.pass vars (chain.text count) = pure (chain.text (count + 1)) := by
  obtain ⟨value, found⟩ := Option.isSome_iff_exists.1 defined
  rw [pass_text_chain, found, isIn _ _ found, Chain.text_succ]
  rfl

/-- A pass changes nothing where the name that was reached is undefined. -/
theorem pass_chain_of_undefined {count : Nat}
    (undefined : vars.defines (chain.name count) = false) :
    resolver.pass vars (chain.text count) = pure (chain.text count) := by
  have missing : vars.get? (chain.name count) = none := by
    simpa [Variables.defines] using undefined
  rw [pass_text_chain, missing]
  rfl

/-- The passes that are left lead from every link before the stop to the stop. The induction is
on these passes; where a link leads back to its own text, leaving out the others makes no
difference. -/
theorem passes_chain (isIn : chain.IsIn vars) {limit stop left count : Nat}
    (stops : chain.StopsAt vars limit stop) (sum : count + left = limit) (le : count ≤ stop) :
    resolver.passes vars left (chain.text count) = pure (chain.text stop) := by
  induction left generalizing count with
  | zero =>
    obtain rfl : count = stop := Nat.le_antisymm le (Nat.le_trans stops.le (Nat.le_of_eq sum.symm))
    rfl
  | succ left ih =>
    rcases Nat.lt_or_eq_of_le le with before | rfl
    · rw [passes_succ_of_pass_eq_pure (pass_chain isIn (stops.defined count before))]
      exact ih (by omega) before
    · have undefined := stops.undefined (by omega)
      exact passes_of_pass_eq_pure (pass_chain_of_undefined undefined) (left + 1)

/-- Where each value is a link, resolving a reference follows its chain by as many links as
there are passes, or to the first name that is undefined if that comes earlier. What it gives is
the text there: the texts in front of the links from the first to the last, the reference that
is reached, and the texts behind the links from the last to the first. -/
theorem resolve_chain (resolver : Resolver) {vars : Variables} {chain : Chain}
    (isIn : chain.IsIn vars) :
    resolver.resolve vars chain.start.braced =
      pure (chain.text (chain.stop vars resolver.settings.passes)) := by
  rw [← chain.text_zero, resolve_eq_passes]
  exact passes_chain isIn (chain.stopsAt_stop vars _) (Nat.zero_add _) (Nat.zero_le _)

/-- Two names that refer to each other are followed to the limit of five passes, a name that
refers to itself comes to rest, and another chain ends at an undefined name. -/
theorem resolve_chain_cycle :
    let vars := Variables.ofList [("a".toList, "<{b}>".toList), ("b".toList, "[{a}]".toList),
      ("c".toList, "{c}".toList), ("d".toList, "-{e}".toList)]
    let resolver : Resolver := ⟨.still ⟨1718447445, 0⟩ {} 7, { maxPasses := 5 }⟩
    let link (name : Text) : Link :=
      if name = "a".toList then { before := "<".toList, next := "b".toList, after := ">".toList }
      else if name = "b".toList then
        { before := "[".toList, next := "a".toList, after := "]".toList }
      else if name = "c".toList then { before := [], next := "c".toList, after := [] }
      else { before := "-".toList, next := "e".toList, after := [] }
    let cycle : Chain := { start := "a".toList, link }
    let loop : Chain := { start := "c".toList, link }
    let ending : Chain := { start := "d".toList, link }
    cycle.IsIn vars ∧ resolver.resolve vars "{a}".toList = pure "<[<[<{b}>]>]>".toList ∧
    loop.IsIn vars ∧ resolver.resolve vars "{c}".toList = pure "{c}".toList ∧
    ending.IsIn vars ∧ resolver.resolve vars "{d}".toList = pure "-{e}".toList := by
  intro vars resolver link cycle loop ending
  have links : ∀ binding ∈ vars.bindings, binding.2 = (link binding.1).text := by decide
  have cycleIn : cycle.IsIn vars := Chain.isIn_of_forall_bindings links
  have loopIn : loop.IsIn vars := Chain.isIn_of_forall_bindings links
  have endingIn : ending.IsIn vars := Chain.isIn_of_forall_bindings links
  have cycleText : cycle.text (cycle.stop vars resolver.settings.passes) =
      "<[<[<{b}>]>]>".toList := by decide +kernel
  have loopText : loop.text (loop.stop vars resolver.settings.passes) = "{c}".toList := by
    decide +kernel
  have endingText : ending.text (ending.stop vars resolver.settings.passes) = "-{e}".toList := by
    decide +kernel
  refine ⟨cycleIn, ?_, loopIn, ?_, endingIn, ?_⟩
  · exact (resolve_chain resolver cycleIn).trans (congrArg pure cycleText)
  · exact (resolve_chain resolver loopIn).trans (congrArg pure loopText)
  · exact (resolve_chain resolver endingIn).trans (congrArg pure endingText)

end Resolver
end Stencil
