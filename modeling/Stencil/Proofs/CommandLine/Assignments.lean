import Mathlib.Data.List.Induction
import Stencil.Proofs.CommandLine
import Stencil.Proofs.Resolver.Referable

/-!
# Assignments on the command line

Arguments define variables exactly if each of them assigns a value to a name. A name then has
the value of the last argument that assigns one to it, and no other name has any. Otherwise the
first argument that assigns nothing determines the error, whatever follows it. Main statement:
`assignments_exact`.
-/

namespace Stencil

/-- A fold of steps that can fail ends with an error if one of its steps does, after those
before it have succeeded. -/
theorem Except.foldlM_eq_error_iff {ε α β : Type} {step : β → α → Except ε β} {items : List α}
    {start : β} {cause : ε} :
    items.foldlM step start = .error cause ↔
      ∃ before item after state, items = before ++ item :: after ∧
        before.foldlM step start = .ok state ∧ step state item = .error cause := by
  induction items generalizing start with
  | nil => simp [pure, Except.pure]
  | cons first rest ih =>
    rw [List.foldlM_cons]
    cases stepped : step start first with
    | error other =>
      -- The first step fails, so no other can be the one that ends the fold.
      constructor
      · rintro ⟨⟩
        exact ⟨[], first, rest, start, rfl, rfl, stepped⟩
      · rintro ⟨before, item, after, state, parts, passed, failed⟩
        cases before with
        | nil =>
          obtain ⟨rfl, -⟩ := List.cons.inj parts
          cases passed
          exact stepped.symm.trans failed
        | cons _ before =>
          obtain ⟨rfl, -⟩ := List.cons.inj parts
          rw [List.foldlM_cons, stepped] at passed
          cases passed
    | ok next =>
      refine ih.trans ⟨?_, ?_⟩
      · rintro ⟨before, item, after, state, rfl, passed, failed⟩
        refine ⟨first :: before, item, after, state, rfl, ?_, failed⟩
        rwa [List.foldlM_cons, stepped]
      · rintro ⟨before, item, after, state, parts, passed, failed⟩
        cases before with
        | nil =>
          obtain ⟨rfl, -⟩ := List.cons.inj parts
          cases passed
          cases stepped.symm.trans failed
        | cons _ before =>
          obtain ⟨rfl, rfl⟩ := List.cons.inj parts
          rw [List.foldlM_cons, stepped] at passed
          exact ⟨before, item, after, state, rfl, passed, failed⟩

namespace Variables

/-- The last binding of a list is the one made last. -/
theorem ofList_concat (bindings : List (Text × Text)) (binding : Text × Text) :
    ofList (bindings ++ [binding]) = (ofList bindings).insert binding.1 binding.2 := by
  rw [ofList, List.foldl_append]
  rfl

/-- The last binding of a name is the first one from the end. -/
theorem get?_ofList (bindings : List (Text × Text)) (name : Text) :
    (ofList bindings).get? name = bindings.reverse.lookup name := by
  induction bindings using List.reverseRecOn with
  | nil => rfl
  | append_singleton bindings binding ih =>
    rw [ofList_concat, get?_insert, List.reverse_append, List.reverse_singleton,
      List.singleton_append, lookup_cons, ih]

/-- The names that bindings define are those that stand in them. -/
theorem defines_ofList_iff {bindings : List (Text × Text)} {name : Text} :
    (ofList bindings).defines name = true ↔ ∃ binding ∈ bindings, binding.1 = name := by
  rw [defines, get?_ofList, List.lookup_isSome_iff]
  simp only [List.mem_reverse, beq_iff_eq, @eq_comm _ name]

/-- A name has the value that it is bound to last. -/
theorem get?_ofList_eq_some_iff {bindings : List (Text × Text)} {name value : Text} :
    (ofList bindings).get? name = some value ↔
      ∃ before after, bindings = before ++ (name, value) :: after ∧
        ∀ later ∈ after, later.1 ≠ name := by
  rw [get?_ofList, List.lookup_eq_some_iff]
  constructor
  · rintro ⟨after, before, parts, others⟩
    refine ⟨before.reverse, after.reverse, ?_, fun later member => ?_⟩
    · simpa using congrArg List.reverse parts
    · exact Ne.symm (bne_iff_ne.1 (others later (List.mem_reverse.1 member)))
  · rintro ⟨before, after, rfl, others⟩
    refine ⟨after.reverse, before.reverse, by simp, fun later member => ?_⟩
    exact bne_iff_ne.2 (others later (List.mem_reverse.1 member)).symm

end Variables

namespace CommandLine

/-- The argument has the name in front of its first equals sign and the value behind it. -/
def Assigns (argument name value : Text) : Prop :=
  argument = name ++ '=' :: value ∧ '=' ∉ name

/-- Of the arguments that assign a value to the name, the last one assigns this value. -/
def AssignsLast (arguments : List Text) (name value : Text) : Prop :=
  ∃ before argument after, arguments = before ++ argument :: after ∧
    Assigns argument name value ∧ ∀ later ∈ after, ∀ other, ¬ Assigns later name other

/-- What is wrong with an argument that defines no variable: it has no equals sign, or no name
in front of the first one. -/
inductive Refuses : Text → Misuse → Prop
  | noAssignment {argument : Text} (absent : '=' ∉ argument) :
      Refuses argument (.noAssignment argument)
  | invalidName {argument name value : Text} (assigns : Assigns argument name value)
      (notWord : ¬ Name.IsWord name) : Refuses argument (.invalidName name)

/-- Splitting at the first equals sign gives the name and the value that are assigned. -/
theorem assigns_iff_splitFirst? {argument name value : Text} :
    Assigns argument name value ↔ argument.splitFirst? '=' = some (name, value) :=
  Text.splitFirst?_eq_some_iff.symm

/-- An argument that cannot be split has no equals sign. -/
theorem splitFirst?_eq_none_iff {argument : Text} :
    argument.splitFirst? '=' = none ↔ '=' ∉ argument := by
  rw [Text.splitFirst?_eq]
  split <;> simp [*]

/-- The parts of an argument are those of its binding. -/
theorem assigns_iff_binding {argument name value : Text} :
    Assigns argument name value ↔ '=' ∈ argument ∧ binding argument = (name, value) := by
  rw [assigns_iff_splitFirst?, Text.splitFirst?_eq]
  split
  · next present => simp [present, binding]
  · next absent => simp [absent]

/-- An argument is an assignment exactly if it assigns some value to a word. -/
theorem isAssignment_iff {argument : Text} :
    IsAssignment argument ↔ ∃ name value, Assigns argument name value ∧ Name.IsWord name := by
  simp only [assigns_iff_binding, IsAssignment, Name.isValid_iff_isWord]
  constructor
  · rintro ⟨present, word⟩
    exact ⟨_, _, ⟨present, rfl⟩, word⟩
  · rintro ⟨name, value, ⟨present, parts⟩, word⟩
    refine ⟨present, ?_⟩
    rwa [show argument.takeWhile (· ≠ '=') = name from congrArg Prod.fst parts]

/-- Whether an argument is refused, and why, does not depend on those before it. -/
theorem assign_eq_error_iff {vars : Variables} {argument : Text} {misuse : Misuse} :
    assign vars argument = .error misuse ↔ Refuses argument misuse := by
  constructor
  · intro refused
    rw [assign] at refused
    split at refused
    · next absent =>
      cases refused
      exact .noAssignment (splitFirst?_eq_none_iff.1 absent)
    · next name value parts =>
      split at refused
      · cases refused
      · next notValid =>
        cases refused
        exact .invalidName (assigns_iff_splitFirst?.2 parts) (mt Name.isValid_iff_isWord.2 notValid)
  · rintro (absent | ⟨assigns, notWord⟩)
    · rw [assign, splitFirst?_eq_none_iff.2 absent]
    · rw [assign, assigns_iff_splitFirst?.1 assigns]
      exact if_neg (mt Name.isValid_iff_isWord.1 notWord)

/-- Arguments define variables if each of them is an assignment, and only then. -/
theorem exists_assignments_eq_ok_iff {arguments : List Text} :
    (∃ vars, assignments arguments = .ok vars) ↔
      ∀ argument ∈ arguments, IsAssignment argument := by
  constructor
  · rintro ⟨vars, done⟩ argument member
    by_contra other
    obtain ⟨misuse, refused⟩ := exists_assignments_eq_error ⟨argument, member, other⟩
    cases done.symm.trans refused
  · intro assign
    exact ⟨_, assignments_eq_ok assign⟩

/-- The first argument that is refused decides on the error. -/
theorem assignments_eq_error_iff {arguments : List Text} {misuse : Misuse} :
    assignments arguments = .error misuse ↔
      ∃ before argument after, arguments = before ++ argument :: after ∧
        (∀ earlier ∈ before, IsAssignment earlier) ∧ Refuses argument misuse := by
  refine Except.foldlM_eq_error_iff.trans ⟨?_, ?_⟩
  · rintro ⟨before, argument, after, vars, parts, passed, failed⟩
    exact ⟨before, argument, after, parts, exists_assignments_eq_ok_iff.1 ⟨vars, passed⟩,
      assign_eq_error_iff.1 failed⟩
  · rintro ⟨before, argument, after, parts, assign, refuses⟩
    exact ⟨before, argument, after, _, parts, assignments_eq_ok assign,
      assign_eq_error_iff.2 refuses⟩

section Assigned

variable {arguments : List Text} (assign : ∀ argument ∈ arguments, IsAssignment argument)
  {name : Text}
include assign

/-- Among assignments the name in front of the equals sign is the one that is assigned to. -/
theorem fst_binding_eq_iff {argument : Text} (member : argument ∈ arguments) :
    (binding argument).1 = name ↔ ∃ value, Assigns argument name value := by
  constructor
  · rintro rfl
    exact ⟨(binding argument).2, assigns_iff_binding.2 ⟨(assign argument member).1, rfl⟩⟩
  · rintro ⟨value, assigns⟩
    rw [(assigns_iff_binding.1 assigns).2]

/-- The names that have values are those that some argument assigns one to. -/
theorem defines_assigned_iff :
    (assigned arguments).defines name = true ↔
      ∃ argument ∈ arguments, ∃ value, Assigns argument name value := by
  rw [assigned, Variables.defines_ofList_iff]
  simp only [List.mem_map, exists_exists_and_eq_and]
  exact exists_congr fun argument => and_congr_right (fst_binding_eq_iff assign)

/-- A name has the value that is assigned to it last. -/
theorem get?_assigned_eq_some_iff {value : Text} :
    (assigned arguments).get? name = some value ↔ AssignsLast arguments name value := by
  rw [assigned, Variables.get?_ofList_eq_some_iff]
  constructor
  · rintro ⟨_, _, parts, others⟩
    obtain ⟨before, behind, rfl, rfl, split⟩ := List.map_eq_append_iff.1 parts
    obtain ⟨argument, after, rfl, isBinding, rfl⟩ := List.map_eq_cons_iff.1 split
    have present := (assign argument (by simp)).1
    refine ⟨before, argument, after, rfl, assigns_iff_binding.2 ⟨present, isBinding⟩, ?_⟩
    intro later member other assigns
    have named := (fst_binding_eq_iff assign (by simp [member])).2 ⟨other, assigns⟩
    exact others _ (List.mem_map_of_mem member) named
  · rintro ⟨before, argument, after, rfl, assigns, others⟩
    refine ⟨before.map binding, after.map binding, ?_, fun later member named => ?_⟩
    · rw [List.map_append, List.map_cons, (assigns_iff_binding.1 assigns).2]
    · obtain ⟨argument, inAfter, rfl⟩ := List.mem_map.1 member
      obtain ⟨other, assigns⟩ := (fst_binding_eq_iff assign (by simp [inAfter])).1 named
      exact others argument inAfter other assigns

end Assigned

/-- Arguments define variables exactly if each of them has an equals sign and a name in front
of the first one. Then the names in front of these signs are those that have values, each the
text behind the sign in the last argument with the name. Otherwise the first argument that is
of another form determines the error, whatever follows it, and a run with these arguments
fails with the description of that error, which quotes the argument or its name. -/
theorem assignments_exact (arguments : List Text) :
    ((∃ vars, assignments arguments = .ok vars) ↔
      ∀ argument ∈ arguments, ∃ name value, Assigns argument name value ∧ Name.IsWord name) ∧
    (∀ vars, assignments arguments = .ok vars → ∀ name,
      (vars.defines name = true ↔ ∃ argument ∈ arguments, ∃ value, Assigns argument name value) ∧
      ∀ value, vars.get? name = some value ↔ AssignsLast arguments name value) ∧
    (∀ misuse, assignments arguments = .error misuse ↔
      ∃ before argument after, arguments = before ++ argument :: after ∧
        (∀ earlier ∈ before, ∃ name value, Assigns earlier name value ∧ Name.IsWord name) ∧
        Refuses argument misuse) ∧
    (∀ misuse, assignments arguments = .error misuse → ∀ sources found template usage,
      (run sources found (template :: arguments)).outcome usage =
        (.ok { exitCode := 1, failure := some misuse.describe }, usage)) ∧
    (∀ argument, (Misuse.noAssignment argument).describe = Quoted.quote
      ("expected name=value, got ".toList ++ Quoted.quote argument ++ '\n' :: usage)) ∧
    ∀ name, (Misuse.invalidName name).describe =
      "InvalidVariableName(".toList ++ Quoted.quote name ++ [')'] := by
  simp only [← isAssignment_iff]
  refine ⟨exists_assignments_eq_ok_iff, fun vars done name => ?_, fun misuse =>
    assignments_eq_error_iff, fun misuse refused sources found template usage => ?_,
    fun argument => rfl, fun name => rfl⟩
  · have assign := exists_assignments_eq_ok_iff.1 ⟨vars, done⟩
    cases done.symm.trans (assignments_eq_ok assign)
    exact ⟨defines_assigned_iff assign, fun value => get?_assigned_eq_some_iff assign⟩
  · rw [run, parse, refused]
    rfl

/-- The second of two assignments to a name counts although its value is empty, and a value can
hold equals signs. Behind an invalid name nothing is looked at. -/
theorem assignments_exact_reassigned :
    let arguments := ["a=1".toList, "b==2".toList, "a=".toList]
    let refused := ["a=1".toList, "2b=x=y".toList, "c".toList]
    (∃ vars, assignments arguments = .ok vars ∧ vars.get? ['a'] = some [] ∧
      vars.get? ['b'] = some "=2".toList ∧ vars.defines ['c'] = false) ∧
    assignments refused = .error (.invalidName "2b".toList) := by
  intro arguments refused
  obtain ⟨defined, bound, -⟩ := assignments_exact arguments
  have one : Assigns "a=1".toList ['a'] ['1'] := ⟨rfl, by decide⟩
  have two : Assigns "b==2".toList ['b'] "=2".toList := ⟨rfl, by decide⟩
  have again : Assigns "a=".toList ['a'] [] := ⟨rfl, by decide⟩
  have a : Name.IsWord ['a'] := Name.isValid_iff_isWord.1 (by decide)
  have b : Name.IsWord ['b'] := Name.isValid_iff_isWord.1 (by decide)
  constructor
  · obtain ⟨vars, done⟩ := defined.2 (by
      simp only [arguments, List.forall_mem_cons]
      exact ⟨⟨_, _, one, a⟩, ⟨_, _, two, b⟩, ⟨_, _, again, a⟩, List.forall_mem_nil _⟩)
    refine ⟨vars, done, ?_, ?_, ?_⟩
    · exact ((bound vars done ['a']).2 []).2
        ⟨["a=1".toList, "b==2".toList], _, [], rfl, again, List.forall_mem_nil _⟩
    · refine ((bound vars done ['b']).2 _).2 ⟨["a=1".toList], _, ["a=".toList], rfl, two, ?_⟩
      intro later member other assigns
      cases List.mem_singleton.1 member
      exact absurd (assigns_iff_binding.1 assigns).2 (by simp [binding])
    · rw [← Bool.not_eq_true, (bound vars done ['c']).1]
      rintro ⟨argument, member, value, assigns⟩
      have others : ∀ argument ∈ arguments, (binding argument).1 ≠ ['c'] := by decide
      exact others argument member (congrArg Prod.fst (assigns_iff_binding.1 assigns).2)
  · have notWord : ¬ Name.IsWord "2b".toList := mt Name.isValid_iff_isWord.2 (by decide)
    refine ((assignments_exact refused).2.2.1 _).2
      ⟨["a=1".toList], "2b=x=y".toList, ["c".toList], rfl, ?_,
        .invalidName ⟨rfl, by decide⟩ notWord⟩
    exact List.forall_mem_singleton.2 ⟨_, _, one, a⟩

end CommandLine
end Stencil
