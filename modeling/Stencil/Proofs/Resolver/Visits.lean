import Stencil.Proofs.Resolver.Usage

/-!
# Which expressions are evaluated

Resolving visits the expressions of a template from left to right, then those of the text that
the first pass has made of it, and so on, until a pass changes nothing, the passes are used up,
or a time is stopped. What is visited determines all uses of the sources, also where resolving
is stopped. Main statements: `mem_visitedByPasses_iff`, `makes_resolve`, `makes_resolveMessage`,
`makes_resolveFilters`.
-/

namespace Stencil

namespace Eval

variable {α β ι : Type}

/-- What an evaluation visits and then another that goes on from its result. Nothing more is
visited after a fault. -/
def visitedThen (first : Eval α) (visited : Usage → List ι) (next : α → Usage → List ι)
    (usage : Usage) : List ι :=
  visited usage ++
    match first.outcome usage with
    | (.ok a, used) => next a used
    | (.error _, _) => []

/-- What evaluations visit that are made one after the other. -/
def visitedEach (each : α → Eval β) (visited : α → Usage → List ι) : List α → Usage → List ι
  | [] => fun _ => []
  | item :: rest => (each item).visitedThen (visited item) fun _ => visitedEach each visited rest

/-- What is visited is visited by the first part, or by the second part if the first one is not
stopped. -/
theorem mem_visitedThen {first : Eval α} {visited : Usage → List ι}
    {next : α → Usage → List ι} {usage : Usage} {i : ι} :
    i ∈ first.visitedThen visited next usage ↔
      i ∈ visited usage ∨
        ∃ a used, first.outcome usage = (.ok a, used) ∧ i ∈ next a used := by
  rw [visitedThen, List.mem_append]
  refine or_congr_right ?_
  rcases first.outcome usage with ⟨result, used⟩
  cases result with
  | error fault => simp
  | ok a =>
    constructor
    · intro member
      exact ⟨a, used, rfl, member⟩
    · rintro ⟨_, _, same, member⟩
      cases same
      exact member

/-- What each item visits is visited with what those before it have used. -/
theorem mem_visitedEach {each : α → Eval β} {visited : α → Usage → List ι} {items : List α}
    {usage : Usage} {i : ι} :
    i ∈ visitedEach each visited items usage ↔
      ∃ before item after results used, items = before ++ item :: after ∧
        (before.mapM each).outcome usage = (.ok results, used) ∧ i ∈ visited item used := by
  induction items generalizing usage with
  | nil => simp [visitedEach]
  | cons first rest ih =>
    rw [visitedEach, mem_visitedThen]
    constructor
    · rintro (here | ⟨b, between, started, later⟩)
      · exact ⟨[], first, rest, [], usage, rfl, rfl, here⟩
      · obtain ⟨before, item, after, results, used, rfl, done, member⟩ := ih.1 later
        exact ⟨first :: before, item, after, b :: results, used, rfl,
          outcome_mapM_cons_eq_ok_iff.2 ⟨b, between, results, started, done, rfl⟩, member⟩
    · rintro ⟨before, item, after, results, used, parts, done, member⟩
      cases before with
      | nil =>
        obtain ⟨rfl, -⟩ := List.cons.inj parts
        rw [List.mapM_nil, outcome_pure] at done
        cases done
        exact .inl member
      | cons _ before =>
        obtain ⟨rfl, restParts⟩ := List.cons.inj parts
        obtain ⟨b, between, fewer, started, done, -⟩ := outcome_mapM_cons_eq_ok_iff.1 done
        exact .inr ⟨b, between, started,
          ih.2 ⟨before, item, after, fewer, used, restParts, done, member⟩⟩

end Eval

namespace Resolver

variable (resolver : Resolver) (vars : Variables)

/-- The expressions that a pass over a template visits. -/
def visitedByPass (template : Text) : Usage → List Expression :=
  Eval.visitedEach (resolver.replacePiece vars) (fun piece _ => piece.expression?.toList)
    (Template.pieces template)

/-- The expressions that so many passes visit at most. -/
def visitedByPasses : Nat → Text → Usage → List Expression
  | 0, _ => fun _ => []
  | limit + 1, template =>
    (resolver.pass vars template).visitedThen (resolver.visitedByPass vars template) fun next =>
      if next = template then fun _ => [] else visitedByPasses limit next

/-- The expressions that resolving a template visits. -/
def visited (template : Text) : Usage → List Expression :=
  resolver.visitedByPasses vars resolver.settings.passes template

/-- The expressions that resolving templates one after the other visits. -/
def visitedByAll (templates : List Text) : Usage → List Expression :=
  Eval.visitedEach (resolver.resolve vars) (resolver.visited vars) templates

/-- The expressions visited are those that the passes evaluate. The induction is on the number
of passes. -/
theorem mem_visitedByPasses_iff {limit : Nat} {template : Text} {usage : Usage}
    {expression : Expression} :
    expression ∈ resolver.visitedByPasses vars limit template usage ↔
      ∃ used, resolver.Evaluates vars limit template usage expression used := by
  induction limit generalizing template usage with
  | zero =>
    refine iff_of_false List.not_mem_nil ?_
    rintro ⟨used, evaluates⟩
    cases evaluates
  | succ limit ih =>
    rw [visitedByPasses, Eval.mem_visitedThen, visitedByPass, Eval.mem_visitedEach]
    constructor
    · rintro (⟨before, piece, after, results, used, parts, done, member⟩ |
        ⟨next, between, passed, later⟩)
      · cases piece with
        | char c => cases member
        | expression other =>
          cases List.mem_singleton.1 member
          exact ⟨used, .first parts done⟩
      · split at later
        · cases later
        · next changed =>
          obtain ⟨used, onward⟩ := ih.1 later
          exact ⟨used, .later passed changed onward⟩
    · rintro ⟨used, evaluates⟩
      cases evaluates with
      | first parts done =>
        exact .inl ⟨_, _, _, _, _, parts, done, List.mem_singleton_self _⟩
      | later passed changed onward =>
        exact .inr ⟨_, _, passed, by rw [if_neg changed]; exact ih.2 ⟨used, onward⟩⟩

/-- The evaluation makes the uses of all expressions that it visits and no others, also where
it is stopped. -/
def Makes {α : Type} (evaluation : Eval α) (visited : Usage → List Expression) : Prop :=
  ∀ usage, (evaluation.outcome usage).2 = usage ++ resolver.uses (visited usage)

section Makes

variable {resolver} {α β : Type}

/-- A value that is given uses nothing. -/
theorem makes_pure (a : α) : resolver.Makes (pure a) fun _ => [] :=
  fun usage => (Usage.append_empty usage).symm

/-- A sequence makes the uses of what its parts visit. -/
theorem Makes.bind {first : Eval α} {next : α → Eval β} {visited : Usage → List Expression}
    {nextVisited : α → Usage → List Expression} (firstMakes : resolver.Makes first visited)
    (nextMakes : ∀ a, resolver.Makes (next a) (nextVisited a)) :
    resolver.Makes (first >>= next) (first.visitedThen visited nextVisited) := by
  intro usage
  have before := firstMakes usage
  rw [Eval.outcome_bind, Eval.visitedThen]
  rcases run : first.outcome usage with ⟨result, used⟩
  rw [run] at before
  subst before
  cases result with
  | error fault => rw [List.append_nil]; rfl
  | ok a => rw [Eval.proceed, nextMakes, uses_append, Usage.append_assoc]

/-- A function applied to the result makes no use of its own. -/
theorem Makes.map {evaluation : Eval α} {visited : Usage → List Expression}
    (makes : resolver.Makes evaluation visited) (f : α → β) :
    resolver.Makes (f <$> evaluation) visited := by
  intro usage
  rw [Eval.outcome_map]
  exact makes usage

/-- A list of evaluations makes the uses of what each of them visits. -/
theorem Makes.mapM {each : α → Eval β} {visited : α → Usage → List Expression}
    (makes : ∀ item, resolver.Makes (each item) (visited item)) (items : List α) :
    resolver.Makes (items.mapM each) (Eval.visitedEach each visited items) := by
  induction items with
  | nil =>
    rw [List.mapM_nil]
    exact makes_pure []
  | cons item rest ih =>
    rw [List.mapM_cons]
    refine (makes item).bind fun b => ?_
    rw [bind_pure_comp]
    exact ih.map _

end Makes

/-- Replacing a piece visits its expression. -/
theorem makes_replacePiece (piece : Piece) :
    resolver.Makes (resolver.replacePiece vars piece) fun _ => piece.expression?.toList :=
  fun usage => by rw [outcome_replacePiece]

/-- A pass visits the expressions of the template up to the one that stops it. -/
theorem makes_pass (template : Text) :
    resolver.Makes (resolver.pass vars template) (resolver.visitedByPass vars template) :=
  (Makes.mapM (resolver.makes_replacePiece vars) _).map _

/-- The induction is on the number of passes. -/
theorem makes_passes (limit : Nat) (template : Text) :
    resolver.Makes (resolver.passes vars limit template)
      (resolver.visitedByPasses vars limit template) := by
  induction limit generalizing template with
  | zero => exact makes_pure template
  | succ limit ih =>
    refine (resolver.makes_pass vars template).bind fun next => ?_
    split
    · exact makes_pure template
    · exact ih next

/-- Resolving visits what its passes visit. -/
theorem makes_resolve (template : Text) :
    resolver.Makes (resolver.resolve vars template) (resolver.visited vars template) := by
  rw [resolve_eq_passes]
  exact resolver.makes_passes vars _ template

/-- Filters are visited one after the other. -/
theorem makes_resolveFilters (filters : List Text) :
    resolver.Makes (resolver.resolveFilters vars filters) (resolver.visitedByAll vars filters) :=
  Makes.mapM (resolver.makes_resolve vars) filters

/-- Resolving a message visits what resolving its templates does. -/
theorem makes_resolveMessage (message : Message) :
    resolver.Makes (resolver.resolveMessage vars message)
      (resolver.visitedByAll vars message.templates) := by
  refine (resolver.makes_resolve vars message.topic).bind fun topic => ?_
  cases message.payload with
  | none => exact makes_pure _
  | some payload =>
    rw [Option.mapM_some, bind_map_left]
    exact (resolver.makes_resolve vars payload).bind fun text => makes_pure _

/-- Evaluating an expression by itself uses what replacing it does. -/
theorem makes_builtin? (expression : Expression) :
    resolver.Makes (resolver.builtin? expression) fun _ => [expression] := by
  intro usage
  have replaced := congrArg Prod.snd (resolver.outcome_replace ∅ expression usage)
  rw [replace, Eval.outcome_bind] at replaced
  rcases run : (resolver.builtin? expression).outcome usage with ⟨result, used⟩
  rw [run] at replaced
  -- Replacing goes on without the sources, whichever value there is.
  cases result with
  | error fault => exact replaced
  | ok value => cases value <;> exact replaced

end Resolver
end Stencil
