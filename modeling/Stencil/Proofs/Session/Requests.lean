import Stencil.Proofs.Builtin.RandomNumber
import Stencil.Proofs.Resolver.Visits
import Stencil.Session

/-!
# What a session asks of the random source

Each answer of a session comes with the requests of the expressions that it took, in the order
in which they were evaluated, whether or not a fault ended it. Main statements: `run_append`,
`step_requests`, and for random numbers `run_asks_within_bounds`.
-/

namespace Stencil.Session

/-- The session after requests. -/
def after (session : Session) (commands : List Command) : Session :=
  commands.foldl (fun session command => (session.step command).2) session

/-- The answers to further requests are those of the session after the first ones. -/
theorem run_append (session : Session) (first second : List Command) :
    session.run (first ++ second) = session.run first ++ (session.after first).run second := by
  induction first generalizing session with
  | nil => rfl
  | cons command rest ih => exact congrArg _ (ih _)

/-- The expressions that a request evaluates, in order. -/
def visited (session : Session) : Command → List Expression
  | .resolve template => session.resolver.visited session.vars template session.usage
  | .builtin expression => [expression]
  | .message message =>
    session.resolver.visitedByAll session.vars message.templates session.usage
  | .filters filters => session.resolver.visitedByAll session.vars filters session.usage
  | .userNames _ | .missingNames _ | .hints _ | .define _ _ | .undefine _ | .setClock _
  | .setSettings _ => []

/-- The requests to the random source that a request to the session takes. -/
def requests (session : Session) (command : Command) : List Request :=
  (session.visited command).filterMap session.resolver.request?

/-- An evaluation asks for what it visits. -/
theorem evaluate_requests (session : Session) {α : Type} (reply : α → Reply)
    {evaluation : Eval α} {visited : Usage → List Expression}
    (makes : session.resolver.Makes evaluation visited) :
    (session.evaluate reply evaluation).2.usage.requests =
      session.usage.requests ++ (visited session.usage).filterMap session.resolver.request? :=
  congrArg Usage.requests (makes session.usage)

/-- After a request to the session the random source has been asked for what that took. -/
theorem step_requests (session : Session) (command : Command) :
    (session.step command).2.usage.requests =
      session.usage.requests ++ session.requests command := by
  cases command with
  | resolve template => exact session.evaluate_requests _ (session.resolver.makes_resolve _ _)
  | builtin expression => exact session.evaluate_requests _ (session.resolver.makes_builtin? _)
  | message message => exact session.evaluate_requests _ (session.resolver.makes_resolveMessage _ _)
  | filters filters => exact session.evaluate_requests _ (session.resolver.makes_resolveFilters _ _)
  | define name value =>
    rw [step]
    split <;> exact (List.append_nil _).symm
  | userNames | missingNames | hints | undefine | setClock | setSettings =>
    exact (List.append_nil _).symm

/-- The answer to a request comes with the requests to the random source that it takes. -/
theorem run_cons (session : Session) (command : Command) (rest : List Command) :
    session.run (command :: rest) =
      ((session.step command).1, session.requests command) ::
        (session.step command).2.run rest := by
  simp only [run, step_requests, List.drop_left]

/-- Each answer of a session comes with one request for a number for each random number that it
took, in order. Whatever the settings are, the range asked for has the bounds of the first
range among the tokens of the expression, or else of the settings, the smaller one first. With
a source that keeps within bounds the value is the numeral of a number between them. Draws that
are reduced into the range keep within bounds, and no sum overflows. -/
theorem run_asks_within_bounds (session : Session) (before : List Command) (command : Command)
    (later : List Command) :
    let reached := session.after before
    let resolver := reached.resolver
    (session.run (before ++ command :: later) =
      session.run before ++ ((reached.step command).1, reached.requests command) ::
        (reached.step command).2.run later) ∧
    (reached.requests command).countP Request.isNumber =
      (reached.visited command).countP (·.isComputedBy .random) ∧
    (∀ range, .number range ∈ reached.requests command → range.min ≤ range.max) ∧
    (∀ expression ∈ reached.visited command, expression.isComputedBy .random →
      ∃ bounds, expression.HasBounds resolver.settings.defaultRange bounds ∧
        resolver.request? expression = some (.number bounds.ascending) ∧
        (resolver.sources.random.KeepsBounds → ∀ used, ∃ text n,
          Decimal.IsNumeral text n ∧
          bounds.ascending.min.toNat ≤ n ∧ n ≤ bounds.ascending.max.toNat ∧
          (resolver.builtin? expression).outcome used =
            (.ok (some text), used ++ resolver.uses [expression]) ∧
          ∀ vars, (resolver.replace vars expression).outcome used =
            (.ok text, used ++ resolver.uses [expression]))) ∧
    ∀ stream, (RandomSource.ofStream stream).KeepsBounds ∧ ∀ earlier,
      (∀ range, range.min ≤ range.max →
        ((RandomSource.ofStream stream).number earlier range).toNat = range.min.toNat +
          (stream (RandomSource.drawsTaken earlier)).toNat %
            (range.max.toNat - range.min.toNat + 1)) ∧
      (RandomSource.ofStream stream).number earlier ⟨0, 0xffffffffffffffff⟩ =
        stream (RandomSource.drawsTaken earlier) := by
  intro reached resolver
  refine ⟨?_, ?_, fun range asked => ?_, fun expression _ random => ?_, fun stream =>
    ⟨RandomSource.keepsBounds_ofStream stream, fun earlier =>
      ⟨fun range => RandomSource.toNat_number_ofStream stream earlier,
        RandomSource.number_ofStream_full stream earlier⟩⟩⟩
  · rw [run_append, run_cons]
  · exact resolver.countP_isNumber_uses (reached.visited command)
  · obtain ⟨expression, -, asks⟩ := List.mem_filterMap.1 asked
    exact resolver.min_le_max_of_request? asks
  · obtain ⟨bounds, has, asks, -⟩ := resolver.exists_request?_of_isComputedBy_random random
    exact ⟨bounds, has, asks, fun keeps =>
      resolver.exists_numeral_of_isComputedBy_random keeps random asks⟩

/-- With inverted bounds in the settings and in the value of a variable, which only the second
pass evaluates, both numbers are asked for in ascending bounds. -/
theorem run_asks_within_bounds_inverted :
    let inner : Expression := ⟨"random".toList, ["7-2".toList]⟩
    let template : Text := "\x7bx\x7d/\x7brand\x7d".toList
    let session : Session :=
      { resolver := ⟨⟨Resolver.lateClock, .ofDraws [5]⟩, { randomMin := 9, randomMax := 3 }⟩
        vars := .ofList [(['x'], inner.text)] }
    session.run [.resolve template] =
      [(.ok (.text "7/8".toList), [.number ⟨3, 9⟩, .number ⟨2, 7⟩])] ∧
    ∃ text n, Decimal.IsNumeral text n ∧ 2 ≤ n ∧ n ≤ 7 ∧
      (session.resolver.builtin? inner).outcome {} =
        (.ok (some text), { requests := [.number ⟨2, 7⟩] }) := by
  intro inner template session
  refine ⟨by decide +kernel, ?_⟩
  have numbers := (run_asks_within_bounds session [] (.resolve template) []).2.2.2.1
  obtain ⟨bounds, -, asks, numeral⟩ := numbers inner (by decide +kernel) (by decide)
  have known : session.resolver.request? inner = some (.number ⟨2, 7⟩) := by decide +kernel
  have same : bounds.ascending = ⟨2, 7⟩ :=
    Request.number.inj (Option.some.inj (asks.symm.trans known))
  rw [same] at numeral
  have keeps : (RandomSource.ofDraws [5]).KeepsBounds := RandomSource.keepsBounds_ofStream _
  obtain ⟨text, n, isNumeral, above, below, value, -⟩ := numeral keeps {}
  have used : ({} : Usage) ++ session.resolver.uses [inner] =
      { requests := [.number ⟨2, 7⟩] } := by decide +kernel
  exact ⟨text, n, isNumeral, above, below, value.trans (congrArg _ used)⟩

end Stencil.Session
