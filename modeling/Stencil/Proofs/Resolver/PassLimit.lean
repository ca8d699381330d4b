import Stencil.Proofs.Resolver.Returns
import Stencil.Proofs.Resolver.Steady

/-!
# The limit on passes

With sources that answer alike always, resolving is iterating a pass, so limits add up:
resolving under one limit and then under another is resolving under their sum. With any
sources, passes that come to rest do so under every higher limit at the same text, and use
the sources no further. Main statement: `resolve_limits_compose`.
-/

namespace Stencil.Resolver

open Template

/-- The resolver with another limit on passes in its settings. -/
def withLimit (resolver : Resolver) (maxPasses : UInt64) : Resolver :=
  { resolver with settings := { resolver.settings with maxPasses } }

/-- Resolves the template, then the text that this gives, and so on for so many times. -/
def resolveTimes (resolver : Resolver) (vars : Variables) : Nat → Text → Eval Text
  | 0, template => return template
  | count + 1, template => do
    let next ← resolver.resolve vars template
    resolveTimes resolver vars count next

/-- One of so many passes leaves the text that it is given as it is, and no pass before it is
stopped by a fault. -/
inductive ComesToRest (resolver : Resolver) (vars : Variables) : Nat → Text → Usage → Prop
  | here {limit template usage used}
      (passed : (resolver.pass vars template).outcome usage = (.ok template, used)) :
      ComesToRest resolver vars (limit + 1) template usage
  | later {limit template usage next between}
      (passed : (resolver.pass vars template).outcome usage = (.ok next, between))
      (changed : next ≠ template) (onward : ComesToRest resolver vars limit next between) :
      ComesToRest resolver vars (limit + 1) template usage

variable {resolver : Resolver} {vars : Variables}

/-- Behind a pass that changes the text, passes come to rest if the later ones do. -/
theorem comesToRest_iff_of_changed {limit : Nat} {template next : Text} {usage between : Usage}
    (passed : (resolver.pass vars template).outcome usage = (.ok next, between))
    (changed : next ≠ template) :
    resolver.ComesToRest vars (limit + 1) template usage ↔
      resolver.ComesToRest vars limit next between := by
  constructor
  · intro rests
    cases rests with
    | here unchanged =>
      cases passed.symm.trans unchanged
      exact absurd rfl changed
    | later alsoPassed _ onward =>
      cases passed.symm.trans alsoPassed
      exact onward
  · exact .later passed changed

/-- Whether passes come to rest is found out by running them. -/
instance decidableComesToRest : (limit : Nat) → (template : Text) → (usage : Usage) →
    Decidable (resolver.ComesToRest vars limit template usage)
  | 0, _, _ => isFalse nofun
  | limit + 1, template, usage =>
    match passed : (resolver.pass vars template).outcome usage with
    | (.error _, _) => isFalse fun
      | .here alsoPassed => nomatch passed.symm.trans alsoPassed
      | .later alsoPassed _ _ => nomatch passed.symm.trans alsoPassed
    | (.ok next, between) =>
      if same : next = template then isTrue (.here (same ▸ passed))
      else
        have := decidableComesToRest limit next between
        decidable_of_iff _ (comesToRest_iff_of_changed passed same).symm

/-- The limit has no influence on what a pass does. -/
theorem passes_withLimit (maxPasses : UInt64) (limit : Nat) (template : Text) :
    (resolver.withLimit maxPasses).passes vars limit template =
      resolver.passes vars limit template := by
  have samePass : (resolver.withLimit maxPasses).pass vars = resolver.pass vars := rfl
  induction limit generalizing template with
  | zero => rfl
  | succ limit ih => simp only [passes, samePass, ih]

/-- Resolving under a limit is so many passes as the limit admits. -/
theorem resolve_withLimit (maxPasses : UInt64) (template : Text) :
    (resolver.withLimit maxPasses).resolve vars template =
      resolver.passes vars (resolver.withLimit maxPasses).settings.passes template := by
  rw [resolve_eq_passes, passes_withLimit]

/-- The least limit admits one pass, whether it changes anything or not. -/
theorem resolve_withLimit_one (template : Text) :
    (resolver.withLimit 1).resolve vars template = resolver.pass vars template :=
  resolve_of_passes_eq_one (resolver.withLimit 1) vars rfl template

/-- Repeated passes are some of them and then the others. -/
theorem iterate_add (first second : Nat) (template : Text) :
    resolver.iterate vars (first + second) template =
      resolver.iterate vars first template >>= resolver.iterate vars second := by
  induction first generalizing template with
  | zero =>
    rw [Nat.zero_add]
    rfl
  | succ first ih =>
    rw [Nat.succ_add, iterate, iterate]
    cases (resolver.pass vars template).result with
    | error fault => rfl
    | ok next => exact ih next

/-- Resolving a text over and over under the least limit is repeating the pass. -/
theorem outcome_resolveTimes_withLimit_one (steady : resolver.sources.IsSteady) (count : Nat)
    (template : Text) (usage : Usage) :
    (((resolver.withLimit 1).resolveTimes vars count template).outcome usage).1 =
      resolver.iterate vars count template := by
  induction count generalizing template usage with
  | zero => rfl
  | succ count ih =>
    rw [resolveTimes, resolve_withLimit_one, iterate, Eval.outcome_bind]
    have once : ((resolver.pass vars template).outcome usage).1 =
        (resolver.pass vars template).result := isSteady_pass steady template usage
    rw [← once]
    rcases (resolver.pass vars template).outcome usage with ⟨result, used⟩
    cases result with
    | error fault => rfl
    | ok next => exact ih next used

/-- Resolving under one limit and then under another is repeating the pass as often as the
two admit together. -/
theorem outcome_resolve_withLimit_bind (steady : resolver.sources.IsSteady)
    (first second : UInt64) (template : Text) (usage : Usage) :
    (((resolver.withLimit first).resolve vars template >>=
        (resolver.withLimit second).resolve vars).outcome usage).1 =
      resolver.iterate vars ((resolver.withLimit first).settings.passes +
        (resolver.withLimit second).settings.passes) template := by
  have secondSteady (text : Text) : ((resolver.withLimit second).resolve vars text).IsSteady := by
    rw [resolve_withLimit]
    exact isSteady_passes steady _ text
  have secondResult (text : Text) : ((resolver.withLimit second).resolve vars text).result =
      resolver.iterate vars (resolver.withLimit second).settings.passes text := by
    rw [resolve_withLimit, result_passes steady]
  rw [Eval.outcome_bind_of_isSteady secondSteady, resolve_withLimit, outcome_passes steady,
    iterate_add]
  exact congrArg _ (funext secondResult)

/-- Passes that come to rest give the same text and use the sources alike under every higher
limit. The induction follows the passes to the one that changes nothing. -/
theorem ComesToRest.exists_outcome_passes {limit : Nat} {template : Text} {usage : Usage}
    (rests : resolver.ComesToRest vars limit template usage) :
    ∃ text used, ∀ higher, limit ≤ higher →
      (resolver.passes vars higher template).outcome usage = (.ok text, used) := by
  induction rests with
  | @here limit template usage used passed =>
    refine ⟨template, used, fun higher le => ?_⟩
    obtain ⟨rest, rfl⟩ := Nat.exists_eq_add_of_le' (Nat.le_trans (Nat.le_add_left 1 limit) le)
    exact outcome_passes_succ_eq_ok_iff.2 ⟨template, used, passed, .inl ⟨rfl, rfl, rfl⟩⟩
  | @later limit template usage next between passed changed _ ih =>
    obtain ⟨text, used, same⟩ := ih
    refine ⟨text, used, fun higher le => ?_⟩
    obtain ⟨rest, rfl⟩ := Nat.exists_eq_add_of_le' (Nat.le_trans (Nat.le_add_left 1 limit) le)
    have onward := same rest (Nat.le_of_succ_le_succ le)
    exact outcome_passes_succ_eq_ok_iff.2 ⟨next, between, passed, .inr ⟨changed, onward⟩⟩

/-- With sources that answer alike always, resolving gives what resolving under the limit of
one pass gives when it is repeated as many times as there are passes; and where the passes
under one limit are those under two others taken together, resolving under it gives what
resolving under one of the others and then under the other gives. Each is a text unless a
time is stopped. With any sources, passes that come to rest give the same text under every
higher limit, with the same uses of the sources; and a template without expressions resolves
to itself under every limit and uses nothing. -/
theorem resolve_limits_compose (resolver : Resolver) (vars : Variables) (template : Text) :
    (resolver.sources.IsSteady →
      (∀ usage other,
        ((resolver.resolve vars template).outcome usage).1 =
          (((resolver.withLimit 1).resolveTimes vars resolver.settings.passes
            template).outcome other).1) ∧
      ∀ first second both : UInt64,
        (resolver.withLimit both).settings.passes =
          (resolver.withLimit first).settings.passes +
            (resolver.withLimit second).settings.passes →
        ∀ usage other,
          (((resolver.withLimit both).resolve vars template).outcome usage).1 =
            (((resolver.withLimit first).resolve vars template >>=
              (resolver.withLimit second).resolve vars).outcome other).1) ∧
    (∀ usage, resolver.TimesReturn vars template usage →
      ∃ text, ((resolver.resolve vars template).outcome usage).1 = .ok text) ∧
    (∀ usage, resolver.ComesToRest vars resolver.settings.passes template usage →
      ∃ text used, (resolver.resolve vars template).outcome usage = (.ok text, used) ∧
        ∀ higher : UInt64,
          resolver.settings.passes ≤ (resolver.withLimit higher).settings.passes →
            ((resolver.withLimit higher).resolve vars template).outcome usage =
              (.ok text, used)) ∧
    (hasExpressions template = false → ∀ (limit : UInt64) usage,
      ((resolver.withLimit limit).resolve vars template).outcome usage =
        (.ok template, usage)) := by
  refine ⟨fun steady => ⟨fun usage other => ?_, fun first second both sum usage other => ?_⟩,
    fun usage timesReturn => ?_, fun usage rests => ?_, fun plain limit usage => ?_⟩
  · rw [outcome_resolve steady, outcome_resolveTimes_withLimit_one steady]
  · rw [outcome_resolve_withLimit_bind steady, resolve_withLimit, outcome_passes steady, sum]
  · exact Eval.returns_iff.1 (returns_resolve_iff_timesReturn.2 timesReturn)
  · obtain ⟨text, used, same⟩ := rests.exists_outcome_passes
    refine ⟨text, used, ?_, fun higher le => ?_⟩
    · rw [resolve_eq_passes]
      exact same _ (Nat.le_refl _)
    · rw [resolve_withLimit]
      exact same _ le
  · rw [resolve, if_neg (Bool.eq_false_iff.1 plain), Eval.outcome_pure]

/-- With a clock that stands still two passes and then three are five, for a reference that
grows with every pass next to a stray brace. With a clock that moves on, the third pass over a
value with a time in it changes nothing, so no higher limit does. -/
theorem resolve_limits_compose_growing :
    let standing : Resolver := ⟨.still ⟨1718447445, 0⟩ {} 7, { maxPasses := 5 }⟩
    let moving : Resolver :=
      ⟨⟨.ofTable ⟨1718447445, 0⟩ 60 {}, .ofDraws [3]⟩, { maxPasses := 3 }⟩
    let vars := Variables.ofList [("a".toList, "x{a}".toList), ("b".toList, "{now:unix}".toList)]
    let growing := "{a}\x7b{b}".toList
    let plain := "+/#\x7d".toList
    (standing.sources.IsSteady ∧
      (standing.withLimit 5).settings.passes =
        (standing.withLimit 2).settings.passes + (standing.withLimit 3).settings.passes ∧
      standing.TimesReturn vars growing {} ∧
      (∃ text, ((standing.resolve vars growing).outcome {}).1 = .ok text) ∧
      ∀ usage other,
        ((standing.resolve vars growing).outcome usage).1 =
          (((standing.withLimit 1).resolveTimes vars standing.settings.passes
            growing).outcome other).1 ∧
        (((standing.withLimit 5).resolve vars growing).outcome usage).1 =
          (((standing.withLimit 2).resolve vars growing >>=
            (standing.withLimit 3).resolve vars).outcome other).1) ∧
    (moving.ComesToRest vars moving.settings.passes "{b}".toList {} ∧
      ∃ text used, (moving.resolve vars "{b}".toList).outcome {} = (.ok text, used) ∧
        ∀ higher : UInt64, moving.settings.passes ≤ (moving.withLimit higher).settings.passes →
          ((moving.withLimit higher).resolve vars "{b}".toList).outcome {} = (.ok text, used)) ∧
    hasExpressions plain = false ∧
      ∀ (limit : UInt64) usage,
        ((moving.withLimit limit).resolve vars plain).outcome usage = (.ok plain, usage) := by
  intro standing moving vars growing plain
  have steady : standing.sources.IsSteady := Sources.isSteady_still ⟨1718447445, 0⟩ {} 7
  have sum : (standing.withLimit 5).settings.passes =
      (standing.withLimit 2).settings.passes + (standing.withLimit 3).settings.passes := rfl
  have timesReturn : standing.TimesReturn vars growing {} :=
    returns_resolve_iff_timesReturn.1 (by decide +kernel)
  have rests : moving.ComesToRest vars moving.settings.passes "{b}".toList {} := by
    decide +kernel
  have noExpressions : hasExpressions plain = false := by decide
  obtain ⟨steadily, returns, -⟩ := resolve_limits_compose standing vars growing
  obtain ⟨repeated, sums⟩ := steadily steady
  obtain ⟨-, -, onward, -⟩ := resolve_limits_compose moving vars "{b}".toList
  obtain ⟨-, -, -, unchanged⟩ := resolve_limits_compose moving vars plain
  refine ⟨⟨steady, sum, timesReturn, returns {} timesReturn, fun usage other => ?_⟩,
    ⟨rests, onward {} rests⟩, noExpressions, unchanged noExpressions⟩
  exact ⟨repeated usage other, sums 2 3 5 sum usage other⟩

end Stencil.Resolver
