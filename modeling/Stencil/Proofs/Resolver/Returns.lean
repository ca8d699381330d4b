import Stencil.Proofs.Resolver.Settled
import Stencil.Proofs.Time.Arrival
import Stencil.Proofs.Time.WallClock

/-!
# When resolving returns a text

Resolving evaluates expressions one after the other, pass by pass; `Evaluates` says
which, and what was used before each of them. Only the time builtin can be stopped,
namely by an offset that overruns the calendar. Main statement: `resolve_returns_iff`.
-/

namespace Stencil

/-- The style of a time that the modifiers of an expression select. -/
def Expression.timeStyle (expression : Expression) : TimeStyle :=
  .ofModifiers expression.classified

namespace Resolver

/-- Evaluated after such a usage, the expression is a time with an offset that
overruns the calendar. -/
def Overruns (resolver : Resolver) (expression : Expression) (usage : Usage) : Prop :=
  Builtin.ofName? expression.name = some .now ∧
    expression.timeStyle.Overruns resolver.sources.clock
      (resolver.sources.clock.reading usage.readings)

/-- So many passes over a template evaluate the expression, when the sources have been
used as stated: in the first pass, after the pieces before it, or in a later pass
over what the first one made of the template. -/
inductive Evaluates (resolver : Resolver) (vars : Variables) :
    Nat → Text → Usage → Expression → Usage → Prop
  | first {limit template usage before expression after results used}
      (parts : Template.pieces template = before ++ .expression expression :: after)
      (done : (before.mapM (resolver.replacePiece vars)).outcome usage = (.ok results, used)) :
      Evaluates resolver vars (limit + 1) template usage expression used
  | later {limit template usage next between expression used}
      (passed : (resolver.pass vars template).outcome usage = (.ok next, between))
      (changed : next ≠ template)
      (onward : Evaluates resolver vars limit next between expression used) :
      Evaluates resolver vars (limit + 1) template usage expression used

variable {resolver : Resolver} {vars : Variables}

/-- An expression is replaced unless it is a time that cannot be displayed. -/
theorem returns_replace_iff_display (expression : Expression) (usage : Usage) :
    (resolver.replace vars expression).Returns usage ↔
      (Builtin.ofName? expression.name = some .now →
        ∃ text, expression.timeStyle.display resolver.sources.clock
          (resolver.sources.clock.reading usage.readings) = .ok text) := by
  rw [replace_eq]
  cases stands : expression.meaning vars with
  | computed builtin =>
    have named := Expression.meaning_eq_computed_iff.1 stands
    cases builtin with
    | now =>
      simp only [named, Eval.returns_iff, compute, Builtin.value, Sources.outcome_now, true_imp_iff]
      exact Iff.rfl
    | uuid => exact iff_of_true ⟨_, _, rfl⟩ (by simp [named])
    | random => exact iff_of_true ⟨_, _, rfl⟩ (by simp [named])
  | reference value =>
    refine iff_of_true (.pure _ _) fun named => ?_
    cases stands.symm.trans (Expression.meaning_eq_computed_iff.2 named)
  | verbatim =>
    refine iff_of_true (.pure _ _) fun named => ?_
    cases stands.symm.trans (Expression.meaning_eq_computed_iff.2 named)

/-- An expression is replaced unless it overruns the calendar. -/
theorem returns_replace_iff
    (shown : ∀ count, resolver.sources.clock.CanShow (resolver.sources.clock.reading count))
    (expression : Expression) (usage : Usage) :
    (resolver.replace vars expression).Returns usage ↔ ¬ resolver.Overruns expression usage := by
  rw [returns_replace_iff_display, Overruns, not_and,
    TimeStyle.exists_display_iff (shown usage.readings)]

/-- A pass returns a text if every expression is replaced. -/
theorem returns_pass_iff {template : Text} {usage : Usage} :
    (resolver.pass vars template).Returns usage ↔
      ∀ before expression after results used,
        Template.pieces template = before ++ .expression expression :: after →
        (before.mapM (resolver.replacePiece vars)).outcome usage = (.ok results, used) →
          (resolver.replace vars expression).Returns used := by
  rw [pass, Eval.returns_map_iff, Eval.returns_mapM_iff]
  constructor
  · intro all before expression after
    exact all before (.expression expression) after
  · intro all before piece after results used parts done
    cases piece with
    | char c => exact .pure _ _
    | expression expression => exact all before expression after results used parts done

/-- Passes return a text if every expression that they evaluate is replaced. The
induction is on the number of passes. -/
theorem returns_passes_iff {limit : Nat} {template : Text} {usage : Usage} :
    (resolver.passes vars limit template).Returns usage ↔
      ∀ expression used, resolver.Evaluates vars limit template usage expression used →
        (resolver.replace vars expression).Returns used := by
  induction limit generalizing template usage with
  | zero => exact iff_of_true (.pure _ _) fun expression used evaluates => by cases evaluates
  | succ limit ih =>
    rw [passes, Eval.returns_bind_iff]
    constructor
    · rintro ⟨next, between, passed, onward⟩ expression used evaluates
      cases evaluates with
      | first parts done => exact returns_pass_iff.1 ⟨next, between, passed⟩ _ _ _ _ _ parts done
      | later alsoPassed changed later =>
        cases passed.symm.trans alsoPassed
        rw [if_neg changed] at onward
        exact ih.1 onward expression used later
    · intro all
      obtain ⟨next, between, passed⟩ : (resolver.pass vars template).Returns usage :=
        returns_pass_iff.2 fun before expression after results used parts done =>
          all expression used (.first parts done)
      refine ⟨next, between, passed, ?_⟩
      split
      · exact .pure _ _
      · next changed =>
        exact ih.2 fun expression used later => all expression used (.later passed changed later)

/-- No time that resolving the template evaluates is stopped by a fault. -/
def TimesReturn (resolver : Resolver) (vars : Variables) (template : Text) (usage : Usage) :
    Prop :=
  ∀ expression used,
    resolver.Evaluates vars resolver.settings.passes template usage expression used →
      Builtin.ofName? expression.name = some .now →
        ∃ text, expression.timeStyle.display resolver.sources.clock
          (resolver.sources.clock.reading used.readings) = .ok text

/-- Nothing but a time can keep resolving from returning a text. -/
theorem returns_resolve_iff_timesReturn {template : Text} {usage : Usage} :
    (resolver.resolve vars template).Returns usage ↔
      resolver.TimesReturn vars template usage := by
  simp only [resolve_eq_passes, returns_passes_iff, returns_replace_iff_display, TimesReturn]

/-- If the calendar holds all readings of the clock and their wall clocks, a time is stopped by
nothing but an offset that overruns the calendar. -/
theorem timesReturn_iff_not_overruns (resolver : Resolver)
    (shown : ∀ count, resolver.sources.clock.CanShow (resolver.sources.clock.reading count))
    {template : Text} {usage : Usage} :
    resolver.TimesReturn vars template usage ↔
      ∀ expression used,
        resolver.Evaluates vars resolver.settings.passes template usage expression used →
          ¬ resolver.Overruns expression used := by
  refine forall_congr' fun expression => forall_congr' fun used => imp_congr_right fun _ => ?_
  rw [← @returns_replace_iff resolver vars shown, returns_replace_iff_display]

/-- On a host without an offset no time is stopped, as long as the calendar holds the readings
of its clock. -/
theorem timesReturn_of_offsetAt_eq_zero (resolver : Resolver)
    (host : ∀ instant, resolver.sources.clock.offsetAt instant = 0)
    (inCalendar : ∀ count, (resolver.sources.clock.reading count).IsWithin 0) (template : Text)
    (usage : Usage) : resolver.TimesReturn vars template usage := by
  intro expression used _ _
  have shown : resolver.sources.clock.CanShow (resolver.sources.clock.reading used.readings) :=
    ⟨inCalendar _, by rw [host, Timestamp.shiftLine_zero]; exact inCalendar _⟩
  exact (TimeStyle.exists_display_iff shown).2 (TimeStyle.not_overruns_of_offsetAt_eq_zero host)

/-- If the calendar holds all readings of the clock and their wall clocks, resolving
returns a text exactly if no time that it evaluates has an offset that overruns the
calendar. An offset that does not arrive in the calendar is disregarded, and only a time of
the host overruns it. -/
theorem resolve_returns_iff {resolver : Resolver}
    (shown : ∀ count, resolver.sources.clock.CanShow (resolver.sources.clock.reading count)) :
    (∀ vars template usage,
      (∃ text, ((resolver.resolve vars template).outcome usage).1 = .ok text) ↔
        ∀ expression used,
          resolver.Evaluates vars resolver.settings.passes template usage expression used →
            ¬ resolver.Overruns expression used) ∧
    (∀ expression usage, resolver.Overruns expression usage →
      expression.timeStyle.zone = .host) ∧
    (∀ vars expression offset usage, Builtin.ofName? expression.name = some .now →
      expression.timeStyle.offset = some offset →
      ¬ resolver.sources.clock.Arrives expression.timeStyle.zone offset
        (resolver.sources.clock.reading usage.readings) →
        ∃ text, expression.timeStyle.render resolver.sources.clock
            (resolver.sources.clock.reading usage.readings) = .ok text ∧
          (resolver.replace vars expression).outcome usage =
            (.ok text, { usage with readings := usage.readings + 1 })) := by
  refine ⟨fun vars template usage => ?_, fun _ _ overruns => overruns.2.zone_eq_host, ?_⟩
  · rw [← Eval.returns_iff, returns_resolve_iff_timesReturn,
      timesReturn_iff_not_overruns resolver shown]
  · intro vars expression offset usage named shifts out
    obtain ⟨text, rendered⟩ := expression.timeStyle.exists_render_of_canShow (shown usage.readings)
    have displayed := (TimeStyle.display_of_not_arrives (shown usage.readings) shifts out).trans
      rendered
    refine ⟨text, rendered, ?_⟩
    rw [replace_eq, Expression.meaning_eq_computed_iff.2 named]
    exact (Sources.outcome_now _ _ usage).trans (congrArg (·, _) displayed)

/-- A clock some 28 hours before the end of the calendar, one hour east of UTC. -/
def lateClock : Clock :=
  .ofTable ⟨8210266776799, 0⟩ 0 { initial := 3600 }

/-- The clock stands still. -/
theorem reading_lateClock (count : Nat) : lateClock.reading count = ⟨8210266776799, 0⟩ :=
  Clock.reading_ofTable_of_step_zero _ _ count

/-- Two days lead out of the calendar and are disregarded. -/
theorem resolve_returns_iff_lateClock :
    let resolver : Resolver := ⟨⟨lateClock, .ofDraws []⟩, {}⟩
    let expression : Expression := ⟨"now".toList, ["local".toList, "+2d".toList]⟩
    (∀ count, lateClock.CanShow (lateClock.reading count)) ∧
      Builtin.ofName? expression.name = some .now ∧
      expression.timeStyle.offset = some ⟨2, .days⟩ ∧
      ¬ lateClock.Arrives expression.timeStyle.zone ⟨2, .days⟩ (lateClock.reading 0) ∧
      (∃ text, expression.timeStyle.render lateClock (lateClock.reading 0) = .ok text ∧
        (resolver.replace (.ofList []) expression).outcome {} = (.ok text, { readings := 1 })) ∧
      ∀ vars template usage,
        (∃ text, ((resolver.resolve vars template).outcome usage).1 = .ok text) ↔
          ∀ expression used,
            resolver.Evaluates vars resolver.settings.passes template usage expression used →
              ¬ resolver.Overruns expression used := by
  intro resolver expression
  have shown (count : Nat) : lateClock.CanShow (lateClock.reading count) := by
    rw [reading_lateClock]
    exact ⟨by decide, by decide⟩
  have named : Builtin.ofName? expression.name = some .now := by decide
  have style : expression.timeStyle = { zone := .host, offset := some ⟨2, .days⟩ } := by decide
  have shifts : expression.timeStyle.offset = some ⟨2, .days⟩ := by rw [style]
  have out : ¬ lateClock.Arrives expression.timeStyle.zone ⟨2, .days⟩ (lateClock.reading 0) := by
    rw [style]
    exact fun arrives => absurd arrives.1 (by decide)
  have sourcesShown (count : Nat) : resolver.sources.clock.CanShow
      (resolver.sources.clock.reading count) := shown count
  obtain ⟨returns, -, disregarded⟩ := resolve_returns_iff sourcesShown
  exact ⟨shown, named, shifts, out, disregarded _ expression _ {} named shifts out, returns⟩

/-- Reading and wall clock are more than a day within the calendar, and still a time
that leads into its last hour stops the evaluation: the calendar holds that instant
but not its wall clock. -/
theorem resolve_lateClock_eq_error :
    let resolver : Resolver := ⟨⟨lateClock, .ofDraws []⟩, {}⟩
    (∀ count, (lateClock.reading count).IsWithin 90000 ∧
      ((lateClock.reading count).shiftLine
        (lateClock.offsetAt (lateClock.reading count))).IsWithin 90000) ∧
      lateClock.OffsetsWithinDay ∧
      ((resolver.resolve (.ofList []) "{now:local:+99000s}".toList).outcome {}).1 =
        .error .wallClockOutsideCalendar := by
  refine ⟨fun count => ?_, ?_, ?_⟩
  · rw [reading_lateClock]
    decide
  · exact Clock.offsetsWithinDay_ofTable _ _ (by decide) (by decide)
  · rfl

end Resolver
end Stencil
