import Stencil.Eval

/-!
# Properties of evaluations

`Ensures` speaks about the result of an evaluation that is not stopped,
whatever was used before. `Returns` says that an evaluation is not stopped.
`IsSteady` says that the result, a fault included, does not depend on what was
used before; such an evaluation has one `result`. All are carried through
sequences and lists of evaluations.
-/

namespace Stencil

/-- There is one fault only, so it does not matter which of two comes first. -/
instance : Subsingleton Fault :=
  ⟨fun | .wallClockOutsideCalendar, .wallClockOutsideCalendar => rfl⟩

/-- A sequence of results is one if its parts are. -/
theorem Except.bind_eq_ok_iff {ε α β : Type} {first : Except ε α} {next : α → Except ε β} {b : β} :
    first >>= next = .ok b ↔ ∃ a, first = .ok a ∧ next a = .ok b := by
  cases first with
  | error fault => simp [bind, Except.bind]
  | ok a => simp [bind, Except.bind]

namespace Eval

variable {α β : Type}

/-- Lists of evaluations are the same if they are item by item. -/
theorem mapM_congr {items : List α} {first second : α → Eval β}
    (same : ∀ item ∈ items, first item = second item) : items.mapM first = items.mapM second := by
  induction items with
  | nil => rw [List.mapM_nil, List.mapM_nil]
  | cons item rest ih =>
    rw [List.forall_mem_cons] at same
    rw [List.mapM_cons, List.mapM_cons, same.1, ih same.2]

/-- An evaluation that is not stopped gives a result with the property. -/
def Ensures (evaluation : Eval α) (holds : α → Prop) : Prop :=
  ∀ usage a, (evaluation.outcome usage).1 = .ok a → holds a

/-- A value that is given ensures what holds of it. -/
theorem Ensures.pure {holds : α → Prop} {a : α} (known : holds a) :
    (Pure.pure a : Eval α).Ensures holds := by
  intro usage b same
  cases same
  exact known

/-- A known result ensures what holds of its value; a fault ensures anything. -/
theorem Ensures.ofExcept {holds : α → Prop} {result : Except Fault α}
    (known : ∀ a, result = .ok a → holds a) : (Eval.ofExcept result).Ensures holds :=
  fun _ a same => known a same

/-- What is ensured may be weakened. -/
theorem Ensures.mono {holds also : α → Prop} {evaluation : Eval α}
    (ensured : evaluation.Ensures holds) (implied : ∀ a, holds a → also a) :
    evaluation.Ensures also :=
  fun usage a same => implied a (ensured usage a same)

/-- Two things that are ensured are ensured together. -/
theorem Ensures.and {holds also : α → Prop} {evaluation : Eval α}
    (ensured : evaluation.Ensures holds) (alsoEnsured : evaluation.Ensures also) :
    evaluation.Ensures fun a => holds a ∧ also a :=
  fun usage a same => ⟨ensured usage a same, alsoEnsured usage a same⟩

/-- What a sequence gives has the property that its second part ensures. -/
theorem Ensures.bind {holds : α → Prop} {after : β → Prop} {first : Eval α} {next : α → Eval β}
    (firstHolds : first.Ensures holds) (nextHolds : ∀ a, holds a → (next a).Ensures after) :
    (first >>= next).Ensures after := by
  intro usage b same
  rw [outcome_bind] at same
  rcases run : first.outcome usage with ⟨result, used⟩
  rw [run] at same
  cases result with
  | error fault => cases same
  | ok a => exact nextHolds a (firstHolds usage a (by rw [run])) used b same

/-- What a sequence gives has a property that its second part ensures in any case. -/
theorem Ensures.bind_of_forall {after : β → Prop} {first : Eval α} {next : α → Eval β}
    (ensured : ∀ a, (next a).Ensures after) : (first >>= next).Ensures after := by
  have anything : first.Ensures fun _ => True := fun _ _ _ => trivial
  exact anything.bind fun a _ => ensured a

/-- Sequences with the same first part are the same if their second parts agree on all that
the first part ensures. -/
theorem Ensures.bind_congr {holds : α → Prop} {first : Eval α} {next other : α → Eval β}
    (ensured : first.Ensures holds) (same : ∀ a, holds a → next a = other a) :
    first >>= next = first >>= other := by
  apply ext_outcome
  intro usage
  rw [outcome_bind, outcome_bind]
  rcases run : first.outcome usage with ⟨result, used⟩
  cases result with
  | error fault => rfl
  | ok a =>
    have known := ensured usage a (congrArg Prod.fst run)
    rw [proceed, proceed, same a known]

/-- A function carries over what is ensured of its argument to its value. -/
theorem Ensures.map {holds : α → Prop} {after : β → Prop} {evaluation : Eval α} {f : α → β}
    (ensured : evaluation.Ensures holds) (image : ∀ a, holds a → after (f a)) :
    (f <$> evaluation).Ensures after := by
  rw [map_eq_pure_bind]
  exact ensured.bind fun a known => .pure (image a known)

/-- A list of evaluations ensures of every result what each one ensures. -/
theorem Ensures.mapM {holds : β → Prop} {items : List α} {each : α → Eval β}
    (ensured : ∀ item ∈ items, (each item).Ensures holds) :
    (items.mapM each).Ensures fun results => ∀ b ∈ results, holds b := by
  induction items with
  | nil =>
    rw [List.mapM_nil]
    exact .pure (by simp)
  | cons item rest ih =>
    rw [List.forall_mem_cons] at ensured
    rw [List.mapM_cons]
    refine ensured.1.bind fun b bHolds => (ih ensured.2).bind fun results allHold => .pure ?_
    exact List.forall_mem_cons.2 ⟨bHolds, allHold⟩

/-- The evaluation is not stopped if so much was used before it. -/
def Returns (evaluation : Eval α) (usage : Usage) : Prop :=
  ∃ a used, evaluation.outcome usage = (.ok a, used)

/-- A value that is given is returned. -/
theorem Returns.pure (a : α) (usage : Usage) : (Pure.pure a : Eval α).Returns usage :=
  ⟨a, usage, rfl⟩

/-- Returning a value is having one as the outcome. -/
theorem returns_iff {evaluation : Eval α} {usage : Usage} :
    evaluation.Returns usage ↔ ∃ a, (evaluation.outcome usage).1 = .ok a := by
  constructor
  · rintro ⟨a, used, run⟩
    exact ⟨a, congrArg Prod.fst run⟩
  · rintro ⟨a, run⟩
    exact ⟨a, (evaluation.outcome usage).2, Prod.ext run rfl⟩

/-- Whether an evaluation is stopped is found out by running it. -/
instance (evaluation : Eval α) (usage : Usage) : Decidable (evaluation.Returns usage) :=
  decidable_of_iff ((evaluation.outcome usage).1.isOk = true) <| by
    rw [returns_iff]
    cases (evaluation.outcome usage).1 <;> simp [Except.isOk, Except.toBool]

/-- A sequence gives a result if its first part does and then its second part. -/
theorem outcome_bind_eq_ok_iff {first : Eval α} {next : α → Eval β} {usage used : Usage} {b : β} :
    (first >>= next).outcome usage = (.ok b, used) ↔
      ∃ a between, first.outcome usage = (.ok a, between) ∧
        (next a).outcome between = (.ok b, used) := by
  rw [outcome_bind]
  rcases first.outcome usage with ⟨result, between⟩
  cases result with
  | error fault => simp [proceed]
  | ok a =>
    constructor
    · intro onward
      exact ⟨a, between, rfl, onward⟩
    · rintro ⟨_, _, same, onward⟩
      cases same
      exact onward

/-- A sequence returns a value exactly if its first part does and its second part does after the
uses of the first. -/
theorem returns_bind_iff {first : Eval α} {next : α → Eval β} {usage : Usage} :
    (first >>= next).Returns usage ↔
      ∃ a between, first.outcome usage = (.ok a, between) ∧ (next a).Returns between := by
  constructor
  · rintro ⟨b, used, run⟩
    obtain ⟨a, between, started, onward⟩ := outcome_bind_eq_ok_iff.1 run
    exact ⟨a, between, started, b, used, onward⟩
  · rintro ⟨a, between, started, b, used, onward⟩
    exact ⟨b, used, outcome_bind_eq_ok_iff.2 ⟨a, between, started, onward⟩⟩

/-- A function applied to the result has no influence on whether there is one. -/
@[simp] theorem returns_map_iff {f : α → β} {evaluation : Eval α} {usage : Usage} :
    (f <$> evaluation).Returns usage ↔ evaluation.Returns usage := by
  rw [map_eq_pure_bind, returns_bind_iff]
  constructor
  · rintro ⟨a, used, run, -⟩
    exact ⟨a, used, run⟩
  · rintro ⟨a, used, run⟩
    exact ⟨a, used, run, .pure _ _⟩

/-- A list of evaluations gives results if the first does and then the others. -/
theorem outcome_mapM_cons_eq_ok_iff {item : α} {rest : List α} {each : α → Eval β}
    {usage used : Usage} {results : List β} :
    ((item :: rest).mapM each).outcome usage = (.ok results, used) ↔
      ∃ b between others, (each item).outcome usage = (.ok b, between) ∧
        (rest.mapM each).outcome between = (.ok others, used) ∧ results = b :: others := by
  rw [List.mapM_cons]
  constructor
  · intro run
    obtain ⟨b, between, started, run⟩ := outcome_bind_eq_ok_iff.1 run
    obtain ⟨others, _, done, last⟩ := outcome_bind_eq_ok_iff.1 run
    cases last
    exact ⟨b, between, others, started, done, rfl⟩
  · rintro ⟨b, between, others, started, done, rfl⟩
    refine outcome_bind_eq_ok_iff.2 ⟨b, between, started, ?_⟩
    exact outcome_bind_eq_ok_iff.2 ⟨others, used, done, rfl⟩

/-- A list of evaluations is not stopped if none of them is, each with what those
before it have used. -/
theorem returns_mapM_iff {items : List α} {each : α → Eval β} {usage : Usage} :
    (items.mapM each).Returns usage ↔
      ∀ before item after results used, items = before ++ item :: after →
        (before.mapM each).outcome usage = (.ok results, used) → (each item).Returns used := by
  induction items generalizing usage with
  | nil =>
    rw [List.mapM_nil]
    exact iff_of_true (.pure _ _) fun before item after _ _ parts => by simp at parts
  | cons first rest ih =>
    constructor
    · rintro ⟨all, last, run⟩ before item after results used parts done
      obtain ⟨b, between, others, started, restDone, -⟩ := outcome_mapM_cons_eq_ok_iff.1 run
      cases before with
      | nil =>
        obtain ⟨rfl, -⟩ := List.cons.inj parts
        rw [List.mapM_nil, outcome_pure] at done
        cases done
        exact ⟨b, between, started⟩
      | cons _ before =>
        obtain ⟨rfl, restParts⟩ := List.cons.inj parts
        obtain ⟨_, _, fewer, alsoStarted, done, -⟩ := outcome_mapM_cons_eq_ok_iff.1 done
        cases started.symm.trans alsoStarted
        exact ih.1 ⟨others, last, restDone⟩ before item after fewer used restParts done
    · intro all
      obtain ⟨b, between, started⟩ := all [] first rest [] usage rfl rfl
      have restReturns : (rest.mapM each).Returns between := by
        refine ih.2 fun before item after results used parts done => ?_
        have moreDone := outcome_mapM_cons_eq_ok_iff.2 ⟨b, between, results, started, done, rfl⟩
        exact all (first :: before) item after (b :: results) used (by rw [parts]; rfl) moreDone
      obtain ⟨others, used, done⟩ := restReturns
      exact ⟨b :: others, used,
        outcome_mapM_cons_eq_ok_iff.2 ⟨b, between, others, started, done, rfl⟩⟩

/-- The result of an evaluation does not depend on what was used before it. -/
def IsSteady (evaluation : Eval α) : Prop :=
  ∀ usage, (evaluation.outcome usage).1 = (evaluation.outcome {}).1

/-- The result of an evaluation that nothing was used before. -/
def result (evaluation : Eval α) : Except Fault α :=
  (evaluation.outcome {}).1

/-- A value that is given is the same whenever it is asked for. -/
theorem IsSteady.pure (a : α) : (Pure.pure a : Eval α).IsSteady := fun _ => rfl

/-- A result that is known already is the same whenever it is asked for, a fault included. -/
theorem IsSteady.ofExcept (known : Except Fault α) : (Eval.ofExcept known).IsSteady :=
  fun _ => rfl

/-- The result of a sequence whose second part is steady comes from the results of
the parts, whatever was used before. -/
theorem outcome_bind_of_isSteady {first : Eval α} {next : α → Eval β}
    (nextSteady : ∀ a, (next a).IsSteady) (usage : Usage) :
    ((first >>= next).outcome usage).1 = (first.outcome usage).1 >>= fun a => (next a).result := by
  rw [outcome_bind]
  rcases first.outcome usage with ⟨result, used⟩
  cases result with
  | error fault => rfl
  | ok a => exact nextSteady a used

/-- The result of a sequence comes from the results of its parts if the second part does not see
what the first has used. -/
theorem result_bind {first : Eval α} {next : α → Eval β} (nextSteady : ∀ a, (next a).IsSteady) :
    (first >>= next).result = first.result >>= fun a => (next a).result :=
  outcome_bind_of_isSteady nextSteady {}

/-- A sequence of steady parts is steady. -/
theorem IsSteady.bind {first : Eval α} {next : α → Eval β} (firstSteady : first.IsSteady)
    (nextSteady : ∀ a, (next a).IsSteady) : (first >>= next).IsSteady := by
  intro usage
  rw [outcome_bind_of_isSteady nextSteady, outcome_bind_of_isSteady nextSteady, firstSteady usage]

/-- A function applied to the result keeps an evaluation steady. -/
theorem IsSteady.map {evaluation : Eval α} (steady : evaluation.IsSteady) (f : α → β) :
    (f <$> evaluation).IsSteady := by
  intro usage
  rw [outcome_map, outcome_map, steady usage]

/-- Going through a list in steady steps is steady. -/
theorem IsSteady.mapM {items : List α} {each : α → Eval β}
    (steady : ∀ item, (each item).IsSteady) : (items.mapM each).IsSteady := by
  induction items with
  | nil =>
    rw [List.mapM_nil]
    exact .pure _
  | cons item rest ih =>
    rw [List.mapM_cons]
    exact (steady item).bind fun b => ih.bind fun results => .pure _

end Eval

namespace Sources

/-- The sources answer alike whatever they were used for before: the clock stands
still, and the random source does not move on. -/
structure IsSteady (sources : Sources) : Prop where
  reading : ∀ count, sources.clock.reading count = sources.clock.reading 0
  bytes : ∀ before count, sources.random.bytes before count = sources.random.bytes [] count
  number : ∀ before range, sources.random.number before range = sources.random.number [] range

variable {sources : Sources}

/-- A clock that stands still gives the same reading always. -/
theorem IsSteady.readClock (steady : sources.IsSteady) : sources.readClock.IsSteady := by
  intro usage
  rw [outcome_readClock, outcome_readClock, steady.reading usage.readings]

/-- Random bytes that do not depend on earlier requests are the same always. -/
theorem IsSteady.drawBytes (steady : sources.IsSteady) (count : Nat) :
    (sources.drawBytes count).IsSteady := by
  intro usage
  rw [outcome_drawBytes, outcome_drawBytes, steady.bytes usage.requests]

/-- A random number that does not depend on earlier requests is the same always. -/
theorem IsSteady.drawNumber (steady : sources.IsSteady) (range : Range) :
    (sources.drawNumber range).IsSteady := by
  intro usage
  rw [outcome_drawNumber, outcome_drawNumber, steady.number usage.requests]

end Sources

/-- A clock that does not advance gives the same reading always. -/
theorem Clock.reading_ofTable_of_step_zero (start : Instant) (zone : ZoneTable) (count : Nat) :
    (Clock.ofTable start 0 zone).reading count = start := by
  simp [Clock.ofTable, Timestamp.shiftLine]

/-- Sources that stand still: a clock that always shows the same instant, and a
random source that draws one byte and the least number of every range. -/
def Sources.still (instant : Instant) (zone : ZoneTable) (byte : UInt8) : Sources where
  clock := .ofTable instant 0 zone
  random := {
    bytes := fun _ count => .replicate count byte
    number := fun _ range => range.min }

/-- A clock that stands still and a single byte repeated for ever make steady sources. -/
theorem Sources.isSteady_still (instant : Instant) (zone : ZoneTable) (byte : UInt8) :
    (Sources.still instant zone byte).IsSteady where
  reading count := by
    rw [Sources.still, Clock.reading_ofTable_of_step_zero, Clock.reading_ofTable_of_step_zero]
  bytes _ _ := rfl
  number _ _ := rfl

end Stencil
