import Stencil.Sources

/-!
# Evaluations

An evaluation reads the clock and asks the random source, one request after the
other, and may be stopped by a fault. `outcome` runs it. The equations for
`outcome` say what each kind of step does; nothing else has to be known about
the monad.
-/

namespace Stencil

/-- An evaluation that uses sources and may be stopped by a fault. What was used
before a fault stays recorded. -/
abbrev Eval := ExceptT Fault (StateM Usage)

namespace Eval

/-- The result of an evaluation and the uses of its sources after it. -/
def outcome {α : Type} (evaluation : Eval α) (usage : Usage) : Except Fault α × Usage :=
  (ExceptT.run evaluation).run usage

/-- The evaluation with a result that is known. -/
def ofExcept {α : Type} (result : Except Fault α) : Eval α :=
  ExceptT.mk (pure result)

/-- Goes on from a result and the uses of the sources so far. A fault stays. -/
def proceed {α β : Type} (next : α → Eval β) :
    Except Fault α × Usage → Except Fault β × Usage
  | (.ok a, usage) => (next a).outcome usage
  | (.error fault, usage) => (.error fault, usage)

/-- Evaluations with the same outcomes are the same. -/
theorem ext_outcome {α : Type} {first second : Eval α}
    (same : ∀ usage, first.outcome usage = second.outcome usage) : first = second :=
  funext same

/-- A value that is given already uses nothing. -/
@[simp] theorem outcome_pure {α : Type} (a : α) (usage : Usage) :
    (pure a : Eval α).outcome usage = (.ok a, usage) := rfl

/-- A sequence runs its first part and goes on with what that gives. -/
@[simp] theorem outcome_bind {α β : Type} (first : Eval α) (next : α → Eval β) (usage : Usage) :
    (first >>= next).outcome usage = proceed next (first.outcome usage) := by
  have sequence : (first >>= next).outcome usage =
      match first.outcome usage with
      | (result, used) => outcome (ExceptT.mk (ExceptT.bindCont next result)) used := rfl
  rw [sequence]
  rcases first.outcome usage with ⟨_ | _, _⟩ <;> rfl

/-- A function applied to the result changes no use of the sources. -/
@[simp] theorem outcome_map {α β : Type} (f : α → β) (evaluation : Eval α) (usage : Usage) :
    (f <$> evaluation).outcome usage =
      ((evaluation.outcome usage).1.map f, (evaluation.outcome usage).2) := by
  rw [← bind_pure_comp, outcome_bind]
  rcases evaluation.outcome usage with ⟨_ | _, _⟩ <;> rfl

/-- A result that is known already, a fault included, uses nothing. -/
@[simp] theorem outcome_ofExcept {α : Type} (result : Except Fault α) (usage : Usage) :
    (ofExcept result).outcome usage = (result, usage) := rfl

end Eval

namespace Sources

/-- Takes the next reading of the clock. -/
def readClock (sources : Sources) : Eval Instant := do
  let usage ← get
  set { usage with readings := usage.readings + 1 }
  return sources.clock.reading usage.readings

/-- Asks the random source for bytes. -/
def drawBytes (sources : Sources) (count : Nat) : Eval (Vector UInt8 count) := do
  let usage ← get
  set { usage with requests := usage.requests ++ [Request.bytes count] }
  return sources.random.bytes usage.requests count

/-- Asks the random source for a number. -/
def drawNumber (sources : Sources) (range : Range) : Eval UInt64 := do
  let usage ← get
  set { usage with requests := usage.requests ++ [Request.number range] }
  return sources.random.number usage.requests range

/-- Reading the clock takes the next reading and counts it. -/
@[simp] theorem outcome_readClock (sources : Sources) (usage : Usage) :
    sources.readClock.outcome usage =
      (.ok (sources.clock.reading usage.readings),
        { usage with readings := usage.readings + 1 }) := rfl

/-- Drawing bytes gives the answer to this request after those before, and records the
request. -/
@[simp] theorem outcome_drawBytes (sources : Sources) (count : Nat) (usage : Usage) :
    (sources.drawBytes count).outcome usage =
      (.ok (sources.random.bytes usage.requests count),
        { usage with requests := usage.requests ++ [.bytes count] }) := rfl

/-- Drawing a number gives the answer to this request after those before, and records the
request. -/
@[simp] theorem outcome_drawNumber (sources : Sources) (range : Range) (usage : Usage) :
    (sources.drawNumber range).outcome usage =
      (.ok (sources.random.number usage.requests range),
        { usage with requests := usage.requests ++ [.number range] }) := rfl

end Sources
end Stencil
