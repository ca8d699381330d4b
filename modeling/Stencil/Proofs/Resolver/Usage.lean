import Stencil.Message
import Stencil.Proofs.Resolver.Returns
import Stencil.Proofs.Resolver.Succession

/-!
# What resolving uses

A time takes one reading of the clock, an identifier and a number make one request of
the random source each, and nothing else uses the sources. A pass evaluates the
expressions of a template from left to right, so the uses made in front of an expression
determine its value (`valueAt`). Main statements: `outcome_pass_eq_ok`, and for templates
and messages where no value holds a brace `outcome_resolve_eq_ok` and
`outcome_resolveMessage_eq_ok`.
-/

namespace Stencil

/-- Whether the request is for a number. -/
def Request.isNumber : Request → Bool
  | .bytes _ => false
  | .number _ => true

namespace Usage

/-- Uses are the same if the readings and the requests are. -/
@[ext] theorem ext {first second : Usage} (readings : first.readings = second.readings)
    (requests : first.requests = second.requests) : first = second := by
  cases first
  cases second
  cases readings
  cases requests
  rfl

/-- Uses of the sources followed by others. -/
def append (first second : Usage) : Usage where
  readings := first.readings + second.readings
  requests := first.requests ++ second.requests

instance : Append Usage := ⟨append⟩

/-- The readings of the clock add up. -/
@[simp] theorem readings_append (first second : Usage) :
    (first ++ second).readings = first.readings + second.readings := rfl

/-- Later requests come behind earlier ones. -/
@[simp] theorem requests_append (first second : Usage) :
    (first ++ second).requests = first.requests ++ second.requests := rfl

/-- Uses are put together in order, however they are grouped. -/
theorem append_assoc (first second third : Usage) :
    first ++ second ++ third = first ++ (second ++ third) := by
  ext <;> simp [Nat.add_assoc]

/-- No use adds nothing. -/
@[simp] theorem append_empty (usage : Usage) : usage ++ ({} : Usage) = usage := by
  ext <;> simp

end Usage

/-- Whether the name of the expression is a word for the builtin. -/
def Expression.isComputedBy (builtin : Builtin) (expression : Expression) : Bool :=
  expression.name.named? Builtin.words = some builtin

/-- An expression is computed by the builtin that its name is a word for. -/
theorem Expression.isComputedBy_iff_named {builtin : Builtin} {expression : Expression} :
    expression.isComputedBy builtin = true ↔
      expression.name.named? Builtin.words = some builtin :=
  decide_eq_true_iff

/-- An expression stands for what its builtin computes, whatever the variables are. -/
theorem Expression.isComputedBy_iff {vars : Variables} {builtin : Builtin}
    {expression : Expression} :
    expression.isComputedBy builtin = true ↔ expression.meaning vars = .computed builtin := by
  rw [meaning_eq_computed_iff, isComputedBy_iff_named, Builtin.ofName?_eq_named?]

namespace Resolver

variable (resolver : Resolver) (vars : Variables)

/-- The request that an expression makes of the random source. -/
def request? (expression : Expression) : Option Request :=
  match expression.name.named? Builtin.words with
  | some .uuid => some (.bytes 16)
  | some .random => some (.number (resolver.settings.defaultRange.select expression.classified))
  | some .now | none => none

/-- What expressions use that are evaluated one after the other: a reading of the clock
for each time, and the requests of the others from left to right. -/
def uses (expressions : List Expression) : Usage where
  readings := expressions.countP (·.isComputedBy .now)
  requests := expressions.filterMap resolver.request?

/-- The uses of expressions are made one after the other. -/
theorem uses_append (first second : List Expression) :
    resolver.uses (first ++ second) = resolver.uses first ++ resolver.uses second := by
  ext <;> simp [uses]

/-- The requests of a kind are those of the expressions that make such a request. -/
theorem countP_requests_uses (kind : Request → Bool) (builtin : Builtin)
    (makes : ∀ expression, ((resolver.request? expression).map kind).getD false =
      expression.isComputedBy builtin) (expressions : List Expression) :
    (resolver.uses expressions).requests.countP kind =
      expressions.countP (·.isComputedBy builtin) := by
  rw [uses, List.countP_filterMap]
  exact List.countP_congr fun expression _ => by rw [makes]

/-- Each identifier makes one request for sixteen bytes. -/
theorem count_bytes_uses (expressions : List Expression) :
    (resolver.uses expressions).requests.count (.bytes 16) =
      expressions.countP (·.isComputedBy .uuid) := by
  refine resolver.countP_requests_uses _ .uuid (fun expression => ?_) expressions
  unfold request? Expression.isComputedBy
  rcases expression.name.named? Builtin.words with _ | _ | _ | _ <;> simp

/-- Each random number makes one request for a number. -/
theorem countP_isNumber_uses (expressions : List Expression) :
    (resolver.uses expressions).requests.countP Request.isNumber =
      expressions.countP (·.isComputedBy .random) := by
  refine resolver.countP_requests_uses _ .random (fun expression => ?_) expressions
  unfold request? Expression.isComputedBy
  rcases expression.name.named? Builtin.words with _ | _ | _ | _ <;> simp [Request.isNumber]

/-- There are no other requests. -/
theorem length_requests_uses (expressions : List Expression) :
    (resolver.uses expressions).requests.length =
      (resolver.uses expressions).requests.count (.bytes 16) +
        (resolver.uses expressions).requests.countP Request.isNumber := by
  have kinds : ∀ request ∈ (resolver.uses expressions).requests,
      request = .bytes 16 ↔ ¬ request.isNumber := by
    intro request member
    obtain ⟨expression, -, makes⟩ := List.mem_filterMap.1 member
    unfold request? at makes
    split at makes <;> cases makes <;> simp [Request.isNumber]
  have others : (resolver.uses expressions).requests.countP (fun request => ¬ request.isNumber) =
      (resolver.uses expressions).requests.count (.bytes 16) :=
    List.countP_congr fun request member => by simpa using (kinds request member).symm
  rw [List.length_eq_countP_add_countP Request.isNumber, others, Nat.add_comm]

/-- The value of an expression when the sources have been used as stated: a time shows
the next reading, and the random source answers the next request. -/
def valueAt (usage : Usage) (expression : Expression) : Except Fault Text :=
  match expression.meaning vars with
  | .computed .now =>
    expression.timeStyle.display resolver.sources.clock
      (resolver.sources.clock.reading usage.readings)
  | .computed .uuid => .ok (Uuid.text (resolver.sources.random.bytes usage.requests 16))
  | .computed .random =>
    .ok (Decimal.write (resolver.sources.random.number usage.requests
      (resolver.settings.defaultRange.select expression.classified)).toNat)
  | .reference value => .ok value
  | .verbatim => .ok expression.text

/-- What stands in the place of a piece when the sources have been used as stated. -/
def pieceAt (usage : Usage) : Piece → Except Fault Text
  | .char c => .ok [c]
  | .expression expression => resolver.valueAt vars usage expression

/-- An expression that no builtin computes uses nothing. -/
theorem uses_eq_empty {expression : Expression}
    (notComputed : ∀ builtin, expression.meaning vars ≠ .computed builtin) :
    resolver.uses [expression] = {} := by
  have notNamed : expression.name.named? Builtin.words = none :=
    Option.eq_none_iff_forall_ne_some.2 fun builtin named =>
      have computes := Expression.isComputedBy_iff_named.2 named
      notComputed builtin (Expression.isComputedBy_iff.1 computes)
  apply Usage.ext <;> simp [uses, Expression.isComputedBy, request?, notNamed]

/-- An expression gets its value and uses the sources once, also where it is stopped. -/
theorem outcome_replace (expression : Expression) (usage : Usage) :
    (resolver.replace vars expression).outcome usage =
      (resolver.valueAt vars usage expression, usage ++ resolver.uses [expression]) := by
  rw [replace_eq, valueAt]
  cases stands : expression.meaning vars with
  | computed builtin =>
    have named := Expression.isComputedBy_iff_named.1 (Expression.isComputedBy_iff.2 stands)
    cases builtin with
    | now =>
      refine (Sources.outcome_now _ _ usage).trans (Prod.ext rfl (Usage.ext ?_ ?_)) <;>
        simp [uses, Expression.isComputedBy, request?, named]
    | uuid | random =>
      refine Prod.ext rfl (Usage.ext ?_ ?_) <;>
        simp [compute, Builtin.value, Sources.uuid, Sources.randomNumber, uses,
          Expression.isComputedBy, request?, named]
  | reference _ | verbatim =>
    have nothing := resolver.uses_eq_empty vars fun builtin computes =>
      Meaning.noConfusion (stands.symm.trans computes)
    rw [nothing, Usage.append_empty, Eval.outcome_pure]

/-- A piece gets what stands in its place, and uses the sources once. -/
theorem outcome_replacePiece (piece : Piece) (usage : Usage) :
    (resolver.replacePiece vars piece).outcome usage =
      (resolver.pieceAt vars usage piece, usage ++ resolver.uses piece.expression?.toList) := by
  cases piece with
  | char c => exact Prod.ext rfl (Usage.append_empty usage).symm
  | expression expression => exact resolver.outcome_replace vars expression usage

/-- Evaluating pieces from left to right makes the uses of all their expressions, and
puts in the place of each piece what stands there after the uses for those before it. -/
theorem outcome_mapM_replacePiece_eq_ok {found : List Piece} {usage used : Usage}
    {parts : List Text}
    (run : (found.mapM (resolver.replacePiece vars)).outcome usage = (.ok parts, used)) :
    used = usage ++ resolver.uses (found.filterMap Piece.expression?) ∧
      parts.length = found.length ∧
      ∀ before piece after, found = before ++ piece :: after →
        ∃ part, parts[before.length]? = some part ∧
          resolver.pieceAt vars
            (usage ++ resolver.uses (before.filterMap Piece.expression?)) piece = .ok part := by
  induction found generalizing usage parts with
  | nil =>
    rw [List.mapM_nil, Eval.outcome_pure] at run
    cases run
    refine ⟨(Usage.append_empty _).symm, rfl, fun before piece after cut => ?_⟩
    simp at cut
  | cons first rest ih =>
    obtain ⟨part, between, others, started, done, rfl⟩ := Eval.outcome_mapM_cons_eq_ok_iff.1 run
    rw [outcome_replacePiece, Prod.mk.injEq] at started
    obtain ⟨here, rfl⟩ := started
    obtain ⟨rfl, length_eq, restParts⟩ := ih done
    have uses_cons (later : List Piece) :
        usage ++ resolver.uses first.expression?.toList ++
            resolver.uses (later.filterMap Piece.expression?) =
          usage ++ resolver.uses ((first :: later).filterMap Piece.expression?) := by
      rw [Usage.append_assoc, ← uses_append]
      cases first <;> rfl
    refine ⟨uses_cons rest, congrArg Nat.succ length_eq, fun before piece after cut => ?_⟩
    cases before with
    | nil =>
      obtain ⟨rfl, -⟩ := List.cons.inj cut
      exact ⟨part, rfl, (Usage.append_empty usage).symm ▸ here⟩
    | cons _ before =>
      obtain ⟨rfl, restCut⟩ := List.cons.inj cut
      obtain ⟨other, found, value⟩ := restParts before piece after restCut
      exact ⟨other, found, uses_cons before ▸ value⟩

/-- The text consists of what stands in the place of each piece of the template after the
uses made for the pieces before it. -/
def IsInOrder (usage : Usage) (template text : Text) : Prop :=
  ∃ parts : List Text, text = parts.flatten ∧
    parts.length = (Template.pieces template).length ∧
    ∀ before piece after, Template.pieces template = before ++ piece :: after →
      ∃ part, parts[before.length]? = some part ∧
        resolver.pieceAt vars
          (usage ++ resolver.uses (before.filterMap Piece.expression?)) piece = .ok part

/-- A pass evaluates the expressions of a template in order and each of them once. -/
theorem outcome_pass_eq_ok {template text : Text} {usage used : Usage}
    (run : (resolver.pass vars template).outcome usage = (.ok text, used)) :
    used = usage ++ resolver.uses (Template.expressions template) ∧
      resolver.IsInOrder vars usage template text := by
  rw [pass, Eval.outcome_map] at run
  rcases each : ((Template.pieces template).mapM (resolver.replacePiece vars)).outcome usage with
    ⟨result, between⟩
  rw [each] at run
  cases result with
  | error fault => cases run
  | ok parts =>
    cases run
    obtain ⟨uses_eq, length_eq, parts_eq⟩ := outcome_mapM_replacePiece_eq_ok resolver vars each
    exact ⟨uses_eq, parts, rfl, length_eq, parts_eq⟩

section InOrder

open Template

variable {resolver : Resolver} {vars : Variables}

/-- If no value holds a brace, resolving uses the sources for the expressions of the
template from left to right. -/
theorem outcome_resolve_eq_ok (valuesFree : vars.AreBraceFree) {template : Text} {usage : Usage}
    (closed : IsBraceClosed template) (timesReturn : resolver.TimesReturn vars template usage) :
    ∃ text, (resolver.resolve vars template).outcome usage =
        (.ok text, usage ++ resolver.uses (expressions template)) ∧
      resolver.IsInOrder vars usage template text := by
  obtain ⟨text, used, run⟩ := returns_resolve_iff_timesReturn.2 timesReturn
  have passed := resolve_eq_pass valuesFree closed ▸ run
  obtain ⟨rfl, inOrder⟩ := resolver.outcome_pass_eq_ok vars passed
  exact ⟨text, run, inOrder⟩

/-- The payload of a message goes on with the sources where its topic has left them. -/
theorem outcome_resolveMessage_eq_ok (valuesFree : vars.AreBraceFree) {message : Message}
    {usage : Usage} (topicClosed : IsBraceClosed message.topic)
    (payloadClosed : ∀ payload ∈ message.payload, IsBraceClosed payload)
    (topicReturns : resolver.TimesReturn vars message.topic usage)
    (payloadReturns : ∀ payload ∈ message.payload, resolver.TimesReturn vars payload
      (usage ++ resolver.uses (expressions message.topic))) :
    ∃ topic payload, (resolver.resolveMessage vars message).outcome usage =
        (.ok { message with topic, payload },
          usage ++ resolver.uses
            (expressions message.topic ++ message.payload.toList.flatMap expressions)) ∧
      resolver.IsInOrder vars usage message.topic topic ∧
      Option.Rel (resolver.IsInOrder vars (usage ++ resolver.uses (expressions message.topic)))
        message.payload payload := by
  obtain ⟨topic, topicRun, topicInOrder⟩ :=
    outcome_resolve_eq_ok valuesFree topicClosed topicReturns
  cases stands : message.payload with
  | none =>
    refine ⟨topic, none, ?_, topicInOrder, .none⟩
    refine Eval.outcome_bind_eq_ok_iff.2 ⟨topic, _, topicRun, ?_⟩
    simp [stands]
  | some template =>
    obtain ⟨payload, payloadRun, payloadInOrder⟩ :=
      outcome_resolve_eq_ok valuesFree (payloadClosed template stands)
        (payloadReturns template stands)
    refine ⟨topic, some payload, ?_, topicInOrder, .some payloadInOrder⟩
    refine Eval.outcome_bind_eq_ok_iff.2 ⟨topic, _, topicRun, ?_⟩
    refine Eval.outcome_bind_eq_ok_iff.2 ⟨some payload, _, ?_, rfl⟩
    rw [stands, Option.mapM_some, Eval.outcome_map, payloadRun, Option.toList_some,
      List.flatMap_singleton, uses_append, Usage.append_assoc]
    rfl

end InOrder

end Resolver
end Stencil
