import Stencil.Proofs.Resolver.Usage

/-!
# The names that stay

Where no value holds a brace, resolving leaves of the expressions of a brace-closed template
those that name no builtin and are undefined or carry modifiers, in their order and each as
often as it occurs. If no defined name carries modifiers, these are the names that are
reported as missing before anything is resolved. Main statement: `names_left_by_resolve`.
-/

namespace Stencil

/-- Whether the name of the expression is no word for a builtin, and is undefined or carries
modifiers. -/
def Expression.isOpen (vars : Variables) (expression : Expression) : Bool :=
  (["now", "timestamp", "uuid", "random", "rand"].all fun word =>
    !expression.name.isKeyword word) &&
      (!vars.defines expression.name || expression.hasModifiers)

/-- The words for builtins are what is reserved. -/
theorem Expression.isOpen_eq (vars : Variables) (expression : Expression) :
    expression.isOpen vars = (!Builtin.isReserved expression.name &&
      (!vars.defines expression.name || expression.hasModifiers)) := by
  rw [isOpen]
  congr 1
  rw [Bool.eq_iff_iff, List.all_eq_true, Bool.not_eq_true', Builtin.isReserved_eq_false_iff]
  simp only [Bool.not_eq_true']

namespace Template

/-- No defined name is used with modifiers in the template, the words for builtins apart. -/
def UsesPlainly (vars : Variables) (template : Text) : Prop :=
  ∀ expression ∈ expressions template,
    (∀ word ∈ ["now", "timestamp", "uuid", "random", "rand"],
      expression.name.isKeyword word = false) →
    vars.defines expression.name = true → expression.modifiers = []

instance (vars : Variables) (template : Text) : Decidable (UsesPlainly vars template) :=
  inferInstanceAs (Decidable (∀ expression ∈ expressions template, _))

variable {vars : Variables}

/-- The open expressions are those that stand for themselves. -/
theorem isOpen_iff {expression : Expression} :
    expression.isOpen vars = true ↔ expression.meaning vars = .verbatim := by
  rw [Expression.meaning_eq_verbatim_iff]
  cases modifiers : expression.modifiers <;>
    simp [Expression.isOpen_eq, Expression.hasModifiers, Variables.defines, modifiers]

/-- Where no value holds a brace, expressions leave behind those of them that are open. -/
theorem flatMap_successors_eq_filter (valuesFree : vars.AreBraceFree) (found : List Expression) :
    found.flatMap (·.successors vars) = found.filter (·.isOpen vars) := by
  induction found with
  | nil => rfl
  | cons expression rest ih =>
    rw [List.flatMap_cons, List.filter_cons, ih, Expression.successors]
    cases stands : expression.meaning vars with
    | computed builtin => simp [isOpen_iff, stands]
    | reference value =>
      have free := valuesFree _ value (Expression.get?_of_meaning_eq_reference stands)
      simp [isOpen_iff, stands, expressions_of_isBraceFree free]
    | verbatim => simp [isOpen_iff, stands]

/-- The missing names of a template are those of its open expressions that are undefined. -/
theorem missingNames_eq (template : Text) :
    missingNames vars template = (((expressions template).filter (·.isOpen vars)).filter
      fun expression => !vars.defines expression.name).map Expression.name := by
  rw [missingNames, userNames, names, List.filter_map, List.filter_map, List.filter_filter,
    List.filter_filter]
  refine congrArg _ (List.filter_congr fun expression _ => ?_)
  cases reserved : Builtin.isReserved expression.name <;>
    cases defined : vars.defines expression.name <;>
      simp [Expression.isOpen_eq, reserved, defined]

/-- The names of the open expressions are the missing ones exactly if no defined name is used
with modifiers: such an expression makes one list longer than the other. -/
theorem names_open_eq_missingNames_iff (template : Text) :
    ((expressions template).filter (·.isOpen vars)).map Expression.name =
      missingNames vars template ↔ UsesPlainly vars template := by
  rw [missingNames_eq]
  constructor
  · intro same expression member isFree defined
    have free := (Builtin.isReserved_eq_false_iff expression.name).2 isFree
    -- The missing names are a part of the others; of the same length, nothing is left out.
    have lengths := congrArg List.length same
    rw [List.length_map, List.length_map] at lengths
    have allUndefined := List.filter_eq_self.1 (List.filter_sublist.eq_of_length lengths.symm)
    cases modifiers : expression.modifiers with
    | nil => rfl
    | cons token rest =>
      have isOpen : expression.isOpen vars = true := by
        simp [Expression.isOpen_eq, Expression.hasModifiers, free, modifiers]
      have undefined := allUndefined expression (List.mem_filter.2 ⟨member, isOpen⟩)
      simp [defined] at undefined
  · intro plainly
    refine congrArg _ (List.filter_eq_self.2 fun expression member => ?_).symm
    obtain ⟨inTemplate, isOpen⟩ := List.mem_filter.1 member
    rw [Expression.isOpen_eq, Bool.and_eq_true, Bool.not_eq_true'] at isOpen
    have isFree := (Builtin.isReserved_eq_false_iff expression.name).1 isOpen.1
    cases defined : vars.defines expression.name with
    | false => rfl
    | true =>
      have plain := plainly expression inTemplate isFree defined
      simp [Expression.hasModifiers, plain, defined] at isOpen

/-- A text holds no expression exactly if it holds no name of one. -/
theorem names_eq_nil_iff {text : Text} : names text = [] ↔ hasExpressions text = false := by
  rw [names, List.map_eq_nil_iff, hasExpressions_eq_false_iff]

end Template

open Template

namespace Message

variable {vars : Variables}

/-- The hints are complete exactly if no template of the message misses a name. -/
theorem isComplete_hints_iff {message : Message} :
    (message.hints vars).isComplete = true ↔
      ∀ template ∈ message.templates, missingNames vars template = [] := by
  rw [Hints.isComplete, hints, List.isEmpty_iff, ← List.flatMap_eq_nil_iff]
  cases message.templates.flatMap (missingNames vars) with
  | nil => exact iff_of_true rfl rfl
  | cons name rest =>
    rw [List.eraseDups_cons]
    exact iff_of_false (List.cons_ne_nil _ _) (List.cons_ne_nil _ _)

end Message

namespace Resolver

variable {resolver : Resolver} {vars : Variables}

/-- Resolving leaves the open expressions of a template, in order. -/
theorem ensures_expressions_resolve (valuesFree : vars.AreBraceFree) {template : Text}
    (closed : IsBraceClosed template) :
    (resolver.resolve vars template).Ensures fun text =>
      expressions text = (expressions template).filter (·.isOpen vars) := by
  rw [resolve_eq_pass valuesFree closed, ← flatMap_successors_eq_filter valuesFree]
  exact ensures_expressions_pass (valuesFree.areBraceClosed.refersToClosed template) closed

/-- What resolving ensures of each template of a message, it ensures of topic and payload of
the resolved message. -/
theorem ensures_map_resolveMessage {α : Type} {observed expected : Text → α} {message : Message}
    (each : ∀ template ∈ message.templates, (resolver.resolve vars template).Ensures fun text =>
      observed text = expected template) :
    (resolver.resolveMessage vars message).Ensures fun resolved =>
      resolved.templates.map observed = message.templates.map expected := by
  obtain ⟨ofTopic, ofPayload⟩ := List.forall_mem_cons.1 each
  refine ofTopic.bind fun topic topicSame => ?_
  cases stands : message.payload with
  | none =>
    rw [Option.mapM_none, pure_bind]
    refine .pure ?_
    simp [Message.templates, stands, topicSame]
  | some template =>
    rw [Option.mapM_some, bind_map_left]
    refine (ofPayload template (by simp [stands])).bind fun text textSame => .pure ?_
    simp [Message.templates, stands, topicSame, textSame]

/-- Where no defined name is used with modifiers, the names that stay in a resolved message
are those that its templates miss. -/
theorem flatMap_names_eq_of_usesPlainly {message resolved : Message}
    (left : resolved.templates.map expressions =
      message.templates.map fun template => (expressions template).filter (·.isOpen vars))
    (plainly : ∀ template ∈ message.templates, UsesPlainly vars template) :
    resolved.templates.flatMap names = message.templates.flatMap (missingNames vars) :=
  calc resolved.templates.flatMap names
      = (resolved.templates.map expressions).flatMap (·.map Expression.name) := by
        rw [List.flatMap_map]
        rfl
    _ = message.templates.flatMap fun template =>
          ((expressions template).filter (·.isOpen vars)).map Expression.name := by
        rw [left, List.flatMap_map]
    _ = message.templates.flatMap (missingNames vars) := by
        rw [List.flatMap_def, List.flatMap_def]
        refine congrArg List.flatten (List.map_congr_left fun template member => ?_)
        exact (names_open_eq_missingNames_iff template).2 (plainly template member)

/-- If no value holds a brace, the names that resolving leaves in a brace-closed template are
those of its expressions that name no builtin and are undefined or carry modifiers, in order
and with repetitions. They are the missing names exactly if no defined name is used with
modifiers. Then the hints for a message are the names that stay in its resolved topic and
payload, each once, and are complete exactly if no expression stays there. -/
theorem names_left_by_resolve (resolver : Resolver) (valuesFree : vars.AreBraceFree) :
    (∀ template usage, IsBraceClosed template → resolver.TimesReturn vars template usage →
      ∃ text used, (resolver.resolve vars template).outcome usage = (.ok text, used) ∧
        names text = ((expressions template).filter (·.isOpen vars)).map Expression.name ∧
        (names text = missingNames vars template ↔ UsesPlainly vars template)) ∧
    ∀ (message : Message) usage, IsBraceClosed message.topic →
      (∀ payload ∈ message.payload, IsBraceClosed payload) →
      resolver.TimesReturn vars message.topic usage →
      (∀ payload ∈ message.payload, resolver.TimesReturn vars payload
        (usage ++ resolver.uses (expressions message.topic))) →
        ∃ resolved used, (resolver.resolveMessage vars message).outcome usage =
            (.ok resolved, used) ∧
          (UsesPlainly vars message.topic →
            (∀ payload ∈ message.payload, UsesPlainly vars payload) →
            (message.hints vars).missing =
              (names resolved.topic ++ resolved.payload.toList.flatMap names).eraseDups ∧
            ((message.hints vars).isComplete = true ↔
              hasExpressions resolved.topic = false ∧
                ∀ payload ∈ resolved.payload, hasExpressions payload = false)) := by
  constructor
  · intro template usage closed timesReturn
    obtain ⟨text, used, run⟩ := returns_resolve_iff_timesReturn.2 timesReturn
    have left := ensures_expressions_resolve valuesFree closed usage text (congrArg Prod.fst run)
    have namesLeft : names text =
        ((expressions template).filter (·.isOpen vars)).map Expression.name := by
      rw [names, left]
    refine ⟨text, used, run, namesLeft, ?_⟩
    rw [namesLeft, names_open_eq_missingNames_iff]
  · intro message usage topicClosed payloadClosed topicReturns payloadReturns
    have closed := Message.forall_mem_templates_iff.2 ⟨topicClosed, payloadClosed⟩
    obtain ⟨topic, payload, run, -⟩ := outcome_resolveMessage_eq_ok valuesFree topicClosed
      payloadClosed topicReturns payloadReturns
    refine ⟨_, _, run, fun topicPlain payloadPlain => ?_⟩
    have left := ensures_map_resolveMessage
      (fun template member => ensures_expressions_resolve valuesFree (closed template member))
      usage _ (congrArg Prod.fst run)
    have sameNames := flatMap_names_eq_of_usesPlainly left
      (Message.forall_mem_templates_iff.2 ⟨topicPlain, payloadPlain⟩)
    constructor
    · exact congrArg List.eraseDups sameNames.symm
    · rw [Message.isComplete_hints_iff, ← List.flatMap_eq_nil_iff, ← sameNames,
        List.flatMap_eq_nil_iff, Message.forall_mem_templates_iff]
      simp only [names_eq_nil_iff]

/-- A defined name with modifiers stays without being reported. In a message that has no such
name an undefined one is reported once and stays in topic and payload. -/
theorem names_left_by_resolve_undefined :
    let resolver : Resolver := ⟨⟨.ofTable ⟨1718447445, 0⟩ 60 {}, .ofDraws [3]⟩, {}⟩
    let vars := Variables.ofList [("site".toList, "north".toList)]
    let template := "{site}{gone}{site:x}{Now:unix}{gone}".toList
    let message : Message :=
      { topic := "{site}/{gone}/{now:unix}".toList, payload := some "{gone:x}{uuid}".toList }
    let unused : Usage := {}
    vars.AreBraceFree ∧
      (IsBraceClosed template ∧ resolver.TimesReturn vars template unused ∧
        ∃ text used, (resolver.resolve vars template).outcome unused = (.ok text, used) ∧
          names text = ((expressions template).filter (·.isOpen vars)).map Expression.name ∧
          (names text = missingNames vars template ↔ UsesPlainly vars template)) ∧
      IsBraceClosed message.topic ∧ (∀ payload ∈ message.payload, IsBraceClosed payload) ∧
      resolver.TimesReturn vars message.topic unused ∧
      (∀ payload ∈ message.payload, resolver.TimesReturn vars payload
        (unused ++ resolver.uses (expressions message.topic))) ∧
      UsesPlainly vars message.topic ∧ (∀ payload ∈ message.payload, UsesPlainly vars payload) ∧
      (∃ resolved used, (resolver.resolveMessage vars message).outcome unused =
          (.ok resolved, used) ∧
        (message.hints vars).missing =
          (names resolved.topic ++ resolved.payload.toList.flatMap names).eraseDups ∧
        ((message.hints vars).isComplete = true ↔
          hasExpressions resolved.topic = false ∧
            ∀ payload ∈ resolved.payload, hasExpressions payload = false)) ∧
      (message.hints vars).missing = ["gone".toList] := by
  intro resolver vars template message unused
  have valuesFree : vars.AreBraceFree := Variables.areBraceFree_of_forall_bindings (by decide)
  have closed : IsBraceClosed template := by decide
  have timesReturn : resolver.TimesReturn vars template unused :=
    returns_resolve_iff_timesReturn.1 (by decide +kernel)
  have topicClosed : IsBraceClosed message.topic := by decide
  have payloadClosed : ∀ payload ∈ message.payload, IsBraceClosed payload := by decide
  have topicReturns : resolver.TimesReturn vars message.topic unused :=
    returns_resolve_iff_timesReturn.1 (by decide +kernel)
  have payloadReturns : ∀ payload ∈ message.payload, resolver.TimesReturn vars payload
      (unused ++ resolver.uses (expressions message.topic)) := by
    intro payload isPayload
    cases isPayload
    exact returns_resolve_iff_timesReturn.1 (by decide +kernel)
  have topicPlain : UsesPlainly vars message.topic := by decide
  have payloadPlain : ∀ payload ∈ message.payload, UsesPlainly vars payload := by decide
  obtain ⟨ofTemplate, ofMessage⟩ := names_left_by_resolve resolver valuesFree
  obtain ⟨resolved, used, run, ofPlain⟩ :=
    ofMessage message unused topicClosed payloadClosed topicReturns payloadReturns
  exact ⟨valuesFree, ⟨closed, timesReturn, ofTemplate template unused closed timesReturn⟩,
    topicClosed, payloadClosed, topicReturns, payloadReturns, topicPlain, payloadPlain,
    ⟨resolved, used, run, ofPlain topicPlain payloadPlain⟩, by decide⟩

end Resolver
end Stencil
