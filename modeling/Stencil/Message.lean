import Stencil.Resolver

/-!
# Messages

A message has a topic, perhaps a payload, a delivery guarantee and a retain
mark. Topic and payload are templates until the message is resolved.
-/

namespace Stencil

/-- How often a message may be delivered. -/
inductive Qos
  | atMostOnce
  | atLeastOnce
  | exactlyOnce
  deriving DecidableEq, Repr

/-- The number of a delivery guarantee. -/
def Qos.level : Qos → Nat
  | .atMostOnce => 0
  | .atLeastOnce => 1
  | .exactlyOnce => 2

/-- A message, or the templates for one. -/
structure Message where
  topic : Text
  payload : Option Text := none
  qos : Qos := .atMostOnce
  retain : Bool := false
  deriving DecidableEq, Repr

/-- The names that keep a message from being resolved completely. -/
structure Hints where
  missing : List Text
  deriving DecidableEq, Repr

/-- Whether every name is defined. -/
def Hints.isComplete (hints : Hints) : Bool :=
  hints.missing.isEmpty

namespace Message

/-- The templates of a message, the topic first. -/
def templates (message : Message) : List Text :=
  message.topic :: message.payload.toList

/-- What holds of the templates of a message holds of its topic and of a payload. -/
theorem forall_mem_templates_iff {message : Message} {holds : Text → Prop} :
    (∀ template ∈ message.templates, holds template) ↔
      holds message.topic ∧ ∀ payload ∈ message.payload, holds payload := by
  simp [templates]

/-- The names of the message that are neither reserved nor defined, each once, in
the order in which they occur first. -/
def hints (vars : Variables) (message : Message) : Hints where
  missing := (message.templates.flatMap (Template.missingNames vars)).eraseDups

end Message

namespace Resolver

/-- The message with its topic resolved and then its payload. -/
def resolveMessage (resolver : Resolver) (vars : Variables) (message : Message) :
    Eval Message := do
  let topic ← resolver.resolve vars message.topic
  let payload ← message.payload.mapM (resolver.resolve vars)
  return { message with topic, payload }

/-- The filters of a subscription, resolved one after the other. -/
def resolveFilters (resolver : Resolver) (vars : Variables) (filters : List Text) :
    Eval (List Text) :=
  filters.mapM (resolver.resolve vars)

end Resolver
end Stencil
