import Stencil.Message

/-!
# Sessions

A session keeps variables, settings and sources over many requests. Clock
readings and draws go on from one request to the next, so that later ones
continue where earlier ones stopped.
-/

namespace Stencil

/-- What a session remembers. -/
structure Session where
  resolver : Resolver
  vars : Variables := ∅
  usage : Usage := {}

/-- A request to a session. -/
inductive Session.Command
  | resolve (template : Text)
  | userNames (template : Text)
  | missingNames (template : Text)
  | builtin (expression : Expression)
  | message (message : Message)
  | hints (message : Message)
  | filters (filters : List Text)
  | define (name value : Text)
  | undefine (name : Text)
  | setClock (clock : Clock)
  | setSettings (settings : Settings)

/-- The answer to a request. -/
inductive Session.Reply
  | text (text : Text)
  | names (names : List Text)
  | value (value : Option Text)
  | message (message : Message)
  | hints (hints : Hints)
  | texts (texts : List Text)
  | defined (count : Nat)
  | refused (cause : Invalid)
  | done
  | settings (settings : Settings)
  deriving DecidableEq, Repr

namespace Session

/-- Runs an evaluation that goes on from the uses made so far. -/
def evaluate (session : Session) {α : Type} (reply : α → Reply) (evaluation : Eval α) :
    Except Fault Reply × Session :=
  let (result, usage) := evaluation.outcome session.usage
  (result.map reply, { session with usage })

/-- Answers one request. A new clock starts with its first reading. -/
def step (session : Session) : Command → Except Fault Reply × Session
  | .resolve template =>
    session.evaluate .text (session.resolver.resolve session.vars template)
  | .userNames template => (.ok (.names (Template.userNames template)), session)
  | .missingNames template =>
    (.ok (.names (Template.missingNames session.vars template)), session)
  | .builtin expression => session.evaluate .value (session.resolver.builtin? expression)
  | .message message =>
    session.evaluate .message (session.resolver.resolveMessage session.vars message)
  | .hints message => (.ok (.hints (message.hints session.vars)), session)
  | .filters filters =>
    session.evaluate .texts (session.resolver.resolveFilters session.vars filters)
  | .define name value =>
    match Name.validate name with
    | .ok () =>
      let vars := session.vars.insert name value
      (.ok (.defined vars.size), { session with vars })
    | .error cause => (.ok (.refused cause), session)
  | .undefine name =>
    let vars := session.vars.erase name
    (.ok (.defined vars.size), { session with vars })
  | .setClock clock =>
    let sources := { session.resolver.sources with clock }
    (.ok .done, { session with
      resolver := { session.resolver with sources }
      usage := { session.usage with readings := 0 } })
  | .setSettings settings =>
    (.ok (.settings settings), { session with resolver := { session.resolver with settings } })

/-- Answers requests in order. Each answer comes with the requests to the random
source that it took. A fault ends its own request only; what was used before it
stays used. -/
def run (session : Session) : List Command → List (Except Fault Reply × List Request)
  | [] => []
  | command :: rest =>
    let (result, next) := session.step command
    (result, next.usage.requests.drop session.usage.requests.length) :: run next rest

end Session
end Stencil
