import Lag.Log
import Lag.Table

/-!
# Events

Scripts are compiled, executed and reloaded; each of these is announced as an event, and the events
of one class are a topic. Handlers subscribe to a topic, as often as they like. A publication calls
the subscriptions to its topic that were there when it started, in order. What a handler does to
the subscriptions takes effect for later publications. A handler that fails is noted in the journal
and concerns nobody else.
-/
namespace Lag

/-- The topics that scripts are announced under. -/
inductive Topic where
  /-- Scripts that are compiled. -/
  | compiled
  /-- Functions that are executed. -/
  | executed
  /-- Scripts that are reloaded. -/
  | reloaded
  deriving DecidableEq, Repr, Inhabited

/-- The name of a topic: that of the class of its events. -/
def Topic.name : Topic → String
  | .compiled => "ScriptCompiled"
  | .executed => "ScriptExecuted"
  | .reloaded => "ScriptHotReloaded"

instance : Coe Topic String := ⟨Topic.name⟩

/-- The events. -/
inductive Event where
  /-- A script was compiled, with success or without. -/
  | compiled (id : String) (success : Bool)
  /-- A function of a script returned. -/
  | executed (id entry : String)
  /-- A script was compiled again and took the place of its older version. -/
  | reloaded (id : String) (version : Nat)
  deriving DecidableEq, Repr, Inhabited

/-- The topic of an event. -/
def Event.topic : Event → Topic
  | .compiled _ _ => .compiled
  | .executed _ _ => .executed
  | .reloaded _ _ => .reloaded

/-- The subscriptions under the names of their topics, in order. A topic without subscriptions has
no entry. -/
structure Publisher (η : Type) where
  /-- The subscriptions. -/
  subscriptions : Table (List η) := []
  deriving Repr, Inhabited

namespace Publisher

variable {η ε κ : Type}

/-- The subscriptions to a topic. -/
def handlers (publisher : Publisher η) (topic : String) : List η :=
  (publisher.subscriptions.find? topic).getD []

/-- The publisher with other subscriptions to a topic. -/
def withHandlers (publisher : Publisher η) (handlers : List η) (topic : String) : Publisher η :=
  ⟨if handlers.isEmpty then publisher.subscriptions.erase topic
    else Table.put topic handlers publisher.subscriptions⟩

/-- The number of subscriptions to a topic. -/
def count (publisher : Publisher η) (topic : String) : Nat := (publisher.handlers topic).length

/-- Subscribe a handler to a topic. -/
def subscribe (publisher : Publisher η) (topic : String) (handler : η) : Publisher η :=
  publisher.withHandlers (publisher.handlers topic ++ [handler]) topic

/-- End the oldest subscription of a handler to a topic; whether there was one. -/
def unsubscribe [DecidableEq η] (publisher : Publisher η) (topic : String) (handler : η) :
    Bool × Publisher η :=
  if handler ∈ publisher.handlers topic then
    (true, publisher.withHandlers ((publisher.handlers topic).erase handler) topic)
  else (false, publisher)

/-- What handlers can reach: the publisher, the journal, and whatever they remember. -/
structure Desk (κ η : Type) where
  /-- The publisher. -/
  publisher : Publisher η
  /-- The journal. -/
  journal : List Log.Entry := []
  /-- What the handlers remember. -/
  own : κ

/-- What a handler does, and whoever else uses the publisher. It may fail, for a reason. -/
abbrev Work (κ η α : Type) := ExceptT String (StateM (Desk κ η)) α

/-- Subscribe a handler to a topic; nothing is no handler. -/
def enrol (topic : String) : Option η → Work κ η Unit
  | none => throw "handler must not be None"
  | some handler =>
    modify fun desk => { desk with publisher := desk.publisher.subscribe topic handler }

/-- End the oldest subscription of a handler to a topic; whether there was one. -/
def dismiss [DecidableEq η] (topic : String) : Option η → Work κ η Bool
  | none => return false
  | some handler =>
    modifyGet fun desk =>
      let (found, publisher) := desk.publisher.unsubscribe topic handler
      (found, { desk with publisher })

/-- A call of a handler. -/
structure Call (η : Type) where
  /-- The handler. -/
  handler : η
  /-- Why it failed, if it did. -/
  fault : Option String
  deriving DecidableEq, Repr

/-- The entry of the journal about a handler that fails. -/
def failure (topic : String) : Log.Entry :=
  ⟨Log.rootName ++ ".runtime.events", .error, "Error in handler for " ++ topic⟩

/-- Note in the journal that a handler failed. -/
def Desk.noting (topic : String) (desk : Desk κ η) : Desk κ η :=
  { desk with journal := desk.journal ++ [failure topic] }

/-- Call handlers in order with an event; a failure is noted. -/
def deliver (react : η → ε → Work κ η Unit) (topic : String) (event : ε) :
    List η → Work κ η (List (Call η))
  | [] => return []
  | handler :: rest => do
    let fault ← tryCatch (do react handler event; return none) fun fault => do
      modify (Desk.noting topic)
      return some fault
    let calls ← deliver react topic event rest
    return ⟨handler, fault⟩ :: calls

/-- Call the handlers that are subscribed to a topic with an event of it. -/
def announce (react : η → ε → Work κ η Unit) (topic : String) (event : ε) :
    Work κ η (List (Call η)) := do
  deliver react topic event ((← get).publisher.handlers topic)

/-- Publish an event to handlers that do not fail and remember nothing: the handlers that are
called, in order, and the publisher afterwards. -/
def publish (react : η → Event → Publisher η → Publisher η) (publisher : Publisher η)
    (event : Event) : List η × Publisher η :=
  let reaction (handler : η) (event : Event) : Work Unit η Unit :=
    modify fun desk => { desk with publisher := react handler event desk.publisher }
  let (outcome, desk) := ((announce reaction event.topic event).run).run { publisher, own := () }
  ((outcome.toOption.getD []).map Call.handler, desk.publisher)

/-- A topic has the subscriptions that it was given. -/
@[simp] theorem handlers_withHandlers (publisher : Publisher η) (handlers : List η)
    (topic : String) : (publisher.withHandlers handlers topic).handlers topic = handlers := by
  unfold withHandlers Publisher.handlers
  cases handlers with
  | nil => simp
  | cons first rest => simp

/-- Other topics keep their subscriptions. -/
theorem handlers_withHandlers_ne (publisher : Publisher η) (handlers : List η)
    {topic other : String} (different : other ≠ topic) :
    (publisher.withHandlers handlers topic).handlers other = publisher.handlers other := by
  unfold withHandlers Publisher.handlers
  split
  · rw [Table.find?_erase_ne _ different]
  · rw [Table.find?_put_ne _ _ different]

end Publisher

end Lag
