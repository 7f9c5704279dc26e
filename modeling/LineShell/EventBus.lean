import LineShell.Journal

/-!
# Event bus

Handlers by topic. A message goes to every handler that its topic has when the delivery begins,
whatever the handlers do meanwhile; a failing handler disturbs nobody.
-/

namespace LineShell

/-- Registered handlers, the oldest first, and the subscriptions by label, the newest first. -/
structure EventBus (η : Type) where
  registrations : List (String × η) := []
  labels : List (String × String × η) := []
deriving Repr

inductive Deed (η π : Type)
  | fail (text : String)
  | undo (label : String)
  | subscribe (label topic : String) (handler : η)
  | publish (topic : String) (payload : π)
deriving Repr

namespace EventBus

variable {η π : Type} [BEq η]

/-! ## Subscriptions -/

def subscribe (label topic : String) (handler : η) (bus : EventBus η) : EventBus η :=
  { registrations := bus.registrations ++ [(topic, handler)]
    labels := (label, topic, handler) :: bus.labels }

/-- Removes the oldest registration of the handler of a subscription for its topic. -/
def undo (label : String) (bus : EventBus η) : EventBus η :=
  match bus.labels.lookup label with
  | none => bus
  | some subscription => { bus with registrations := bus.registrations.erase subscription }

def handlersOf (topic : String) (bus : EventBus η) : List η :=
  (bus.registrations.filter (·.1 == topic)).map (·.2)

/-! ## Delivery -/

structure Traffic (η π : Type) where
  bus : EventBus η
  delivered : List (η × π) := []
  journal : List Entry := []
deriving Repr

/-- How a handler takes a message: one deed after the other, each chosen in view of the traffic until then. -/
inductive Conduct (η π : Type)
  | done
  | act (deed : Deed η π) (next : Traffic η π → Conduct η π)

def Conduct.ofDeeds : List (Deed η π) → Conduct η π
  | [] => .done
  | deed :: deeds => .act deed fun _ => ofDeeds deeds

/-- Does the deeds of a handler up to a failure, whose text is given back. `again` publishes. -/
def perform (again : String → π → Traffic η π → Option (Traffic η π)) :
    Conduct η π → Traffic η π → Option (Traffic η π × Option String)
  | .done, t => some (t, none)
  | .act (.fail text) _, t => some (t, some text)
  | .act (.undo label) next, t =>
    let t := { t with bus := t.bus.undo label }
    perform again (next t) t
  | .act (.subscribe label topic handler) next, t =>
    let t := { t with bus := t.bus.subscribe label topic handler }
    perform again (next t) t
  | .act (.publish topic payload) next, t =>
    match again topic payload t with
    | none => none
    | some t => perform again (next t) t

def complaint (topic text : String) : Entry := ⟨.error, s!"Handler for {topic} failed: {text}"⟩

def deliver (conduct : η → π → Traffic η π → Conduct η π)
    (again : String → π → Traffic η π → Option (Traffic η π)) (topic : String) (payload : π) (t : Traffic η π)
    (handler : η) : Option (Traffic η π) :=
  let t := { t with delivered := t.delivered ++ [(handler, payload)] }
  match perform again (conduct handler payload t) t with
  | none => none
  | some (t, none) => some t
  | some (t, some text) => some { t with journal := t.journal ++ [complaint topic text] }

def announcement (topic : String) (count : Nat) : Entry := ⟨.debug, s!"Publishing {topic} to {count} handler(s)"⟩

/-- Publishes a message to handlers of any conduct. The number bounds how deep publications nest; there is no
result when they nest deeper. -/
def publishAmong (conduct : η → π → Traffic η π → Conduct η π) :
    Nat → String → π → Traffic η π → Option (Traffic η π)
  | 0, _, _, _ => none
  | depth + 1, topic, payload, t =>
    -- Whom the message goes to is settled before the first of them is called.
    let handlers := t.bus.handlersOf topic
    handlers.foldlM (deliver conduct (publishAmong conduct depth) topic payload)
      { t with journal := t.journal ++ [announcement topic handlers.length] }

def publishWithin (deeds : η → π → List (Deed η π)) : Nat → String → π → Traffic η π → Option (Traffic η π) :=
  publishAmong fun handler payload _ => .ofDeeds (deeds handler payload)

def publish (topic : String) (payload : π) (bus : EventBus η) : Traffic η π :=
  -- Handlers that only record what they get publish nothing, so one level is enough.
  (publishWithin (fun _ _ => []) 1 topic payload { bus }).getD { bus }

end EventBus

end LineShell
