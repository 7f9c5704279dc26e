import LineShell.Backend
import LineShell.Clock
import LineShell.EventBus
import LineShell.Json.Shape
import LineShell.Observer
import LineShell.Session

/-!
# Terminal

A session with all that surrounds it: who watches the transcript, the event bus, the backend, the
clock and the journal. Commands are functions on it.
-/

namespace LineShell

inductive Notice
  | shown (observer : String) (lines : List String)
  | message (listener payload : String)
deriving Repr, DecidableEq

def ownAddress : Http.Address := { scheme := "http", host := "localhost", path := "/" }

/-- A session and its surroundings. Of the requests that were sent, those with a good address, a good
body and a readable host reached the backend. What the backend leaves to the program is answered by `home`. -/
structure Terminal where
  session : Session := {}
  watchers : List Watcher := []
  bus : Option (EventBus String) := none
  notices : List Notice := []
  client : Http.Address := ownAddress
  backend : Backend := Backend.absent
  home : Errand → Reply := fun _ => .unreachable "refused"
  sent : List Request := []
  reached : List Request := []
  clock : Clock := .stopped { year := 2024, month := 3, day := 7, hour := 9, minute := 5, second := 3 }
  journal : List Entry := []

namespace Terminal

/-! ## Journal -/

def noteAll (entries : List Entry) (t : Terminal) : Terminal := { t with journal := t.journal ++ entries }

def note (level : Level) (text : String) (t : Terminal) : Terminal := t.noteAll [⟨level, text⟩]

/-! ## Watchers -/

def audience (t : Terminal) : List Nat :=
  (List.range t.watchers.length).filter fun i => (t.watchers[i]?.map Watcher.active).getD false

def subscriptionOf? (name : String) (t : Terminal) : Option Nat :=
  ((List.range t.watchers.length).filter fun i =>
    match t.watchers[i]? with
    | some w => w.released && w.observer.name == name
    | none => false).getLast?

def unsubscribe (name : String) (t : Terminal) : Terminal :=
  match t.subscriptionOf? name with
  | none => t
  | some i => { t with watchers := t.watchers.modify i fun w => { w with active := false } }

/-- Shows a list to one watcher, who may add to the transcript with `echo`. Gives the list as the
watcher leaves it, and the text of its failure. -/
def showTo (echo : String → Terminal → Terminal) (i : Nat) (lines : List String) (t : Terminal) :
    List String × Option String × Terminal :=
  match t.watchers[i]? with
  | none => (lines, none, t)
  | some w =>
    -- The showing counts before the watcher does anything: a line that it adds comes to it as its next one.
    let t := { t with
      watchers := t.watchers.modify i fun w => { w with shown := w.shown + 1 }
      notices := t.notices ++ [.shown w.observer.name lines] }
    let t := match w.observer.echoes[w.shown]? with
      | some (some line) => echo line t
      | _ => t
    let reaction := w.observer.react w.shown lines
    let t := reaction.undo.foldl (fun t name => t.unsubscribe name) t
    (reaction.alter lines, reaction.failure, t)

/-- Shows one list to the watchers in turn, each seeing what those before it made of the list. -/
def showAll (echo : String → Terminal → Terminal) : List Nat → List String → Terminal → Terminal
  | [], _, t => t
  | i :: rest, lines, t =>
    match t.showTo echo i lines with
    | (lines, none, t) => showAll echo rest lines t
    | (lines, some text, t) =>
      showAll echo rest lines (t.note .error s!"Transcript observer failed: {text}")

def announce (echo : String → Terminal → Terminal) (t : Terminal) : Terminal :=
  t.showAll echo t.audience t.session.transcript

/-- Adds a line to the transcript and announces it. The first argument bounds how deep the lines
that watchers add in turn may nest. -/
def appendWithin : Nat → String → Terminal → Terminal
  | 0, line, t => { t with session := t.session.append line }.announce fun _ t => t
  | depth + 1, line, t => { t with session := t.session.append line }.announce (appendWithin depth)

def pending (t : Terminal) : Nat := t.watchers.foldl (fun n w => n + w.pending) 0

-- Each line that a watcher adds is one less to come, so no line is lost to the bound.
def append (line : String) (t : Terminal) : Terminal := appendWithin t.pending line t

def clear (t : Terminal) : Terminal :=
  { t with session := t.session.clear }.announce (appendWithin t.pending)

/-- Subscribes an observer, which is shown the transcript at once. A failure then leaves it
subscribed, but its subscription cannot be ended. -/
def subscribe (observer : Observer) (t : Terminal) : Option String × Terminal :=
  let i := t.watchers.length
  let t := { t with watchers := t.watchers ++ [({ observer := observer } : Watcher)] }
  match t.showTo (appendWithin t.pending) i t.session.transcript with
  | (_, some text, t) => (some text, t)
  | (_, none, t) =>
    (none, { t with watchers := t.watchers.modify i fun w => { w with released := true } })

/-! ## Event bus -/

def publish (topic payload : String) (t : Terminal) : Terminal :=
  match t.bus with
  | none => t
  | some bus =>
    let traffic := bus.publish topic payload
    { t with
      bus := some traffic.bus
      notices := t.notices ++ traffic.delivered.map fun (listener, payload) => .message listener payload
      journal := t.journal ++ traffic.journal }

/-! ## Backend -/

/-- What sending a request comes to at once: an outcome, or an errand that the program itself is to
answer. -/
inductive Sending
  | settled (outcome : Except Failure Json)
  | home (errand : Errand)

/-- A request on its way to its address, if that is a good one, the body can be written and the host can
be read. -/
def errandOf (request : Request) (t : Terminal) : Except Failure Errand :=
  match t.client.resolve request.path request.params with
  | .error fault => .error (.unfitAddress fault)
  | .ok address =>
    match request.body.bind Json.unsendable?, address.unreadable? with
    | some failure, _ => .error failure
    | none, some fault => .error (.unreadableHost fault)
    | none, none => .ok { request, address }

def settle (errand : Errand) (reply : Reply) (t : Terminal) : Except Failure Json × Terminal :=
  let (outcome, entries) := reply.settle errand
  (outcome, t.noteAll entries)

def start (request : Request) (t : Terminal) : Sending × Terminal :=
  -- A request that cannot be sent is noted all the same.
  let t := { t with sent := t.sent ++ [request] }.note .debug s!"{request.method.name} {request.path}"
  match t.errandOf request with
  | .error failure => (.settled (.error failure), t)
  | .ok errand =>
    let turn := t.backend t.reached request
    let t := { t with reached := t.reached ++ [request] }
    match turn with
    | .home => (.home errand, t)
    | .reply reply =>
      let (outcome, t) := t.settle errand reply
      (.settled outcome, t)

def send (request : Request) (t : Terminal) : Except Failure Json × Terminal :=
  match t.start request with
  | (.settled outcome, t) => (outcome, t)
  | (.home errand, t) => t.settle errand (t.home errand)

def connect (backend : Backend) (t : Terminal) : Terminal := { t with backend, sent := [], reached := [] }

/-! ## Session -/

def modifySession (f : Session → Session) (t : Terminal) : Terminal := { t with session := f t.session }

def browse (direction : Direction) (t : Terminal) : String × Terminal :=
  let (line, session) := t.session.browse direction
  (line, { t with session })

def cancel (t : Terminal) : Terminal := (t.append "^C").modifySession .resetCursor

end Terminal

end LineShell
