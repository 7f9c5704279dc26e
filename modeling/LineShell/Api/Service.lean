import LineShell.Api.Message
import LineShell.Api.Route
import LineShell.Assembly
import LineShell.Machine
import LineShell.Payload.Body
import LineShell.Workplace

/-!
# Service

A terminal session behind an interface of requests, and a backend for terminals: the machine answers
pings and describes itself, lines are executed in the session, and endpoints of the session's own
backend are called.
-/

namespace LineShell.Api

open Text

/-- A service: its parts as far as they were needed, the workplace of the session, if the settings give
one, and the machine. -/
structure Service where
  assembly : Assembly := {}
  workplace : Except Failure Workplace
  machine : Machine := {}

namespace Service

/-! ## Reading requests -/

def needing (part : Part) (s : Service) : Service := { s with assembly := (s.assembly.get part).2 }

def withWorkplace (w : Workplace) (s : Service) : Service := { s with workplace := .ok w }

/-- The refusal of a value at a place. It shows the value, so there is none of a value that cannot be
sent. -/
def refusalOf (kind : FaultKind) (place : List String) (shown : Json) : Response :=
  if shown.unsendable?.isNone then .refused kind place else .broken

def bodyOf (r : Incoming) : Except Response Json :=
  match r.body with
  | none | some (.bytes [] _) => .error (.refused .missing ["body"])
  | some content =>
    match content.read with
    | .ok value => .ok value
    | .error .syntactic => .error (.refused .invalidJson ["body"])
    | .error _ => .error (.detail 400 "There was an error parsing the body")

def objectOf (r : Incoming) : Except Response Json := do
  match ← bodyOf r with
  | .object fields => .ok (.object fields)
  | .raggedObject names values => .ok (.raggedObject names values)
  | value => .error (refusalOf .noObject ["body"] value)

/-- The line in a request as the screen shows it, and whether it is what the request holds: a lone surrogate
has no place in a line. -/
def inputOf (r : Incoming) : Except Response (String × Bool) := do
  let body ← objectOf r
  match body.field? "input" with
  | none => .error (refusalOf .missing ["body", "input"] body)
  | some value =>
    match Payload.text? value with
    | none => .error (refusalOf .noText ["body", "input"] value)
    | some input =>
      if isBlankLine input then .error (.detail 400 "Input must not be empty") else .ok (input, value.isWhole)

def dataOf (r : Incoming) : Except Response (Option Json) := do
  match (← objectOf r).field? "data" with
  | none | some .null => .ok none
  | some data => .ok (some data)

def directionWords : List String := ["up", "down"]

def directionOf (r : Incoming) : Except Response String :=
  match r.param? "direction" with
  | none => .error (.refused .missing ["query", "direction"])
  | some word =>
    if directionWords.contains word then .ok word else .error (.refused .noChoice ["query", "direction"])

/-! ## Answers -/

def answerPing (r : Incoming) (m : Machine) : Response :=
  match m.ping ((r.param? "host").getD Remote.standardHost) with
  | .ok answer => .good answer.body
  | .error _ => .broken

def answerSystemInfo (m : Machine) : Response :=
  match m.systemInfo with
  | some info => .good info.body
  | none => .broken

def execute (r : Incoming) (s : Service) : Response × Service :=
  match inputOf r, s.workplace with
  | .error response, _ => (response, s)
  | .ok _, .error _ => (.broken, s)
  | .ok (input, whole), .ok w =>
    let (output, w) := w.execute input
    let session := w.terminal.session
    let told : Response := .good (.object [
      ("output", .string output), ("prompt", .string session.prompt), ("header", .string session.header)])
    -- A line that cannot be told is executed all the same.
    (if whole then told else .broken, (s.needing .interpreter).withWorkplace w)

def history (s : Service) : Response × Service :=
  match s.workplace with
  | .error _ => (.broken, s)
  | .ok w =>
    (.good (.object [("lines", .array (w.terminal.session.transcript.map Json.string))]), s.needing .interpreter)

def browse (r : Incoming) (s : Service) : Response × Service :=
  match directionOf r, s.workplace with
  | .error response, _ => (response, s)
  | .ok _, .error _ => (.broken, s)
  | .ok word, .ok w =>
    let (command, w) := w.browse (.ofWord word)
    (.good (.object [("direction", .string word), ("command", .string command)]),
      (s.needing .interpreter).withWorkplace w)

/-! ## Calls -/

def replyOf (response : Response) : Reply :=
  match response.body with
  | .json value => .answer response.status (.value value)
  | .text _ | .faults _ => .answer response.status (.bytes [])

def heightLimit : Nat := 255

/-- Whether a response can tell a value: it is not too high, and its texts have bytes. -/
def isTold (value : Json) : Bool := value.height ≤ heightLimit && value.isWhole

/-- The response that tells the outcome of a call; what has no decimal form is told as null. -/
def outcomeResponse : Except Failure Json → Response
  | .ok result => if isTold result then .good (.object [("result", result.strict)]) else .broken
  | .error (.remote failure) => .detail 502 failure.message
  | .error _ => .broken

def exchange (f : Terminal → Except Failure Json × Terminal) (s : Service) : Except Failure Json × Service :=
  match s.workplace with
  | .error failure => (.error failure, s)
  | .ok w =>
    let (outcome, t) := f w.terminal
    (outcome, s.withWorkplace (w.withTerminal t))

/-- Calls an endpoint of the session's backend. When that is the service itself, `home` answers. -/
def callIn (home : Incoming → Service → Response × Service) (endpoint : String) (data : Option Json)
    (w : Workplace) (s : Service) : Response × Service :=
  let (sending, t) := Remote.startCall w.apiRoot endpoint data w.terminal
  let s := (s.needing .caller).withWorkplace (w.withTerminal t)
  let (outcome, s) : Except Failure Json × Service := match sending with
    | .settled outcome => (outcome, s)
    | .home errand =>
      -- The answer may have changed the session, so its terminal is taken anew.
      let (response, s) := home (.ofErrand errand) s
      s.exchange (·.settle errand (replyOf response))
  let (outcome, s) := s.exchange (Remote.endCall w.apiRoot endpoint outcome)
  (outcomeResponse outcome, s)

def call (home : Incoming → Service → Response × Service) (endpoint : String) (r : Incoming) (s : Service) :
    Response × Service :=
  match dataOf r, s.workplace with
  | .error response, _ => (response, s)
  | .ok _, .error _ => (.broken, s)
  | .ok data, .ok w => callIn home endpoint data w s

/-! ## Requests -/

def answer (home : Incoming → Service → Response × Service) (route : Route) (r : Incoming) (s : Service) :
    Response × Service :=
  match route with
  | .ping => (answerPing r s.machine, s)
  | .systemInfo => (answerSystemInfo s.machine, s)
  | .health => (.good s.machine.health.body, s)
  | .entities => (.good Machine.entities.body, s)
  | .execute => s.execute r
  | .history => s.history
  | .browse => s.browse r
  | .call endpoint => s.call home endpoint r

/-- Answers a request by the route of its path, if its method is the one that the route asks for. A path
without a route may be referred to another one. -/
def dispatch (home : Incoming → Service → Response × Service) (r : Incoming) (s : Service) : Response × Service :=
  match Route.find? r.path, Route.referred? r.path with
  | none, none => (.notFound, s)
  | none, some _ => (.referral, s)
  | some route, _ => if r.method == route.method then s.answer home route r else (.methodNotAllowed, s)

/-- Answers a request. The first argument bounds how often the service calls itself in turn. -/
def handleWithin : Nat → Incoming → Service → Response × Service
  | 0, r, s => s.dispatch (fun _ s => (.broken, s)) r
  | depth + 1, r, s => s.dispatch (handleWithin depth) r

/-- The height of the body of a request. Every call takes one object from it, so the service calls itself
at most that often in turn. -/
def bodyHeight (r : Incoming) : Nat :=
  match r.body with
  | none => 0
  | some content =>
    match content.read with
    | .ok value => value.height
    | .error _ => 0

def handle (r : Incoming) (s : Service) : Response × Service :=
  let (response, s) := handleWithin (bodyHeight r) r s
  (if r.method == "HEAD" then response.headOnly else response, s)

def close (s : Service) : Service := { s with assembly := s.assembly.close }

/-! ## As a backend -/

def reply (errand : Errand) (s : Service) : Reply × Service :=
  let (response, s) := s.handle (.ofErrand errand)
  (replyOf response, s)

/-- The service of a workplace. What a command leaves to the program is answered as by a service that
nobody has used: commands only get, and the session shows in nothing that they read from a reply. -/
def ofWorkplace (workplace : Except Failure Workplace) (machine : Machine) : Service where
  workplace := workplace.map fun w =>
    w.withTerminal { w.terminal with home := fun errand => (reply errand { workplace := .ok w, machine }).1 }
  machine := machine

end Service

end LineShell.Api
