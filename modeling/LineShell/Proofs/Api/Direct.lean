import LineShell.Proofs.Api.Nested
import LineShell.Proofs.Sparing

/-!
# Requests and direct calls

A service answers by requests for what its workplace does directly: it executes lines, shows the transcript, steps
through the typed lines and calls endpoints. What is at fault with a request never reaches the workplace.
-/

namespace LineShell

open Terminal Text

/-! ## Strict values -/

namespace Json

mutual

theorem strict_of_isStrict : ∀ {value : Json}, value.isStrict = true → value.strict = value
  | .float (.finite ..), _ => rfl
  | .array _, h => congrArg array (strictItems_of_areStrict h)
  | .object _, h => congrArg object (strictFields_of_fieldsAreStrict h)
  | .raggedObject names _, h => congrArg (raggedObject names) (strictItems_of_areStrict h)
  | .null, _ | .bool _, _ | .int _, _ | .string _, _ | .raggedString _, _ => rfl

theorem strictItems_of_areStrict : ∀ {items : List Json}, areStrict items = true → strictItems items = items
  | [], _ => rfl
  | item :: items, h => by
      obtain ⟨hitem, hitems⟩ := Bool.and_eq_true_iff.mp h
      rw [strictItems, strict_of_isStrict hitem, strictItems_of_areStrict hitems]

theorem strictFields_of_fieldsAreStrict : ∀ {fields : List (String × Json)}, fieldsAreStrict fields = true →
    strictFields fields = fields
  | [], _ => rfl
  | (name, value) :: fields, h => by
      obtain ⟨hvalue, hfields⟩ := Bool.and_eq_true_iff.mp h
      rw [strictFields, strict_of_isStrict hvalue, strictFields_of_fieldsAreStrict hfields]

end

end Json

/-! ## Replies to calls -/

def Reply.decoded? : Reply → Option Json
  | .answer status content => if Http.isSuccess status then content.read.toOption else none
  | .unreachable _ | .failed _ => none

namespace Reply

variable {reply : Reply} {errand : Errand}

end Reply

/-- No reply to a request that gets something holds a lone surrogate. -/
def Backend.IsWhole (backend : Backend) : Prop := ∀ reached (request : Request) reply value,
  request.method = .get → backend reached request = .reply reply → reply.decoded? = some value → value.isWhole = true

/-! ## Calling endpoints directly -/

namespace Workplace

def call (endpoint : String) (data : Option Json) (w : Workplace) : Except Failure Json × Workplace :=
  let (outcome, t) :=
    (Api.aboutToCall w.apiRoot endpoint w.terminal).send (Api.endpointRequest w.apiRoot endpoint data)
  let (outcome, t) := Remote.endCall w.apiRoot endpoint outcome t
  (outcome, w.withTerminal t)

theorem execute_of_blank {typed : String} (h : strip typed = "") (w : Workplace) : w.execute typed = ("", w) := by
  rw [execute, w.registry.execute_of_blank h]
  rfl

end Workplace

namespace Api

open Service

/-! ## What requests ask -/

/-- What a request asks of a workplace. A line with a lone surrogate is a garbled one, and stands here as the
screen shows it. -/
inductive Ask
  | execute (input : String)
  | garbled (shown : String)
  | history
  | browse (word : String)
  | call (endpoint : String) (data : Option Json)

def Ask.ofLine? : Json → Option Ask
  | .string input => some (.execute input)
  | .raggedString text => some (.garbled (mended text))
  | _ => none

def lineOf (r : Incoming) : Option Json := (objectOf r).toOption.bind (·.field? "input")

def Route.ask? (r : Incoming) : Route → Option Ask
  | .execute => (lineOf r).bind Ask.ofLine?
  | .history => some .history
  | .browse => (directionOf r).toOption.map .browse
  | .call endpoint => (dataOf r).toOption.map (.call endpoint)
  | .ping | .systemInfo | .health | .entities => none

/-- What a request asks, if nothing is at fault with it. -/
def Incoming.ask? (r : Incoming) : Option Ask :=
  (Route.find? r.path).bind fun route => if r.method == route.method then route.ask? r else none

theorem Incoming.find_of_ask? {r : Incoming} {ask : Ask} (h : r.ask? = some ask) :
    ∃ route, Route.find? r.path = some route ∧ r.method = route.method ∧ route.ask? r = some ask := by
  obtain ⟨route, hroute, hask⟩ := Option.bind_eq_some_iff.mp h
  split at hask
  · rename_i hmethod
    exact ⟨route, hroute, beq_iff_eq.mp hmethod, hask⟩
  · exact absurd hask nofun

namespace Ask

/-- Whether a response tells what comes of asking a workplace directly. -/
def Tells (w : Workplace) (response : Response) : Ask → Prop
  | execute input =>
    let session := (w.execute input).2.terminal.session
    response = if strip input = "" then .detail 400 "Input must not be empty" else .good (.object [
      ("output", .string (w.execute input).1), ("prompt", .string session.prompt),
      ("header", .string session.header)])
  | garbled _ => response = .broken
  | history => response = .good (.object [("lines", .array (w.terminal.session.transcript.map Json.string))])
  | browse word => response =
      .good (.object [("direction", .string word), ("command", .string (w.browse (.ofWord word)).1)])
  | call endpoint data =>
    (∀ result, (w.call endpoint data).1 = .ok result →
      response = if result.height ≤ heightLimit ∧ result.isWhole = true then .good (.object [("result", result.strict)])
        else .broken) ∧
    (∀ failure, (w.call endpoint data).1 = .error (.remote failure) → response = .detail 502 failure.message)

end Ask

/-! ## Requests that come to no route -/

theorem Route.method_ne_head (route : Route) : (route.method == "HEAD") = false := by
  cases route <;> rfl

theorem handle_route {r : Incoming} {route : Route} (hroute : Route.find? r.path = some route)
    (hmethod : r.method = route.method) (s : Service) : s.handle r = s.answer handle route r := by
  have hbeq : (r.method == route.method) = true := beq_iff_eq.mpr hmethod
  rw [handle_eq, dispatch, hroute]
  dsimp only
  rw [if_pos hbeq, hmethod, route.method_ne_head]
  rfl

variable {s : Service} {w : Workplace}

end Api

end LineShell
