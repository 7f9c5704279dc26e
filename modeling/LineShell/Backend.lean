import LineShell.Failure
import LineShell.Http.Status
import LineShell.Journal
import LineShell.Json.Reader
import LineShell.Json.Shape
import LineShell.Json.Writer

/-!
# Backend

The remote side as the terminal meets it: requests, replies, and how a reply becomes a value or a
failure. A backend may answer each request as it likes, in view of the requests before it.
-/

namespace LineShell

/-! ## Requests and replies -/

inductive Method
  | get
  | post
deriving Repr, DecidableEq

def Method.name : Method → String
  | .get => "GET"
  | .post => "POST"

structure Request where
  method : Method
  path : String
  params : Option (List (String × String)) := none
  body : Option Json := none
deriving Repr

structure Errand where
  request : Request
  address : Http.Address
deriving Repr

/-- What a reply carries: bytes, or a value when the backend lives in the same program. With the bytes comes how
deep arrays and objects may be nested in them, which hangs on how deep the program is when it reads them. -/
inductive Content
  | bytes (data : List UInt8) (depth : Nat := Json.standardDepth)
  | value (known : Json)
deriving Repr

inductive Reply
  | answer (status : Int) (content : Content)
  | unreachable (text : String)
  | failed (failure : Failure)
deriving Repr

/-- What a backend does with a request: it replies, or leaves the reply to a service in the program from
which the request comes. -/
inductive Turn
  | reply (reply : Reply)
  | home
deriving Repr

/-- A backend takes a request in view of those that reached it before, the oldest first. -/
abbrev Backend := List Request → Request → Turn

namespace Backend

def absent : Backend := fun _ _ => .reply (.unreachable "refused")

def constant (reply : Reply) : Backend := fun _ _ => .reply reply

def home : Backend := fun _ _ => .home

end Backend

/-! ## Scripts -/

/-- Which backend answers, by path. Each path has its backends in order, one for each request and the
last for all further ones; other requests go to the fallback. -/
structure Script where
  routes : List (String × List Backend) := []
  fallback : Option Backend := none

def Script.due? (backends : List Backend) (used : Nat) : Option Backend :=
  match backends[used]? with
  | some backend => some backend
  | none => backends.getLast?

def Script.backend (script : Script) : Backend := fun reached request =>
  let used := (reached.filter (·.path == request.path)).length
  let scheduled := (script.routes.lookup request.path).bind (Script.due? · used)
  ((scheduled.or script.fallback).getD Backend.absent) reached request

/-! ## Bodies -/

def isEncodable (code : Nat) : Bool := code < 0xD800 || 0xDFFF < code

/-- Why a value cannot be sent, if it cannot: a number in it has no decimal form, or its text no bytes. -/
def Json.unsendable? (body : Json) : Option Failure :=
  if !body.isStrict then some .unwritableNumber
  else if body.isWhole then none
  else
    let codes := body.sent.map Text.Glyph.code
    some (.unexpected "UnicodeEncodeError" (Text.refusal "utf-8" "surrogates not allowed" isEncodable codes))

/-! ## Outcomes -/

/-- The value that a successful reply carries; nothing at all stands for null. -/
def Content.read : Content → Except JsonError Json
  | .bytes [] _ => .ok .null
  | .bytes data depth => Json.ofBytes data depth
  | .value known => .ok known

def Errand.unreadable (status : Int) (errand : Errand) : JsonError → Failure
  | .nesting inObject => .deepNesting inObject
  | _ =>
    let path := errand.request.path
    .remote (.ofStatus status s!"Http failure during parsing for {path}" path)

/-- What a reply to a request comes to, and what the journal says about it. A reply that arrives is of
no use when the address does not say of what kind it is. -/
def Reply.settle (errand : Errand) : Reply → Except Failure Json × List Entry
  | .unreachable text =>
    let { method, path, .. } := errand.request
    (.error (.remote (.ofStatus 0 s!"Http failure response for {path}: 0 Unknown Error" path)),
      [⟨.warning, s!"{method.name} {path} failed: {text}"⟩])
  | .failed failure => (.error failure, [])
  | .answer status content =>
    let { method, path, .. } := errand.request
    if !errand.address.hasKind then (.error (.unknownKind errand.address.plainText), [])
    else if Http.isSuccess status then (content.read.mapError (errand.unreadable status), [])
    else
      let text := s!"Http failure response for {path}: {status} {Http.phrase status}"
      (.error (.remote (.ofStatus status text path)), [⟨.warning, s!"{method.name} {path} answered {status}"⟩])

end LineShell
