import LineShell.Backend
import LineShell.Json.Shape

/-!
# Messages

Requests to a service and its responses, and the faults for which a request is refused.
-/

namespace LineShell.Api

/-! ## Requests -/

structure Incoming where
  method : String
  path : String
  query : List (String × String) := []
  body : Option Content := none
deriving Repr

namespace Incoming

/-- The last value of a parameter. -/
def param? (name : String) (r : Incoming) : Option String := r.query.reverse.lookup name

/-- A request to an address, as the service takes it. Parameters that come beside the address are
carried unchanged. -/
def ofAddress (method : String) (address : Http.Address) (params : Option (List (String × String)))
    (body : Option Content) : Incoming :=
  { method, path := address.pathTaken, query := params.getD address.paramsTaken, body }

/-- Why what a request carries cannot be sent, if it cannot; bytes always can. -/
def uncarried? : Content → Option Failure
  | .bytes .. => none
  | .value known => known.unsendable?

def ofClient (client : Http.Address) (method reference : String) (params : Option (List (String × String)))
    (body : Option Content) : Except Failure Incoming :=
  match client.resolve reference params with
  | .error fault => .error (.unfitAddress fault)
  | .ok address =>
    match body.bind uncarried?, address.unreadable? with
    | some failure, _ => .error failure
    | none, some fault => .error (.unreadableHost fault)
    | none, none => .ok (ofAddress (String.ofList (method.toList.map Char.toUpper)) address params body)

def ofErrand (errand : Errand) : Incoming :=
  -- A body of null is sent as none at all.
  let body := match errand.request.body with
    | none | some .null => none
    | some value => some (.value value)
  ofAddress errand.request.method.name errand.address errand.request.params body

end Incoming

/-! ## Responses -/

inductive FaultKind
  | missing
  | invalidJson
  | noObject
  | noText
  | noChoice
deriving Repr, DecidableEq

def FaultKind.name : FaultKind → String
  | missing => "missing"
  | invalidJson => "json_invalid"
  | noObject => "model_attributes_type"
  | noText => "string_type"
  | noChoice => "literal_error"

structure Fault where
  kind : FaultKind
  place : List String
deriving Repr, DecidableEq

inductive Body
  | json (value : Json)
  | text (text : String)
  | faults (faults : List Fault)
deriving Repr

structure Response where
  status : Int
  body : Body
deriving Repr

namespace Response

def good (value : Json) : Response := ⟨200, .json value⟩

def detail (status : Int) (text : String) : Response := ⟨status, .json (.object [("detail", .string text)])⟩

def notFound : Response := detail 404 (Http.phrase 404)

def methodNotAllowed : Response := detail 405 (Http.phrase 405)

def broken : Response := ⟨500, .text (Http.phrase 500)⟩

def refused (kind : FaultKind) (place : List String) : Response := ⟨422, .faults [⟨kind, place⟩]⟩

def referral : Response := ⟨307, .text ""⟩

def headOnly (r : Response) : Response := { r with body := .text "" }

end Response

end LineShell.Api
