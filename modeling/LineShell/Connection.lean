import LineShell.Remote

/-!
# Connection

How a terminal connects to its backend: where to, for how long it waits, and what its requests say
about themselves.
-/

namespace LineShell

/-- A connection. A borrowed client comes with its own address and headers, and stays open at the end. -/
structure Connection where
  baseUrl : String
  apiToken : Option String
  timeout : Binary64
  borrowed : Bool
  client : Http.Address
deriving Repr

namespace Connection

def tokenOf (settings : Settings) : Option String → Option String
  | none | some "" => settings.apiToken
  | some token => some token

def bearer (token : String) : String := s!"Bearer {token}"

/-- The address of a client that is made for a connection. There is no client with an address that is
none, or with a token that no header may hold. -/
def clientOf (baseUrl : String) (token : Option String) : Except Failure Http.Address :=
  let header := (token.map bearer).getD ""
  match Http.Address.ofClient baseUrl with
  | .error fault => .error (.unfitAddress fault)
  | .ok address => if Http.isHeader header then .ok address else .error (.unfitHeader header)

def ofSettings (settings : Settings) (baseUrl apiToken : Option String := none)
    (timeout : Option Binary64 := none) (borrowed : Bool := false) : Except Failure Connection := do
  let baseUrl := chosen baseUrl settings.backendUrl
  let apiToken := tokenOf settings apiToken
  let client ← if borrowed then .ok ownAddress else clientOf baseUrl apiToken
  pure { baseUrl, apiToken, timeout := timeout.getD settings.timeout, borrowed, client }

def accept (c : Connection) : String := if c.borrowed then "*/*" else "application/json"

def authorization (c : Connection) : Option String := if c.borrowed then none else c.apiToken.map bearer

def closesClient (c : Connection) : Bool := !c.borrowed

end Connection

end LineShell
