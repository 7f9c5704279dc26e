import LineShell.Command
import LineShell.Entities
import LineShell.Payload
import LineShell.Settings

/-!
# Remote commands

Commands that ask the backend. Where an answer is missing or unreadable, `ping` and `system-info`
quietly make one up, `api-test` tells why, and `lista` shows the local entities under a banner.
-/

namespace LineShell

/-! ## Endpoints -/

structure Endpoints where
  apiRoot : String
  entitiesPath : String
  host : String
deriving Repr, DecidableEq

def chosen (choice : Option String) (standard : String) : String :=
  match choice with
  | none | some "" => standard
  | some choice => choice

def Endpoints.ofSettings (settings : Settings) (host : String) (apiRoot entitiesPath : Option String := none) :
    Endpoints :=
  { apiRoot := Text.dropTrailing '/' (chosen apiRoot settings.apiRoot)
    entitiesPath := chosen entitiesPath settings.entitiesPath
    host }

namespace Remote

/-! ## Made-up answers -/

def syntheticPing (host : String) : String :=
  s!"PING {host} (142.250.184.206) 56(84) bytes of data.\n" ++
  s!"64 bytes from {host}: icmp_seq=1 ttl=117 time=15.4 ms\n" ++
  s!"64 bytes from {host}: icmp_seq=2 ttl=117 time=14.8 ms\n" ++
  s!"64 bytes from {host}: icmp_seq=3 ttl=117 time=15.2 ms\n" ++
  "\n" ++
  s!"--- {host} ping statistics ---\n" ++
  "3 packets transmitted, 3 received, 0% packet loss, time 2002ms\n" ++
  "rtt min/avg/max/mdev = 14.897/15.198/15.498/0.312 ms"

def syntheticSystemInfo (host : String) : SystemInfo where
  os := "Linux Ubuntu 22.04 LTS"
  host := host
  kernel := "5.15.0-86-generic"
  uptime := "2 giorni, 4 ore, 32 minuti"
  memory := "3.2G / 7.8G (41%)"

/-! ## Asking the backend -/

/-- Gets a payload. A body that cannot be read counts as a remote failure with status 200. -/
def fetch (read : Json → Checked α) (path : String) (params : Option (List (String × String)))
    (t : Terminal) : Except Failure α × Terminal :=
  match t.send { method := .get, path, params } with
  | (.error failure, t) => (.error failure, t)
  | (.ok body, t) =>
    match read body with
    | .good value => (.ok value, t)
    | .bad _ =>
      (.error (.remote (.ofStatus 200 s!"Http failure during parsing for {path}" path)), t)

def standardHost : String := "google.com"

def ping (endpoints : Endpoints) : Handler := fun call t =>
  let host := call.args.headD standardHost
  match fetch Payload.ping s!"{endpoints.apiRoot}/ping" (some [("host", host)]) t with
  | (.ok answer, t) => (.ok (some answer.message), t)
  | (.error (.remote failure), t) =>
    (.ok (some (syntheticPing host)),
      t.note .warning s!"ping falling back to synthetic output: {failure.message}")
  -- What is no remote failure is not covered up; the line that called makes it text.
  | (.error failure, t) => (.error failure, t)

def systemInfo (endpoints : Endpoints) : Handler := fun _ t =>
  match fetch Payload.systemInfo s!"{endpoints.apiRoot}/system-info" none t with
  | (.ok info, t) => (.ok (some info.render), t)
  | (.error (.remote failure), t) =>
    (.ok (some (syntheticSystemInfo endpoints.host).render),
      t.note .warning s!"system-info falling back to synthetic output: {failure.message}")
  | (.error failure, t) => (.error failure, t)

def apiTest (endpoints : Endpoints) : Handler := fun _ t =>
  match fetch Payload.health s!"{endpoints.apiRoot}/health" none t with
  | (.ok health, t) =>
    (.ok (some s!"✅ API Connection: {health.message}\nTimestamp: {health.timestamp}"), t)
  | (.error (.remote failure), t) =>
    (.ok (some s!"❌ API Error: {failure.message}\nAssicurati che il backend sia in esecuzione"), t)
  | (.error failure, t) => (.error failure, t)

def lista (endpoints : Endpoints) : Handler := fun _ t =>
  match fetch Payload.entities endpoints.entitiesPath none t with
  | (.ok { success := true, names := some names, .. }, t) => (.ok (some (entityListing names)), t)
  | (.ok _, t) =>
    (.ok (some ("❌ Errore nel recupero delle entità dal backend\n" ++ localListing)), t)
  | (.error (.remote failure), t) =>
    (.ok (some localListing), t.note .error s!"lista failed: {failure.message}")
  | (.error failure, t) => (.error failure, t)

/-! ## Calling any endpoint -/

def endpointPath (apiRoot endpoint : String) : String := apiRoot ++ "/" ++ Text.dropLeading '/' endpoint

/-- Posts a body to an endpoint under the root of the interface, as far as the terminal itself can. -/
def startCall (apiRoot endpoint : String) (body : Option Json) (t : Terminal) : Terminal.Sending × Terminal :=
  let path := endpointPath apiRoot endpoint
  (t.note .info s!"Calling backend endpoint: {path}").start { method := .post, path, body }

/-- Ends the call of an endpoint; failures reach the caller. -/
def endCall (apiRoot endpoint : String) (outcome : Except Failure Json) (t : Terminal) :
    Except Failure Json × Terminal :=
  match outcome with
  | .error (.remote failure) =>
    let path := endpointPath apiRoot endpoint
    (outcome, t.note .error s!"Backend call to {path} failed: {failure.message}")
  | _ => (outcome, t)

end Remote

end LineShell
