import LineShell.Proofs.Terminal.Views
import LineShell.Remote

/-!
# Requests

What sending a request does, what is made of its outcome, and what the remote commands say of that, each in one
equation. What is proved of requests elsewhere is read off these.
-/

namespace LineShell

/-! ## Sending -/

def Turn.replyTo (errand : Errand) (t : Terminal) : Turn → Reply
  | .reply r => r
  | .home => t.home errand

theorem Turn.replyTo_eq_iff {turn : Turn} {errand : Errand} {t : Terminal} {reply : Reply} :
    turn.replyTo errand t = reply ↔ turn = .reply reply ∨ turn = .home ∧ t.home errand = reply := by
  cases turn with
  | reply r => simp [replyTo]
  | home => simp [replyTo]

namespace Terminal

variable (request : Request) (t : Terminal)

/-- The terminal with a request that was noted, whether or not it can be sent. -/
def noting : Terminal :=
  { t with sent := t.sent ++ [request] }.note .debug s!"{request.method.name} {request.path}"

def reaching : Terminal := { t.noting request with reached := t.reached ++ [request] }

theorem start_eq : t.start request =
    match t.errandOf request with
    | .error failure => (.settled (.error failure), t.noting request)
    | .ok errand =>
      match t.backend t.reached request with
      | .home => (.home errand, t.reaching request)
      | .reply reply => (.settled (reply.settle errand).1, (t.reaching request).noteAll (reply.settle errand).2) := rfl

/-- A request is noted, and if there is an errand it reaches the backend. The reply is settled, whoever gives it. -/
theorem send_eq : t.send request =
    match t.errandOf request with
    | .error failure => (.error failure, t.noting request)
    | .ok errand =>
      let settled := ((t.backend t.reached request).replyTo errand t).settle errand
      (settled.1, (t.reaching request).noteAll settled.2) := by
  rw [send, start_eq]
  cases t.errandOf request with
  | error failure => rfl
  | ok errand =>
      dsimp only
      cases t.backend t.reached request with
      | reply r => rfl
      | home => rfl

variable {request t} {errand : Errand}

theorem request_of_errandOf (h : t.errandOf request = .ok errand) : errand.request = request := by
  unfold errandOf at h
  split at h
  · cases h
  · split at h
    · cases h
    · cases h
    · cases h
      rfl

theorem of_start_home {u : Terminal} (h : t.start request = (.home errand, u)) :
    t.errandOf request = .ok errand ∧ t.backend t.reached request = .home := by
  rw [start_eq] at h
  cases herrand : t.errandOf request with
  | error failure =>
      rw [herrand] at h
      exact absurd (congrArg Prod.fst h) nofun
  | ok errand' =>
      rw [herrand] at h
      dsimp only at h
      cases hturn : t.backend t.reached request with
      | reply reply =>
          rw [hturn] at h
          exact absurd (congrArg Prod.fst h) nofun
      | home =>
          rw [hturn] at h
          exact ⟨congrArg Except.ok (Sending.home.inj (congrArg Prod.fst h)), rfl⟩

end Terminal

namespace Remote

/-! ## Payloads -/

def taken (read : Json → Checked α) (path : String) : Except Failure Json → Except Failure α
  | .error failure => .error failure
  | .ok body =>
    match read body with
    | .good value => .ok value
    | .bad _ => .error (.remote (.ofStatus 200 s!"Http failure during parsing for {path}" path))

theorem fetch_eq (read : Json → Checked α) (path : String) (params : Option (List (String × String)))
    (t : Terminal) : fetch read path params t =
      (taken read path (t.send { method := .get, path, params }).1, (t.send { method := .get, path, params }).2) := by
  unfold fetch
  rcases t.send _ with ⟨failure | body, u⟩
  · rfl
  · dsimp only [taken]
    cases read body with
    | good value => rfl
    | bad faults => rfl

/-! ## Commands -/

def voiced (onPayload : α → String) (onFailure : String → String) : Except Failure α → Except Failure (Option String)
  | .ok value => .ok (some (onPayload value))
  | .error (.remote failure) => .ok (some (onFailure failure.message))
  | .error failure => .error failure

/-- The entries that a remote failure leaves in the journal. -/
def regretted (entries : String → List Entry) : Except Failure α → List Entry
  | .error (.remote failure) => entries failure.message
  | _ => []

/-- What a remote command does with what was fetched. -/
def answering (onPayload : α → String) (onFailure : String → String) (entries : String → List Entry) :
    Except Failure α × Terminal → Except Failure (Option String) × Terminal
  | (.ok value, t) => (.ok (some (onPayload value)), t)
  | (.error (.remote failure), t) => (.ok (some (onFailure failure.message)), t.noteAll (entries failure.message))
  | (.error failure, t) => (.error failure, t)

theorem answering_eq (onPayload : α → String) (onFailure : String → String) (entries : String → List Entry)
    (fetched : Except Failure α × Terminal) : answering onPayload onFailure entries fetched =
      (voiced onPayload onFailure fetched.1, fetched.2.noteAll (regretted entries fetched.1)) := by
  obtain ⟨outcome, t⟩ := fetched
  cases outcome with
  | ok value => exact congrArg (Prod.mk _) t.noteAll_nil.symm
  | error failure =>
      cases failure with
      | remote failure => rfl
      | _ => exact congrArg (Prod.mk _) t.noteAll_nil.symm

def healthy (health : Health) : String := s!"✅ API Connection: {health.message}\nTimestamp: {health.timestamp}"

def unhealthy (text : String) : String := s!"❌ API Error: {text}\nAssicurati che il backend sia in esecuzione"

def listed : EntityList → String
  | { success := true, names := some names, .. } => entityListing names
  | _ => "❌ Errore nel recupero delle entità dal backend\n" ++ localListing

variable (endpoints : Endpoints) (call : Call) (t : Terminal)

theorem ping_eq : ping endpoints call t =
    answering (·.message) (fun _ => syntheticPing (call.args.headD standardHost))
      (fun text => [⟨.warning, s!"ping falling back to synthetic output: {text}"⟩])
      (fetch Payload.ping s!"{endpoints.apiRoot}/ping" (some [("host", call.args.headD standardHost)]) t) := by
  unfold ping
  dsimp only
  rcases fetch Payload.ping _ _ t with ⟨failure | value, u⟩
  · cases failure <;> rfl
  · rfl

theorem systemInfo_eq : systemInfo endpoints call t =
    answering (·.render) (fun _ => (syntheticSystemInfo endpoints.host).render)
      (fun text => [⟨.warning, s!"system-info falling back to synthetic output: {text}"⟩])
      (fetch Payload.systemInfo s!"{endpoints.apiRoot}/system-info" none t) := by
  unfold systemInfo
  rcases fetch Payload.systemInfo _ _ t with ⟨failure | value, u⟩
  · cases failure <;> rfl
  · rfl

theorem apiTest_eq : apiTest endpoints call t =
    answering healthy unhealthy (fun _ => []) (fetch Payload.health s!"{endpoints.apiRoot}/health" none t) := by
  unfold apiTest
  rcases fetch Payload.health _ _ t with ⟨failure | value, u⟩
  · cases failure with
    | remote failure => exact congrArg (Prod.mk _) u.noteAll_nil.symm
    | _ => rfl
  · rfl

theorem lista_eq : lista endpoints call t =
    answering listed (fun _ => localListing) (fun text => [⟨.error, s!"lista failed: {text}"⟩])
      (fetch Payload.entities endpoints.entitiesPath none t) := by
  unfold lista
  rcases fetch Payload.entities _ _ t with ⟨failure | ⟨code, success, names⟩, u⟩
  · cases failure <;> rfl
  · cases success <;> cases names <;> rfl

end Remote

end LineShell
