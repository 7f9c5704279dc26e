import LineShell.Proofs.Nesting
import LineShell.Proofs.Requests

/-!
# Falling back

What the remote commands say, by what the backend replies: the payload of a reply, if it has one, and else what each
command has in its place. Only a body that is nested too deep to be decoded makes them fail.
-/

namespace LineShell

/-! ## Replies -/

def Checked.good? : Checked α → Option α
  | .good value => some value
  | .bad _ => none

def Content.isGiven : Content → Bool
  | .bytes [] _ => false
  | .bytes .. | .value _ => true

namespace Reply

/-- The payload of a reply, if its status means success and its body is not empty, can be decoded and is valid. -/
def payload? (read : Json → Checked α) : Reply → Option α
  | .answer status content =>
    if Http.isSuccess status && content.isGiven then
      match content.read with
      | .ok body => (read body).good?
      | .error _ => none
    else none
  | .unreachable _ | .failed _ => none

/-- What the transport tells of a reply without a payload. -/
def complaint (path : String) : Reply → String
  | .answer status _ =>
    if Http.isSuccess status then s!"Http failure during parsing for {path}"
    else s!"Http failure response for {path}: {status} {Http.phrase status}"
  | .unreachable _ | .failed _ => s!"Http failure response for {path}: 0 Unknown Error"

theorem complaint_of_isSuccess (path : String) {status : Int} (content : Content) (h : Http.isSuccess status = true) :
    (Reply.answer status content).complaint path = s!"Http failure during parsing for {path}" := if_pos h

theorem complaint_of_not_isSuccess (path : String) {status : Int} (content : Content)
    (h : Http.isSuccess status = false) : (Reply.answer status content).complaint path =
      s!"Http failure response for {path}: {status} {Http.phrase status}" := if_neg (ne_true_of_eq_false h)

/-- Whether a body that should be decoded is nested too deep, and then whether the last thing opened is an object. -/
def overnested? : Reply → Option Bool
  | .answer status content =>
    if Http.isSuccess status then
      match content.read with
      | .error (.nesting inObject) => some inObject
      | _ => none
    else none
  | .unreachable _ | .failed _ => none

theorem payload?_of_unread {read : Json → Checked α} {status : Int} {content : Content} {cause : JsonError}
    (h : content.read = .error cause) : (answer status content).payload? read = none := by
  simp [payload?, h]

theorem overnested?_of_nesting {status : Int} {content : Content} {inObject : Bool}
    (hstatus : Http.isSuccess status = true) (h : content.read = .error (.nesting inObject)) :
    (answer status content).overnested? = some inObject := by
  simp [overnested?, hstatus, h]

/-- What a command says of a reply, unless the body cannot be decoded for its depth. -/
def tells (text : String) (reply : Reply) : Except Failure (Option String) :=
  match reply.overnested? with
  | some inObject => .error (.deepNesting inObject)
  | none => .ok (some text)

theorem tells_of_overnested {inObject : Bool} {reply : Reply} (h : reply.overnested? = some inObject) (text : String) :
    reply.tells text = .error (.deepNesting inObject) := by
  rw [tells, h]

theorem tells_of_not_overnested {reply : Reply} (h : reply.overnested? = none) (text : String) :
    reply.tells text = .ok (some text) := by
  rw [tells, h]

def Arrives (errand : Errand) : Reply → Prop
  | .answer .. => errand.address.hasKind = true
  | .unreachable _ => True
  | .failed _ => False

end Reply

theorem Content.openings_of_nesting {content : Content} {inObject : Bool}
    (h : content.read = .error (.nesting inObject)) :
    ∃ data depth gs, content = .bytes data depth ∧ Text.ofBytes? data = some gs ∧ depth < Json.openings gs := by
  unfold read at h
  split at h
  · cases h
  · rename_i data depth _
    unfold Json.ofBytes at h
    split at h
    · cases h
    · rename_i gs hgs
      exact ⟨data, depth, gs, rfl, hgs, Json.depth_lt_openings h⟩
  · cases h

theorem Content.read_replicate {depth n : Nat} (hn : depth < n) :
    (Content.bytes (List.replicate n 91) depth).read = .error (.nesting false) := by
  obtain ⟨n, rfl⟩ := Nat.exists_eq_add_of_lt hn
  exact Json.ofBytes_replicate hn

theorem Reply.openings_of_overnested {reply : Reply} {inObject : Bool} (h : reply.overnested? = some inObject) :
    ∃ status data depth gs, reply = .answer status (.bytes data depth) ∧ Text.ofBytes? data = some gs ∧
      depth < Json.openings gs := by
  unfold overnested? at h
  split at h
  · split at h
    · split at h
      · rename_i hread
        obtain ⟨data, depth, gs, rfl, hdata, hgs⟩ := Content.openings_of_nesting hread
        exact ⟨_, data, depth, gs, rfl, hdata, hgs⟩
      · cases h
    · cases h
  · cases h
  · cases h

def asking (path : String) (params : Option (List (String × String))) : Request := { method := .get, path, params }

/-- The request is sent, and this is what becomes of it. -/
def Terminal.Meets (request : Request) (reply : Reply) (t : Terminal) : Prop :=
  ∃ errand, t.errandOf request = .ok errand ∧ reply.Arrives errand ∧
    (t.backend t.reached request = .reply reply ∨ t.backend t.reached request = .home ∧ t.home errand = reply)

/-! ## Asking -/

/-- What comes of asking for a payload. -/
inductive Reply.Gives (read : Json → Checked α) (path : String) (reply : Reply) : Except Failure α → Prop
  | overnested {inObject : Bool} (h : reply.overnested? = some inObject) :
      Gives read path reply (.error (.deepNesting inObject))
  | payload {value : α} (hdepth : reply.overnested? = none) (h : reply.payload? read = some value) :
      Gives read path reply (.ok value)
  | complaint {failure : RemoteFailure} (hdepth : reply.overnested? = none) (h : reply.payload? read = none)
      (hmessage : failure.message = reply.complaint path) : Gives read path reply (.error (.remote failure))

namespace Terminal

variable {request : Request} {errand : Errand} {reply : Reply} {t : Terminal}

def passes (request : Request) (t : Terminal) : Bool :=
  match t.errandOf request with
  | .ok errand => errand.address.hasKind
  | .error _ => false

theorem meets_answer {status : Int} {content : Content} (hpasses : t.passes request = true)
    (hturn : t.backend t.reached request = .reply (.answer status content)) :
    t.Meets request (.answer status content) := by
  unfold passes at hpasses
  split at hpasses
  · rename_i errand herrand
    exact ⟨errand, herrand, hpasses, .inl hturn⟩
  · cases hpasses

theorem Meets.send (h : t.Meets request reply) :
    ∃ errand, errand.request = request ∧ reply.Arrives errand ∧ (t.send request).1 = (reply.settle errand).1 := by
  obtain ⟨errand, herrand, harrives, hturn⟩ := h
  refine ⟨errand, request_of_errandOf herrand, harrives, ?_⟩
  rw [send_eq, herrand]
  dsimp only
  rw [Turn.replyTo_eq_iff.mpr hturn]

end Terminal

theorem Remote.fst_fetch (read : Json → Checked α) (path : String) (params : Option (List (String × String)))
    (t : Terminal) : (fetch read path params t).1 = taken read path (t.send (asking path params)).1 :=
  congrArg Prod.fst (fetch_eq read path params t)

theorem Content.read_of_not_isGiven {content : Content} (h : content.isGiven = false) : content.read = .ok .null := by
  cases content with
  | value known => cases h
  | bytes data =>
      cases data with
      | nil => rfl
      | cons byte data => cases h

namespace Reply

variable {read : Json → Checked α} {path : String} {params : Option (List (String × String))} {address : Http.Address}
  {status : Int} {content : Content}

theorem fst_settle_rejected (hkind : address.hasKind = true) (hstatus : Http.isSuccess status = false) :
    ((answer status content).settle ⟨asking path params, address⟩).1 =
      .error (.remote (.ofStatus status s!"Http failure response for {path}: {status} {Http.phrase status}" path)) := by
  simp [settle, asking, hkind, hstatus]

theorem fst_settle_accepted (hkind : address.hasKind = true) (hstatus : Http.isSuccess status = true) :
    ((answer status content).settle ⟨asking path params, address⟩).1 =
      content.read.mapError (Errand.unreadable status ⟨asking path params, address⟩) := by
  simp [settle, hkind, hstatus]

theorem gives_rejected (hstatus : Http.isSuccess status = false) :
    (answer status content).Gives read path (Remote.taken read path
      (.error (.remote (.ofStatus status s!"Http failure response for {path}: {status} {Http.phrase status}" path)))) := by
  refine .complaint ?_ ?_ (complaint_of_not_isSuccess path content hstatus).symm
  · simp [overnested?, hstatus]
  · simp [payload?, hstatus]

theorem gives_unread {cause : JsonError} (hstatus : Http.isSuccess status = true) (hread : content.read = .error cause) :
    (answer status content).Gives read path (Remote.taken read path
      (.error (Errand.unreadable status ⟨asking path params, address⟩ cause))) := by
  have hpayload : (answer status content).payload? read = none := payload?_of_unread hread
  have hcomplaint := complaint_of_isSuccess path content hstatus
  cases cause with
  | nesting inObject => exact .overnested (overnested?_of_nesting hstatus hread)
  | syntactic | encoding | numeral => exact .complaint (by simp [overnested?, hread]) hpayload hcomplaint.symm

theorem gives_read {body : Json} (hnull : (read .null).good? = none) (hstatus : Http.isSuccess status = true)
    (hread : content.read = .ok body) : (answer status content).Gives read path (Remote.taken read path (.ok body)) := by
  have hdepth : (answer status content).overnested? = none := by simp [overnested?, hread]
  cases hbody : read body with
  | good value =>
      -- nothing at all stands for null, which is no payload
      have hgiven : content.isGiven = true := by
        refine Bool.of_not_eq_false fun hempty => ?_
        rw [Content.read_of_not_isGiven hempty] at hread
        obtain rfl := Except.ok.inj hread
        rw [hbody] at hnull
        cases hnull
      have hpayload : (answer status content).payload? read = some value := by
        simp [payload?, hstatus, hgiven, hread, hbody, Checked.good?]
      simp only [Remote.taken, hbody]
      exact .payload hdepth hpayload
  | bad faults =>
      have hpayload : (answer status content).payload? read = none := by
        simp [payload?, hread, hbody, Checked.good?]
      simp only [Remote.taken, hbody]
      exact .complaint hdepth hpayload (complaint_of_isSuccess path content hstatus).symm

theorem gives_taken (hnull : (read .null).good? = none) {reply : Reply}
    (harrives : reply.Arrives ⟨asking path params, address⟩) :
    reply.Gives read path (Remote.taken read path (reply.settle ⟨asking path params, address⟩).1) := by
  cases reply with
  | failed failure => exact harrives.elim
  | unreachable text => exact .complaint rfl rfl rfl
  | answer status content =>
      cases hstatus : Http.isSuccess status with
      | false => exact fst_settle_rejected harrives hstatus ▸ gives_rejected hstatus
      | true =>
          rw [fst_settle_accepted harrives hstatus]
          cases hread : content.read with
          | error cause => exact gives_unread hstatus hread
          | ok body => exact gives_read hnull hstatus hread

end Reply

theorem Remote.fetch_gives {read : Json → Checked α} (hnull : (read .null).good? = none) {path : String}
    {params : Option (List (String × String))} {reply : Reply} {t : Terminal} (h : t.Meets (asking path params) reply) :
    reply.Gives read path (fetch read path params t).1 := by
  obtain ⟨⟨request, address⟩, rfl, harrives, hsend⟩ := h.send
  rw [fst_fetch, hsend]
  exact Reply.gives_taken hnull harrives

/-! ## Commands -/

theorem Reply.Gives.voiced {read : Json → Checked α} {path : String} {reply : Reply} {outcome : Except Failure α}
    (h : reply.Gives read path outcome) (onPayload : α → String) (onFailure : String → String) :
    Remote.voiced onPayload onFailure outcome =
      reply.tells ((reply.payload? read).elim (onFailure (reply.complaint path)) onPayload) := by
  cases h with
  | overnested hdepth =>
      rw [tells_of_overnested hdepth]
      rfl
  | payload hdepth hpayload => rw [tells_of_not_overnested hdepth, hpayload, Remote.voiced, Option.elim_some]
  | complaint hdepth hpayload hmessage =>
      rw [tells_of_not_overnested hdepth, hpayload, Remote.voiced, hmessage, Option.elim_none]

namespace Remote

variable (endpoints : Endpoints) (call : Call) (t : Terminal)

theorem fst_ping : (ping endpoints call t).1 =
    voiced (·.message) (fun _ => syntheticPing (call.args.headD standardHost))
      (fetch Payload.ping s!"{endpoints.apiRoot}/ping" (some [("host", call.args.headD standardHost)]) t).1 := by
  rw [ping_eq, answering_eq]

theorem fst_systemInfo : (systemInfo endpoints call t).1 =
    voiced (·.render) (fun _ => (syntheticSystemInfo endpoints.host).render)
      (fetch Payload.systemInfo s!"{endpoints.apiRoot}/system-info" none t).1 := by
  rw [systemInfo_eq, answering_eq]

theorem fst_apiTest : (apiTest endpoints call t).1 =
    voiced healthy unhealthy (fetch Payload.health s!"{endpoints.apiRoot}/health" none t).1 := by
  rw [apiTest_eq, answering_eq]

theorem fst_lista : (lista endpoints call t).1 =
    voiced listed (fun _ => localListing) (fetch Payload.entities endpoints.entitiesPath none t).1 := by
  rw [lista_eq, answering_eq]

/-- What the commands say of a reply. Only a body that opens more arrays and objects than may be open keeps them from
saying it. -/
theorem answers_of_reply (reply : Reply) :
    (t.Meets (asking s!"{endpoints.apiRoot}/ping" (some [("host", call.args.headD standardHost)])) reply →
      (ping endpoints call t).1 =
        reply.tells ((reply.payload? Payload.ping).elim (syntheticPing (call.args.headD standardHost))
          PingAnswer.message)) ∧
    (t.Meets (asking s!"{endpoints.apiRoot}/system-info" none) reply → endpoints.host = t.session.host →
      (systemInfo endpoints call t).1 =
        reply.tells ((reply.payload? Payload.systemInfo).elim (syntheticSystemInfo t.session.host).render
          SystemInfo.render)) ∧
    (t.Meets (asking s!"{endpoints.apiRoot}/health" none) reply →
      (apiTest endpoints call t).1 =
        reply.tells ((reply.payload? Payload.health).elim
          (unhealthy (reply.complaint s!"{endpoints.apiRoot}/health")) healthy)) ∧
    (t.Meets (asking endpoints.entitiesPath none) reply →
      (lista endpoints call t).1 = reply.tells ((reply.payload? Payload.entities).elim localListing listed)) ∧
    ∀ text, reply.tells text = .ok (some text) ∨
      ∃ status data depth gs, reply = .answer status (.bytes data depth) ∧ Text.ofBytes? data = some gs ∧
        depth < Json.openings gs := by
  refine ⟨fun h => ?ping, fun h hhost => ?systemInfo, fun h => ?apiTest, fun h => ?lista, fun text => ?deep⟩
  case ping =>
    rw [fst_ping]
    exact (fetch_gives rfl h).voiced _ fun _ => _
  case systemInfo =>
    rw [fst_systemInfo, hhost]
    exact (fetch_gives rfl h).voiced _ fun _ => _
  case apiTest =>
    rw [fst_apiTest]
    exact (fetch_gives rfl h).voiced _ _
  case lista =>
    rw [fst_lista]
    exact (fetch_gives rfl h).voiced _ fun _ => _
  case deep =>
    cases hdepth : reply.overnested? with
    | none => exact .inl (Reply.tells_of_not_overnested hdepth text)
    | some inObject => exact .inr (Reply.openings_of_overnested hdepth)

theorem answers_of_reply_pong :
    let endpoints : Endpoints := ⟨"/api", "/terminal/listamaschere", "linux-box"⟩
    let reply : Reply := .answer 200 (.bytes
      (Text.utf8Bytes "\x7b\"success\":1,\"message\":\"pong\",\"data\":[\"b\",\"a\"]\x7d"))
    let t : Terminal := { backend := .constant reply }
    (ping endpoints ⟨[], []⟩ t).1 = .ok (some "pong") ∧
    (systemInfo endpoints ⟨[], []⟩ t).1 = .ok (some (syntheticSystemInfo "linux-box").render) ∧
    (apiTest endpoints ⟨[], []⟩ t).1 =
      .ok (some (unhealthy "Http failure during parsing for /api/health")) ∧
    (lista endpoints ⟨[], []⟩ t).1 = .ok (some (entityListing ["b", "a"])) := by
  intro endpoints reply t
  obtain ⟨hping, hsystem, hhealth, hlista, -⟩ := answers_of_reply endpoints ⟨[], []⟩ t reply
  have hdepth : reply.overnested? = none := by decide +kernel
  have hpong : reply.payload? Payload.ping = some ⟨true, "pong"⟩ := by decide +kernel
  have hmachine : reply.payload? Payload.systemInfo = none := by decide +kernel
  have hhealthless : reply.payload? Payload.health = none := by decide +kernel
  have hentities : reply.payload? Payload.entities = some ⟨none, true, some ["b", "a"]⟩ := by decide +kernel
  refine ⟨(hping (Terminal.meets_answer (by decide +kernel) rfl)).trans ?_,
    (hsystem (Terminal.meets_answer (by decide +kernel) rfl) rfl).trans ?_,
    (hhealth (Terminal.meets_answer (by decide +kernel) rfl)).trans ?_,
    (hlista (Terminal.meets_answer (by decide +kernel) rfl)).trans ?_⟩
  · rw [Reply.tells_of_not_overnested hdepth, hpong]
    rfl
  · rw [Reply.tells_of_not_overnested hdepth, hmachine]
    rfl
  · rw [Reply.tells_of_not_overnested hdepth, hhealthless]
    rfl
  · rw [Reply.tells_of_not_overnested hdepth, hentities]
    rfl

/-- Arrays without end are no answer to a ping, and yet nobody makes one up: the ping fails. -/
theorem ping_of_openings :
    let reply : Reply := .answer 200 (.bytes (List.replicate 100000 91))
    let t : Terminal := { backend := .constant reply }
    t.Meets (asking "/api/ping" (some [("host", "google.com")])) reply ∧ reply.payload? Payload.ping = none ∧
    (ping ⟨"/api", "/terminal/listamaschere", "linux-box"⟩ ⟨[], []⟩ t).1 = .error (.deepNesting false) := by
  intro reply t
  have hread : (Content.bytes (List.replicate 100000 91)).read = .error (.nesting false) :=
    Content.read_replicate (by decide)
  have hmeets : t.Meets (asking "/api/ping" (some [("host", "google.com")])) reply :=
    Terminal.meets_answer (by decide +kernel) rfl
  have hdepth : reply.overnested? = some false := Reply.overnested?_of_nesting rfl hread
  refine ⟨hmeets, Reply.payload?_of_unread hread, ?_⟩
  rw [fst_ping]
  exact ((fetch_gives rfl hmeets).voiced _ fun _ => _).trans (Reply.tells_of_overnested hdepth _)

end Remote

end LineShell
