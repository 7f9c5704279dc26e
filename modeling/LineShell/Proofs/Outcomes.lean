import LineShell.Proofs.Fallbacks

/-!
# Outcomes of requests

What comes of a request, by what its client makes of it. A response gives a value exactly if its status means success
and its body is empty or can be decoded; any other response, and an error of the client, is a remote failure, whose
status alone tells its kind and the line that it leaves on the screen. Only a body that is nested too deep to be
decoded comes to something else.
-/

namespace LineShell

/-! ## What the client makes of a request -/

inductive ClientOutcome
  | response (status : Int) (content : Content)
  | error (text : String)
  | other (failure : Failure)

def Reply.arrive (errand : Errand) : Reply → ClientOutcome
  | .answer status content =>
    if errand.address.hasKind then .response status content else .other (.unknownKind errand.address.plainText)
  | .unreachable text => .error text
  | .failed failure => .other failure

def Terminal.clientOutcome (request : Request) (t : Terminal) : ClientOutcome :=
  match t.errandOf request with
  | .error failure => .other failure
  | .ok errand => ((t.backend t.reached request).replyTo errand t).arrive errand

def ClientOutcome.result (path : String) : ClientOutcome → Except Failure Json
  | .other failure => .error failure
  | .error _ => .error (.remote (.ofStatus 0 s!"Http failure response for {path}: 0 Unknown Error" path))
  | .response status content =>
    if Http.isSuccess status then
      match content.read with
      | .ok value => .ok value
      | .error (.nesting inObject) => .error (.deepNesting inObject)
      | .error _ => .error (.remote (.ofStatus status s!"Http failure during parsing for {path}" path))
    else
      .error (.remote (.ofStatus status s!"Http failure response for {path}: {status} {Http.phrase status}" path))

theorem isSuccess_iff (status : Int) : Http.isSuccess status = true ↔ 200 ≤ status ∧ status ≤ 299 := by
  simp [Http.isSuccess]

/-- A body that is not there is read as null. -/
theorem Content.read_eq_ok_iff (content : Content) (value : Json) : content.read = .ok value ↔
    content.isGiven = false ∧ value = .null ∨ content.isGiven = true ∧ content.read = .ok value := by
  cases hgiven : content.isGiven with
  | true => simp
  | false =>
      rw [Content.read_of_not_isGiven hgiven]
      simp [eq_comm]

theorem ClientOutcome.result_eq_ok_iff (client : ClientOutcome) (path : String) (value : Json) :
    client.result path = .ok value ↔ ∃ status content, client = .response status content ∧
      Http.isSuccess status = true ∧ content.read = .ok value := by
  constructor
  · intro h
    cases client with
    | other failure => cases h
    | error text => cases h
    | response status content =>
        rw [result] at h
        split at h
        · rename_i hstatus
          refine ⟨status, content, rfl, hstatus, ?_⟩
          split at h
          · rename_i read hread
            rw [hread, Except.ok.inj h]
          · cases h
          · cases h
        · cases h
  · rintro ⟨status, content, rfl, hstatus, hread⟩
    rw [result, if_pos hstatus, hread]

theorem Reply.fst_settle (errand : Errand) (reply : Reply) :
    (reply.settle errand).1 = (reply.arrive errand).result errand.request.path := by
  cases reply with
  | unreachable text => rfl
  | failed failure => rfl
  | answer status content =>
      cases hkind : errand.address.hasKind with
      | false => simp [settle, arrive, hkind, ClientOutcome.result]
      | true =>
          cases hstatus : Http.isSuccess status with
          | false => simp [settle, arrive, hkind, hstatus, ClientOutcome.result]
          | true =>
              simp only [settle, arrive, hkind, hstatus, ClientOutcome.result, Bool.not_true, Bool.false_eq_true,
                if_false, if_true]
              cases content.read with
              | ok value => rfl
              | error cause => cases cause <;> rfl

theorem Terminal.fst_send (request : Request) (t : Terminal) :
    (t.send request).1 = (t.clientOutcome request).result request.path := by
  rw [send_eq, clientOutcome]
  cases herrand : t.errandOf request with
  | error failure => rfl
  | ok errand =>
      dsimp only
      rw [Reply.fst_settle, request_of_errandOf herrand]

/-! ## Kinds of failure -/

namespace RemoteFault

/-- The statuses that a kind of failure stands for. -/
def Covers (status : Int) : RemoteFault → Prop
  | unreachable => status = 0
  | notFound => status = 404
  | server => 500 ≤ status
  | other => status ≠ 0 ∧ status ≠ 404 ∧ status < 500

def line (command text : String) : RemoteFault → String
  | unreachable => command ++ ": errore di connessione - Backend non raggiungibile"
  | notFound => command ++ ": endpoint non trovato"
  | server => command ++ ": errore interno del server"
  | other => command ++ ": errore - " ++ if text.isEmpty then "Errore sconosciuto" else text

theorem covers_ofStatus (status : Int) : (ofStatus status).Covers status := by
  unfold ofStatus
  split
  case isTrue h => exact eq_of_beq h
  case isFalse hunreachable =>
    split
    case isTrue h => exact eq_of_beq h
    case isFalse hnotFound =>
      split
      case isTrue h => exact h
      case isFalse h =>
        exact ⟨fun h => hunreachable (beq_iff_eq.mpr h), fun h => hnotFound (beq_iff_eq.mpr h), Int.lt_of_not_ge h⟩

theorem Covers.unique {status : Int} {fault fault' : RemoteFault} (h : fault.Covers status)
    (h' : fault'.Covers status) : fault = fault' := by
  cases fault <;> cases fault' <;> first | rfl | (simp only [Covers] at h h'; omega)

theorem ofStatus_eq_iff (status : Int) (fault : RemoteFault) : ofStatus status = fault ↔ fault.Covers status :=
  ⟨fun h => h ▸ covers_ofStatus status, (covers_ofStatus status).unique⟩

/-- The lines of different kinds differ behind the name of the command. -/
theorem line_injective (command text : String) : Function.Injective (line command text) := by
  have hopening : ∀ fault, ((line command text fault).toList.drop command.toList.length).take 10 =
      match fault with
      | unreachable => ": errore d".toList
      | notFound => ": endpoint".toList
      | server => ": errore i".toList
      | other => ": errore -".toList := by
    intro fault
    cases fault <;> simp [line, String.toList_append]
  intro fault fault' h
  have hsame := congrArg (fun s => (s.toList.drop command.toList.length).take 10) h
  simp only [hopening] at hsame
  revert hsame
  cases fault <;> cases fault' <;> decide

theorem screenLine_ofStatus (command : String) (status : Int) (text : String) (path : Option String) :
    Failure.screenLine command (.remote (.ofStatus status text path)) = (ofStatus status).line command text := by
  cases hfault : ofStatus status with
  | unreachable =>
      obtain rfl : status = 0 := (ofStatus_eq_iff status _).mp hfault
      rfl
  | notFound =>
      obtain rfl : status = 404 := (ofStatus_eq_iff status _).mp hfault
      rfl
  | server =>
      have hserver : 500 ≤ status := (ofStatus_eq_iff status _).mp hfault
      have hunreachable : ¬((RemoteFailure.ofStatus status text path).status == 0) = true := by
        simp only [RemoteFailure.ofStatus, beq_iff_eq]
        omega
      have hnotFound : ¬((RemoteFailure.ofStatus status text path).status == 404) = true := by
        simp only [RemoteFailure.ofStatus, beq_iff_eq]
        omega
      rw [Failure.screenLine, if_neg hunreachable, if_neg hnotFound]
      exact if_pos hserver
  | other =>
      obtain ⟨hunreachable, hnotFound, hserver⟩ : status ≠ 0 ∧ status ≠ 404 ∧ status < 500 :=
        (ofStatus_eq_iff status _).mp hfault
      rw [Failure.screenLine, if_neg (by simpa [RemoteFailure.ofStatus] using hunreachable),
        if_neg (by simpa [RemoteFailure.ofStatus] using hnotFound)]
      exact if_neg (by simpa [RemoteFailure.ofStatus] using hserver)

end RemoteFault

/-! ## What comes of a request -/

namespace Terminal

theorem clientOutcome_of_meets {request : Request} {status : Int} {content : Content} {t : Terminal}
    (h : t.Meets request (.answer status content)) : t.clientOutcome request = .response status content := by
  obtain ⟨errand, herrand, hkind, hturn⟩ := h
  have hreply : (t.backend t.reached request).replyTo errand t = .answer status content :=
    Turn.replyTo_eq_iff.mpr hturn
  have hkind : errand.address.hasKind = true := hkind
  rw [clientOutcome, herrand]
  simp only [hreply, Reply.arrive, hkind, if_true]

/-- A request gives a value exactly if its client gets a response whose status means success and whose body is empty,
which stands for null, or can be decoded. An error of the client, another status and a body that cannot be decoded
are remote failures of the path, with status 0, the other status or the one that means success; but a body that is
nested too deep is not. The kind of a remote failure and the line that it leaves both say what its status stands
for. -/
theorem send_outcome (request : Request) (command : String) (t : Terminal) :
    let path := request.path
    let client := t.clientOutcome request
    let outcome := (t.send request).1
    let fails (status : Int) (text : String) : Prop := outcome = .error (.remote (.ofStatus status text path))
    (∀ value, outcome = .ok value ↔ ∃ status content, client = .response status content ∧
      200 ≤ status ∧ status ≤ 299 ∧
        (content.isGiven = false ∧ value = .null ∨ content.isGiven = true ∧ content.read = .ok value)) ∧
    (∀ text, client = .error text → fails 0 s!"Http failure response for {path}: 0 Unknown Error") ∧
    (∀ failure, client = .other failure → outcome = .error failure) ∧
    (∀ status content, client = .response status content → status < 200 ∨ 299 < status →
      fails status s!"Http failure response for {path}: {status} {Http.phrase status}") ∧
    (∀ status content cause, client = .response status content → 200 ≤ status → status ≤ 299 →
      content.read = .error cause →
      match cause with
      | .nesting inObject => outcome = .error (.deepNesting inObject) ∧
        ∃ data depth gs, content = .bytes data depth ∧ Text.ofBytes? data = some gs ∧ depth < Json.openings gs
      | _ => fails status s!"Http failure during parsing for {path}") ∧
    ∀ (status : Int) (text : String) (path : Option String),
      let failure := RemoteFailure.ofStatus status text path
      failure.status = status ∧ failure.message = text ∧ failure.path = path ∧
        ∀ fault : RemoteFault, (failure.fault = some fault ↔ fault.Covers status) ∧
          (Failure.screenLine command (.remote failure) = fault.line command text ↔ fault.Covers status) := by
  intro path client outcome fails
  -- the outcome depends on nothing but what the client makes of the request
  have hsend : outcome = client.result path := fst_send request t
  refine ⟨fun value => ?value, fun text hclient => ?unreachable, fun failure hclient => ?other,
    fun status content hclient hstatus => ?rejected, fun status content cause hclient hleast hmost hread => ?unread,
    fun status text path => ⟨rfl, rfl, rfl, fun fault => ⟨?kind, ?line⟩⟩⟩
  case value =>
    rw [hsend, ClientOutcome.result_eq_ok_iff]
    refine exists_congr fun status => exists_congr fun content => ?_
    rw [isSuccess_iff, and_assoc, ← Content.read_eq_ok_iff]
  case unreachable => exact hsend.trans (congrArg (ClientOutcome.result path) hclient)
  case other => exact hsend.trans (congrArg (ClientOutcome.result path) hclient)
  case rejected =>
    have hfailed : ¬Http.isSuccess status = true := by
      rw [isSuccess_iff]
      omega
    exact (hsend.trans (congrArg (ClientOutcome.result path) hclient)).trans (if_neg hfailed)
  case unread =>
    have houtcome := hsend.trans (congrArg (ClientOutcome.result path) hclient)
    rw [ClientOutcome.result, if_pos ((isSuccess_iff status).mpr ⟨hleast, hmost⟩), hread] at houtcome
    cases cause with
    | nesting inObject => exact ⟨houtcome, Content.openings_of_nesting hread⟩
    | syntactic | encoding | numeral => exact houtcome
  case kind =>
    rw [← RemoteFault.ofStatus_eq_iff]
    exact Option.some_inj
  case line =>
    rw [RemoteFault.screenLine_ofStatus, (RemoteFault.line_injective command text).eq_iff, RemoteFault.ofStatus_eq_iff]

/-- Arrays without end cannot be decoded, and yet the failure is not that of a body that cannot be decoded. -/
theorem send_of_openings :
    let content : Content := .bytes (List.replicate 100000 91)
    let t : Terminal := { backend := .constant (.answer 200 content) }
    let request := asking "/deep" none
    t.clientOutcome request = .response 200 content ∧ (∀ value, content.read ≠ .ok value) ∧
      (t.send request).1 = .error (.deepNesting false) := by
  intro content t request
  have hread : content.read = .error (.nesting false) := Content.read_replicate (by decide)
  have hclient : t.clientOutcome request = .response 200 content :=
    clientOutcome_of_meets (meets_answer (by decide +kernel) rfl)
  refine ⟨hclient, fun value hvalue => ?_, ?_⟩
  · rw [hread] at hvalue
    cases hvalue
  · rw [fst_send, hclient, ClientOutcome.result, if_pos (by decide), hread]

end Terminal

end LineShell
