import LineShell.Proofs.Api.Direct
import LineShell.Proofs.Fallbacks
import LineShell.Proofs.Http.Roots

/-!
# Serving a terminal

A service as the backend of a terminal: what it answers to the requests of the remote commands is what the terminal
reads, so the commands say what the backend has to say and make nothing up.
-/

namespace LineShell

open Terminal Text

/-! ## Bodies are read back -/

namespace Payload

theorem ping_body (answer : PingAnswer) : ping answer.body = .good answer := rfl

theorem systemInfo_body (info : SystemInfo) : systemInfo info.body = .good info := rfl

theorem health_body (health : Health) : Payload.health health.body = .good health := rfl

theorem texts_map_string (name : String) (items : List String) :
    texts name (items.map Json.string) = .good items := by
  have hfaults : ((List.range (items.map Json.string).length).filter fun i =>
      (((items.map Json.string)[i]?).bind text?).isNone) = [] := by
    refine List.filter_eq_nil_iff.mpr fun i hi => ?_
    have hlt : i < items.length := by simpa using hi
    simp [hlt, text?]
  have hread : (items.map Json.string).filterMap text? = items := by
    rw [List.filterMap_map]
    exact List.filterMap_some
  simp only [texts, hfaults, hread]
  rfl

theorem entities_body (list : EntityList) : entities list.body = .good list := by
  have hcode : optional (orNull int?) none "code" list.body = .good list.code := by
    rcases list with ⟨_ | code, success, names⟩ <;> rfl
  have hnames : textList "data" list.body = .good list.names := by
    rcases list with ⟨code, success, _ | names⟩
    · rfl
    · exact congrArg (Checked.map some) (texts_map_string "data" names)
  have hread : entities list.body = (((Checked.good EntityList.mk).andField
    (optional (orNull int?) none "code" list.body)).andField (optional bool? false "success" list.body)).andField
    (textList "data" list.body) := rfl
  rw [hread, hcode, hnames]
  rfl

end Payload

/-! ## Served terminals -/

/-- All requests of the terminal are answered by the service, to whose root its client calls. -/
structure Terminal.IsServedBy (s : Api.Service) (t : Terminal) : Prop where
  client : t.client.IsRoot
  turn : ∀ reached request, t.backend reached request = .home
  home : ∀ errand, t.home errand = (s.reply errand).1

structure Api.Route.IsAskedAt (route : Api.Route) (path : String) : Prop where
  plain : Http.Address.IsPlain path
  found : Api.Route.find? path = some route
  method : route.method = "GET"

namespace Api.Route

theorem isAskedAt_ping : ping.IsAskedAt "/api/ping" :=
  ⟨by constructor <;> decide +kernel, by decide +kernel, rfl⟩

theorem isAskedAt_systemInfo : systemInfo.IsAskedAt "/api/system-info" :=
  ⟨by constructor <;> decide +kernel, by decide +kernel, rfl⟩

theorem isAskedAt_health : health.IsAskedAt "/api/health" :=
  ⟨by constructor <;> decide +kernel, by decide +kernel, rfl⟩

theorem isAskedAt_entities : entities.IsAskedAt "/terminal/listamaschere" :=
  ⟨by constructor <;> decide +kernel, by decide +kernel, rfl⟩

end Api.Route

namespace Terminal.IsServedBy

variable {s : Api.Service} {t u : Terminal}

theorem of_wiring (h : t.IsServedBy s) (hwiring : u.wiring = t.wiring) : u.IsServedBy s := by
  have hclient : u.client = t.client := congrArg Wiring.client hwiring
  have hbackend : u.backend = t.backend := congrArg Wiring.backend hwiring
  have hhome : u.home = t.home := congrArg Wiring.home hwiring
  exact ⟨hclient ▸ h.client, hbackend ▸ h.turn, hhome ▸ h.home⟩

theorem meets (h : t.IsServedBy s) {path : String} {route : Api.Route} (hroute : route.IsAskedAt path)
    {params : Option (List (String × String))} {query : Option String}
    (haddress : t.client.resolve path params = .ok { t.client with path, query }) {body : Json}
    (hanswer : ∀ r : Api.Incoming, (∀ given, params = some given → r.query = given) →
      (s.answer Api.Service.handle route r).1 = .good body) :
    t.Meets (asking path params) (.answer 200 (.value body)) := by
  let errand : Errand := ⟨asking path params, { t.client with path, query }⟩
  have herrand : t.errandOf (asking path params) = .ok errand := by
    have hreadable : errand.address.unreadable? = none := h.client.readable
    unfold errandOf
    simp only [asking, haddress]
    rw [show ({ t.client with path, query } : Http.Address) = errand.address from rfl, hreadable]
    rfl
  -- the path of the errand is taken as it was asked for, so it leads to the route
  have htaken : (Api.Incoming.ofErrand errand).path = path := hroute.plain.pathTaken t.client
  have hhandle : s.handle (.ofErrand errand) = s.answer Api.Service.handle route (.ofErrand errand) :=
    Api.handle_route (htaken ▸ hroute.found) hroute.method.symm s
  refine ⟨errand, herrand, Http.Address.hasKind_of_scheme h.client.scheme, .inr ⟨h.turn _ _, ?_⟩⟩
  rw [h.home, Api.Service.reply, hhandle]
  dsimp only
  rw [hanswer _ fun given hgiven => ?_]
  · rfl
  · rw [Api.Incoming.ofErrand, Api.Incoming.ofAddress, show errand.request.params = params from rfl, hgiven]
    rfl

end Terminal.IsServedBy

theorem Api.Service.isServedBy_ofWorkplace {w w' : Workplace} (hclient : w.terminal.client.IsRoot)
    (hbackend : w.terminal.backend = .home) (m : Machine) (h : (ofWorkplace (.ok w) m).workplace = .ok w') :
    w'.terminal.IsServedBy { workplace := .ok w, machine := m } := by
  obtain rfl := Except.ok.inj h
  exact ⟨hclient, fun reached request => congrFun (congrFun hbackend reached) request, fun _ => rfl⟩

/-! ## Commands -/

namespace Remote

theorem fst_fetch_of_meets {read : Json → Checked α} {path : String} {params : Option (List (String × String))}
    {t : Terminal} {body : Json} {value : α} (h : t.Meets (asking path params) (.answer 200 (.value body)))
    (hread : read body = .good value) : (fetch read path params t).1 = .ok value := by
  obtain ⟨⟨request, address⟩, rfl, harrives, hsend⟩ := h.send
  rw [fst_fetch, hsend, Reply.fst_settle_accepted harrives rfl]
  simp [Content.read, Except.mapError, taken, hread]

variable {s : Api.Service} {t : Terminal} {endpoints : Endpoints} (call : Call)

/-- A host of which the request for a ping does not get too long. -/
def Fits (host : String) : Prop := (Http.formQuery [("host", host)]).length ≤ Http.Address.lengthLimit

theorem fst_ping_of_served (h : t.IsServedBy s) (hroot : endpoints.apiRoot = "/api")
    (hfits : Fits (call.args.headD standardHost)) {answer : PingAnswer}
    (hanswer : s.machine.ping (call.args.headD standardHost) = .ok answer) :
    (ping endpoints call t).1 = .ok (some answer.message) := by
  have hroute := Api.Route.isAskedAt_ping
  obtain ⟨query, haddress⟩ := Http.Address.resolve_params_of_root h.client hroute.plain hfits
  have hmeets : t.Meets (asking "/api/ping" (some [("host", call.args.headD standardHost)]))
      (.answer 200 (.value answer.body)) := by
    refine h.meets hroute haddress fun r hquery => ?_
    have hhost : r.param? "host" = some (call.args.headD standardHost) := by
      rw [Api.Incoming.param?, hquery _ rfl]
      rfl
    simp only [Api.Service.answer, Api.Service.answerPing, hhost, Option.getD_some, hanswer]
  have hpath : s!"{endpoints.apiRoot}/ping" = "/api/ping" := by rw [hroot]; rfl
  rw [fst_ping, hpath, fst_fetch_of_meets hmeets (Payload.ping_body answer)]
  rfl

theorem fst_fetch_of_served (h : t.IsServedBy s) {path : String} {route : Api.Route} (hroute : route.IsAskedAt path)
    {read : Json → Checked α} {body : Json} {value : α}
    (hanswer : ∀ r : Api.Incoming, (s.answer Api.Service.handle route r).1 = .good body)
    (hread : read body = .good value) : (fetch read path none t).1 = .ok value := by
  have haddress : t.client.resolve path none = .ok { t.client with path, query := t.client.query } :=
    Http.Address.resolve_of_root h.client hroute.plain
  exact fst_fetch_of_meets (h.meets hroute haddress fun r _ => hanswer r) hread

theorem fst_systemInfo_of_served (h : t.IsServedBy s) (hroot : endpoints.apiRoot = "/api") {info : SystemInfo}
    (hinfo : s.machine.systemInfo = some info) : (systemInfo endpoints call t).1 = .ok (some info.render) := by
  have hpath : s!"{endpoints.apiRoot}/system-info" = "/api/system-info" := by rw [hroot]; rfl
  have hanswer : ∀ r, (s.answer Api.Service.handle .systemInfo r).1 = .good info.body := fun r => by
    simp only [Api.Service.answer, Api.Service.answerSystemInfo, hinfo]
  rw [fst_systemInfo, hpath,
    fst_fetch_of_served h Api.Route.isAskedAt_systemInfo hanswer (Payload.systemInfo_body info)]
  rfl

theorem fst_apiTest_of_served (h : t.IsServedBy s) (hroot : endpoints.apiRoot = "/api") :
    (apiTest endpoints call t).1 = .ok (some (healthy s.machine.health)) := by
  have hpath : s!"{endpoints.apiRoot}/health" = "/api/health" := by rw [hroot]; rfl
  rw [fst_apiTest, hpath,
    fst_fetch_of_served h Api.Route.isAskedAt_health (fun _ => rfl) (Payload.health_body s.machine.health)]
  rfl

theorem fst_lista_of_served (h : t.IsServedBy s) (hpath : endpoints.entitiesPath = "/terminal/listamaschere") :
    (lista endpoints call t).1 = .ok (some (entityListing localEntities)) := by
  rw [fst_lista, hpath,
    fst_fetch_of_served h Api.Route.isAskedAt_entities (fun _ => rfl) (Payload.entities_body Machine.entities)]
  rfl

end Remote

/-! ## Lines -/

/-- What a backend on the machine says about the stage of a remote command: whether it resolved the host, that it is
well, the entities that it offers, or the machine, if it can be described. -/
def Machine.tells? (m : Machine) (stage : Stage) : Option String :=
  match stage.name with
  | "ping" =>
    let host := stage.args.headD Remote.standardHost
    match m.resolve host with
    | .address address => some s!"PING {host} ({address}): host raggiungibile"
    | .unknown => some s!"ping: {host}: Name or service not known"
    | .failed _ => none
  | "api-test" => some s!"✅ API Connection: {m.health.message}\nTimestamp: {m.health.timestamp}"
  | "lista" => Machine.entities.names.map entityListing
  | "system-info" => m.systemInfo.map SystemInfo.render
  | _ => none

/-- A stage whose request does not get too long. -/
def Stage.Fits (stage : Stage) : Prop :=
  stage.name = "ping" → Remote.Fits (stage.args.headD Remote.standardHost)

theorem Machine.tells?_cases {m : Machine} {stage : Stage} {said : String} (h : m.tells? stage = some said) :
    (stage.name = "ping" ∧ ∃ success, m.ping (stage.args.headD Remote.standardHost) = .ok ⟨success, said⟩) ∨
    (stage.name = "api-test" ∧ Remote.healthy m.health = said) ∨
    (stage.name = "lista" ∧ entityListing localEntities = said) ∨
    (stage.name = "system-info" ∧ ∃ info, m.systemInfo = some info ∧ info.render = said) := by
  unfold tells? at h
  split at h
  · rename_i hname
    refine .inl ⟨hname, ?_⟩
    unfold ping
    dsimp only at h
    generalize m.resolve (stage.args.headD Remote.standardHost) = resolution at h ⊢
    cases resolution with
    | address text =>
        obtain rfl := Option.some.inj h
        exact ⟨true, rfl⟩
    | unknown =>
        obtain rfl := Option.some.inj h
        exact ⟨false, rfl⟩
    | failed failure => cases h
  · rename_i hname
    exact .inr (.inl ⟨hname, Option.some.inj h⟩)
  · rename_i hname
    exact .inr (.inr (.inl ⟨hname, Option.some.inj h⟩))
  · rename_i hname
    exact .inr (.inr (.inr ⟨hname, Option.map_eq_some_iff.mp h⟩))
  · cases h

namespace Registry

section

variable (entries : List FileEntry) (endpoints : Endpoints)

theorem find?_standard_ping : ∃ c, find? "ping" (standard entries endpoints) = some c ∧
    c.handler = Remote.ping endpoints := ⟨_, rfl, rfl⟩

theorem find?_standard_apiTest : ∃ c, find? "api-test" (standard entries endpoints) = some c ∧
    c.handler = Remote.apiTest endpoints := ⟨_, rfl, rfl⟩

theorem find?_standard_lista : ∃ c, find? "lista" (standard entries endpoints) = some c ∧
    c.handler = Remote.lista endpoints := ⟨_, rfl, rfl⟩

theorem find?_standard_systemInfo : ∃ c, find? "system-info" (standard entries endpoints) = some c ∧
    c.handler = Remote.systemInfo endpoints := ⟨_, rfl, rfl⟩

end

theorem exists_said {r : Registry} {name : String} {handler : Handler} {args : List String} {t : Terminal}
    {said : String} (hc : ∃ c, r.find? name = some c ∧ c.handler = handler)
    (h : ∀ known, (handler ⟨args, known⟩ t).1 = .ok (some said)) :
    ∃ c, r.find? name = some c ∧ ∀ known, (c.handler ⟨args, known⟩ t).1 = .ok (some said) := by
  obtain ⟨c, hfind, rfl⟩ := hc
  exact ⟨c, hfind, h⟩

variable (entries : List FileEntry) {endpoints : Endpoints} {s : Api.Service} {t : Terminal}

theorem said_of_served (h : t.IsServedBy s) (hroot : endpoints.apiRoot = "/api")
    (hentities : endpoints.entitiesPath = "/terminal/listamaschere") {stage : Stage} (hfits : stage.Fits)
    {said : String} (htells : s.machine.tells? stage = some said) :
    ∃ c, find? stage.name (standard entries endpoints) = some c ∧
      ∀ known, (c.handler ⟨stage.args, known⟩ t).1 = .ok (some said) := by
  rcases Machine.tells?_cases htells with
    ⟨hname, success, hping⟩ | ⟨hname, rfl⟩ | ⟨hname, rfl⟩ | ⟨hname, info, hinfo, rfl⟩
  all_goals rw [hname]
  · exact exists_said (find?_standard_ping entries endpoints) fun known =>
      Remote.fst_ping_of_served ⟨stage.args, known⟩ h hroot (hfits hname) hping
  · exact exists_said (find?_standard_apiTest entries endpoints) fun _ => Remote.fst_apiTest_of_served _ h hroot
  · exact exists_said (find?_standard_lista entries endpoints) fun _ => Remote.fst_lista_of_served _ h hentities
  · exact exists_said (find?_standard_systemInfo entries endpoints) fun _ =>
      Remote.fst_systemInfo_of_served _ h hroot hinfo

/-- A statement says what the later stages make of what the backend says. -/
theorem fst_runStatement_of_served (h : t.IsServedBy s) (hroot : endpoints.apiRoot = "/api")
    (hentities : endpoints.entitiesPath = "/terminal/listamaschere") {statement : Statement}
    (hfits : statement.first.Fits) {said : String} (htells : s.machine.tells? statement.first = some said) :
    (runStatement (standard entries endpoints) statement t).1 =
      statement.stages.tail.foldl (standard entries endpoints).read said := by
  obtain ⟨c, hfind, hsaid⟩ := said_of_served entries h hroot hentities hfits htells
  have hcall : (call (standard entries endpoints) c statement.first.args t).1 = said := by
    obtain ⟨journal, hcall⟩ := (standard entries endpoints).call_eq c statement.first.args t
    rw [hcall, hsaid]
    rfl
  cases statement with
  | single stage =>
      change find? stage.name _ = _ at hfind
      rw [runStatement, get_of_some hfind]
      exact hcall
  | pipeline first rest =>
      change find? first.name _ = _ at hfind
      rw [runStatement_pipeline_fst, runFirst, get_of_some hfind]
      exact congrArg (rest.foldl _) hcall

theorem runStatements_of_served (h : t.IsServedBy s) (hroot : endpoints.apiRoot = "/api")
    (hentities : endpoints.entitiesPath = "/terminal/listamaschere") {statements : List Statement} {i : Nat}
    {statement : Statement} (hi : statements[i]? = some statement) (hfits : statement.first.Fits) {said : String}
    (htells : s.machine.tells? statement.first = some said) :
    (runStatements (standard entries endpoints) statements t).1[i]? =
      some (statement.stages.tail.foldl (standard entries endpoints).read said) := by
  induction statements generalizing t i with
  | nil => cases hi
  | cons first rest ih =>
      cases i with
      | zero =>
          obtain rfl := Option.some.inj hi
          exact congrArg some (fst_runStatement_of_served entries h hroot hentities hfits htells)
      | succ i =>
          -- no command connects the terminal anew, so what comes later is served as well
          have hwiring := (spares_wiring_standard entries endpoints).carries.runStatement first t
          exact ih (h.of_wiring hwiring) hi

theorem isServedBy_execute (h : t.IsServedBy s) (typed : String) :
    (execute (standard entries endpoints) typed t).2.IsServedBy s :=
  h.of_wiring ((spares_wiring_standard entries endpoints).execute wiring_eq_of_desk_eq typed t)

theorem isServedBy_executeAll (h : t.IsServedBy s) (inputs : List String) :
    (executeAll (standard entries endpoints) inputs t).2.IsServedBy s := by
  induction inputs generalizing t with
  | nil => exact h
  | cons typed rest ih =>
      rw [executeAll]
      exact ih (isServedBy_execute entries h typed)

/-- A terminal whose requests are served by the backend of the same program says what that backend says, in whichever
statement of a line and after whichever lines: `ping` its message about the host, resolved or not, `api-test` its
message and its time, `lista` its entities, and `system-info` the machine, if it can be described. Later stages of a
pipeline read the same. Nothing is made up. -/
theorem execute_of_served (entries : List FileEntry) (host : String) {s : Api.Service} {t : Terminal}
    (h : t.IsServedBy s) (earlier : List String) {typed text : String} {statements : List Statement}
    (hline : Line.parse typed = .run text statements) :
    let r := standard entries ⟨"/api", "/terminal/listamaschere", host⟩
    let u := (r.executeAll earlier t).2
    let outputs := (r.runStatements statements (Registry.echo text u)).1
    (r.execute typed u).1 = unlines outputs ∧
    ∀ (i : Nat) (statement : Statement) (said : String), statements[i]? = some statement → statement.first.Fits →
      s.machine.tells? statement.first = some said →
      outputs[i]? = some (statement.stages.tail.foldl r.read said) := by
  intro r u outputs
  refine ⟨?_, fun i statement said hi hfits htells => ?_⟩
  · rw [execute, hline]
    rfl
  · have hu : u.IsServedBy s := isServedBy_executeAll entries h earlier
    have hecho : (Registry.echo text u).IsServedBy s := hu.of_wiring (wiring_eq_of_desk_eq (desk_echo text u))
    exact runStatements_of_served entries hecho rfl rfl hi hfits htells

theorem execute_of_served_chain :
    let m : Machine := { resolve := fun host => if host == "example.org" then .address "93.184.216.34" else .unknown }
    let r := standard [] ⟨"/api", "/terminal/listamaschere", "linux-box"⟩
    let w : Workplace := {
      registry := r
      terminal := { client := ⟨"http", "", "127.0.0.1", some 8000, "/", none, none⟩, backend := .home }
      apiRoot := "/api" }
    let s : Api.Service := { workplace := .ok w, machine := m }
    let t : Terminal := { w.terminal with home := fun errand => (s.reply errand).1 }
    let u := (r.executeAll ["cd Documenti", "ping"] t).2
    let line := "ping example.org; ping nowhere | wc; lista; api-test | grep Timestamp"
    let statements := [.single ⟨"ping", ["example.org"]⟩, .pipeline ⟨"ping", ["nowhere"]⟩ [⟨"wc", []⟩],
      .single ⟨"lista", []⟩, .pipeline ⟨"api-test", []⟩ [⟨"grep", ["Timestamp"]⟩]]
    let outputs := (r.runStatements statements (Registry.echo line u)).1
    outputs[0]? = some "PING example.org (93.184.216.34): host raggiungibile" ∧
    outputs[1]? = some "1   7   40" ∧
    outputs[2]? = some (entityListing localEntities) ∧
    outputs[3]? = some "Timestamp: 2024-03-07T09:05:03+00:00" := by
  intro m r w s t u line statements outputs
  have hroot : w.terminal.client.IsRoot := by constructor <;> decide +kernel
  have hworkplace : (Api.Service.ofWorkplace (.ok w) m).workplace = .ok (w.withTerminal t) := rfl
  have hserved : t.IsServedBy s := Api.Service.isServedBy_ofWorkplace hroot rfl m hworkplace
  have hline : Line.parse line = .run line statements := by decide +kernel
  have hfits : ∀ host ∈ ["example.org", "nowhere"], Remote.Fits host := by
    unfold Remote.Fits
    decide +kernel
  obtain ⟨-, houtputs⟩ := execute_of_served [] "linux-box" hserved ["cd Documenti", "ping"] hline
  have hknown := houtputs 0 _ _ rfl (fun _ => hfits _ (by decide)) rfl
  have hunknown := houtputs 1 _ _ rfl (fun _ => hfits _ (by decide)) rfl
  have hlisting := houtputs 2 _ _ rfl (fun h => absurd h (by decide)) rfl
  have htime := houtputs 3 _ _ rfl (fun h => absurd h (by decide)) rfl
  exact ⟨hknown.trans (by decide +kernel), hunknown.trans (by decide +kernel), hlisting,
    htime.trans (by decide +kernel)⟩

end Registry

end LineShell
