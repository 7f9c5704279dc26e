import LineShell.Catalog
import LineShell.Proofs.Requests
import LineShell.Proofs.Terminal.Showing

/-!
# Commands at the desk

Almost every command of the catalog works at the desk alone: what it says and leaves there depends on
nothing else, and it does not touch the display. Only `clear` and `history` look away from the desk.
-/

namespace LineShell

open Terminal

/-! ## Work at the desk -/

/-- Work that depends on the desk alone and does not touch the display. -/
structure Offscreen (f : Terminal → α × Terminal) : Prop where
  desk : ∀ t u, t.desk = u.desk → Same Terminal.desk (f t) (f u)
  display : ∀ t, (f t).2.display = t.display

namespace Offscreen

theorem pure (a : α) : Offscreen fun t => (a, t) := ⟨fun _ _ h => ⟨rfl, h⟩, fun _ => rfl⟩

theorem noteAll (a : α) (entries : List Entry) : Offscreen fun t => (a, t.noteAll entries) :=
  ⟨fun _ _ h => ⟨rfl, h⟩, fun _ => rfl⟩

theorem reading {f : Terminal → α} (hf : ∀ t u, t.desk = u.desk → f t = f u) : Offscreen fun t => (f t, t) :=
  ⟨fun t u h => ⟨hf t u h, h⟩, fun _ => rfl⟩

theorem changing {f : Terminal → Terminal} (g : Desk → Desk) (hdesk : ∀ t, (f t).desk = g t.desk)
    (hdisplay : ∀ t, (f t).display = t.display) (a : α) : Offscreen fun t => (a, f t) :=
  ⟨fun t u h => ⟨rfl, by rw [hdesk, hdesk, h]⟩, hdisplay⟩

theorem next {f : Terminal → α × Terminal} {g : Terminal → β × Terminal} (hf : Offscreen f)
    (hg : ∀ a, ∃ k, Offscreen k ∧ ∀ t t', f t = (a, t') → g t = k t') : Offscreen g where
  desk t u h := by
    obtain ⟨hvalue, hdesk⟩ := hf.desk t u h
    obtain ⟨k, hk, hgk⟩ := hg (f t).1
    rw [hgk t (f t).2 rfl, hgk u (f u).2 (by rw [hvalue])]
    exact hk.desk _ _ hdesk
  display t := by
    obtain ⟨k, hk, hgk⟩ := hg (f t).1
    rw [hgk t (f t).2 rfl, hk.display, hf.display]

theorem answering {f : Terminal → Except Failure α × Terminal} (hf : Offscreen f) (onPayload : α → String)
    (onFailure : String → String) (entries : String → List Entry) :
    Offscreen fun t => Remote.answering onPayload onFailure entries (f t) :=
  hf.next fun outcome => ⟨_, noteAll (Remote.voiced onPayload onFailure outcome) (Remote.regretted entries outcome),
    fun _ _ ht => by rw [Remote.answering_eq, ht]⟩

end Offscreen

/-! ## Requests -/

theorem offscreen_send (request : Request) : Offscreen (send request) where
  desk t u h := by
    have herrand : t.errandOf request = u.errandOf request := by
      have hclient : t.client = u.client := congrArg Desk.client h
      rw [errandOf, errandOf, hclient]
    have hreply (errand : Errand) : (t.backend t.reached request).replyTo errand t =
        (u.backend u.reached request).replyTo errand u := by
      have hbackend : t.backend = u.backend := congrArg Desk.backend h
      have hreached : t.reached = u.reached := congrArg Desk.reached h
      have hhome : t.home = u.home := congrArg Desk.home h
      rw [hbackend, hreached]
      cases u.backend u.reached request with
      | reply r => rfl
      | home => exact congrFun hhome errand
    rw [send_eq, send_eq, herrand]
    cases u.errandOf request with
    | error failure => exact ⟨rfl, congrArg (fun d : Desk => { d with sent := d.sent ++ [request] }) h⟩
    | ok errand =>
        dsimp only
        rw [hreply]
        exact ⟨rfl, congrArg (fun d : Desk =>
          { d with sent := d.sent ++ [request], reached := d.reached ++ [request] }) h⟩
  display t := by
    rw [send_eq]
    cases t.errandOf request with
    | error failure => rfl
    | ok errand => rfl

theorem offscreen_fetch (read : Json → Checked α) (path : String) (params : Option (List (String × String))) :
    Offscreen (Remote.fetch read path params) :=
  (offscreen_send { method := .get, path, params }).next fun outcome =>
    ⟨_, Offscreen.pure (Remote.taken read path outcome), fun _ _ ht => by rw [Remote.fetch_eq, ht]⟩

/-! ## Remote commands -/

section

variable (endpoints : Endpoints) (call : Call)

theorem offscreen_ping : Offscreen (Remote.ping endpoints call) := by
  rw [funext (Remote.ping_eq endpoints call)]
  exact (offscreen_fetch _ _ _).answering _ _ _

theorem offscreen_systemInfo : Offscreen (Remote.systemInfo endpoints call) := by
  rw [funext (Remote.systemInfo_eq endpoints call)]
  exact (offscreen_fetch _ _ _).answering _ _ _

theorem offscreen_apiTest : Offscreen (Remote.apiTest endpoints call) := by
  rw [funext (Remote.apiTest_eq endpoints call)]
  exact (offscreen_fetch _ _ _).answering _ _ _

theorem offscreen_lista : Offscreen (Remote.lista endpoints call) := by
  rw [funext (Remote.lista_eq endpoints call)]
  exact (offscreen_fetch _ _ _).answering _ _ _

end

/-! ## Built-in commands -/

theorem offscreen_reading {f : Call → Terminal → String} (hf : ∀ call t u, t.desk = u.desk → f call t = f call u)
    (call : Call) : Offscreen (Handler.reading f call) :=
  Offscreen.reading fun t u h => congrArg (fun text => Except.ok (some text)) (hf call t u h)

theorem offscreen_ofFilter (f : Filter) (call : Call) : Offscreen (Handler.ofFilter f call) := Offscreen.pure _

theorem offscreen_create (kind missing : String) (call : Call) : Offscreen (Builtin.create kind missing call) := by
  unfold Builtin.create
  cases call.args with
  | nil => exact Offscreen.pure _
  | cons name rest => exact Offscreen.pure _

theorem offscreen_date (call : Call) : Offscreen (Builtin.date call) where
  desk t u h := by
    have hclock : t.clock = u.clock := congrArg Desk.clock h
    refine ⟨by simp only [Builtin.date, hclock], ?_⟩
    exact (congrArg (fun d : Desk => { d with clock := d.clock.read.2 }) h :)
  display _ := rfl

theorem offscreen_cd (call : Call) : Offscreen (Builtin.cd call) := by
  unfold Builtin.cd
  cases call.args with
  | nil =>
      exact Offscreen.changing (f := modifySession fun s => { s with directory := home })
        (fun d => { d with directory := home }) (fun _ => rfl) (fun _ => rfl) _
  | cons target rest =>
      refine (Offscreen.reading (f := fun t => Directory.move target t.session.directory) ?_).next fun place => ?_
      · intro t u h
        have hdirectory : t.session.directory = u.session.directory := congrArg Desk.directory h
        simp only [hdirectory]
      · cases place with
        | error failure =>
            refine ⟨_, Offscreen.pure (.error failure), fun t t' ht => ?_⟩
            obtain ⟨hmove, rfl⟩ := Prod.mk.inj ht
            simp only [hmove]
        | ok directory =>
            let enter (t : Terminal) : Terminal :=
              (t.modifySession fun s => { s with directory }).note .debug s!"Directory changed to {directory}"
            refine ⟨_, Offscreen.changing (f := enter) (fun d => { d with directory }) (fun _ => rfl)
              (fun _ => rfl) (.ok (some "")), fun t t' ht => ?_⟩
            obtain ⟨hmove, rfl⟩ := Prod.mk.inj ht
            simp only [hmove]
            rfl

/-! ## The catalog -/

/-- A command that looks away from the desk is `clear` or `history`. -/
def Command.AtDesk (c : Command) : Prop :=
  (c.name = "clear" ∧ c.handler = Builtin.clear) ∨ (c.name = "history" ∧ c.handler = Builtin.history) ∨
  (c.name ≠ "clear" ∧ c.name ≠ "history" ∧ ∀ call, Offscreen (c.handler call))

theorem atDesk_catalog (entries : List FileEntry) (endpoints : Endpoints) :
    ∀ c ∈ catalog entries endpoints, c.AtDesk := by
  have hplain : ∀ {c : Command} (name : String), c.name = name → name ≠ "clear" ∧ name ≠ "history" →
      (∀ call, Offscreen (c.handler call)) → c.AtDesk := by
    rintro c name rfl ⟨hclear, hhistory⟩ h
    exact .inr (.inr ⟨hclear, hhistory, h⟩)
  simp only [catalog, List.forall_mem_cons]
  -- in the order of the catalog, where `clear` and `history` have their places of their own
  refine ⟨?help, .inl ⟨rfl, rfl⟩, ?ls, ?pwd, ?cd, ?whoami, ?echo, ?date, ?ping, ?systemInfo, ?apiTest, ?mkdir,
    ?touch, ?grep, ?wc, ?head, ?tail, .inr (.inl ⟨rfl, rfl⟩), ?lista, by simp⟩
  case help => exact hplain "help" rfl (by decide) (offscreen_reading fun _ _ _ _ => rfl)
  case ls =>
    refine hplain "ls" rfl (by decide) (offscreen_reading fun call t u h => ?_)
    have huser : t.session.user = u.session.user := congrArg Desk.user h
    rw [huser]
  case pwd => exact hplain "pwd" rfl (by decide) (offscreen_reading fun _ _ _ h => congrArg Desk.directory h)
  case cd => exact hplain "cd" rfl (by decide) offscreen_cd
  case whoami => exact hplain "whoami" rfl (by decide) (offscreen_reading fun _ _ _ h => congrArg Desk.user h)
  case echo => exact hplain "echo" rfl (by decide) (offscreen_reading fun _ _ _ _ => rfl)
  case date => exact hplain "date" rfl (by decide) offscreen_date
  case ping => exact hplain "ping" rfl (by decide) (offscreen_ping endpoints)
  case systemInfo => exact hplain "system-info" rfl (by decide) (offscreen_systemInfo endpoints)
  case apiTest => exact hplain "api-test" rfl (by decide) (offscreen_apiTest endpoints)
  case mkdir => exact hplain "mkdir" rfl (by decide) (offscreen_create _ _)
  case touch => exact hplain "touch" rfl (by decide) (offscreen_create _ _)
  case grep => exact hplain "grep" rfl (by decide) (offscreen_ofFilter _)
  case wc => exact hplain "wc" rfl (by decide) (offscreen_ofFilter _)
  case head => exact hplain "head" rfl (by decide) (offscreen_ofFilter _)
  case tail => exact hplain "tail" rfl (by decide) (offscreen_ofFilter _)
  case lista => exact hplain "lista" rfl (by decide) (offscreen_lista endpoints)

end LineShell
