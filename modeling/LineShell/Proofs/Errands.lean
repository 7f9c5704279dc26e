import LineShell.Catalog
import LineShell.Proofs.Requests
import LineShell.Proofs.Terminal.Showing

/-!
# Errands

What is asked of the backend is noted and nothing else: requests, replies and the commands made of them leave the
session as it is, and the terminal connected as it was. So do all commands but `clear` and `cd`.
-/

namespace LineShell

namespace Terminal

structure Wiring where
  client : Http.Address
  backend : Backend
  home : Errand → Reply

def wiring (t : Terminal) : Wiring := ⟨t.client, t.backend, t.home⟩

theorem wiring_eq_of_desk_eq {t u : Terminal} (h : t.desk = u.desk) : t.wiring = u.wiring := by
  have hclient : t.client = u.client := congrArg Desk.client h
  have hbackend : t.backend = u.backend := congrArg Desk.backend h
  have hhome : t.home = u.home := congrArg Desk.home h
  rw [wiring, hclient, hbackend, hhome]
  rfl

/-- From `t` to `u` requests were sent, the clock was read and the journal was written. -/
def Asked (t u : Terminal) : Prop := ∃ sent reached clock journal, u = { t with sent, reached, clock, journal }

namespace Asked

variable {t u v : Terminal}

theorem refl (t : Terminal) : Asked t t := ⟨_, _, _, _, rfl⟩

theorem trans : Asked t u → Asked u v → Asked t v := by
  rintro ⟨_, _, _, _, rfl⟩ ⟨_, _, _, _, rfl⟩
  exact ⟨_, _, _, _, rfl⟩

theorem noteAll (entries : List Entry) (t : Terminal) : Asked t (t.noteAll entries) := ⟨_, _, _, _, rfl⟩

theorem session : Asked t u → u.session = t.session := by
  rintro ⟨_, _, _, _, rfl⟩
  rfl

theorem wiring : Asked t u → u.wiring = t.wiring := by
  rintro ⟨_, _, _, _, rfl⟩
  rfl

/-! ## Requests -/

theorem start (request : Request) (t : Terminal) : Asked t (t.start request).2 := by
  rw [start_eq]
  cases t.errandOf request with
  | error failure => exact ⟨_, _, _, _, rfl⟩
  | ok errand =>
      dsimp only
      cases t.backend t.reached request with
      | reply reply => exact ⟨_, _, _, _, rfl⟩
      | home => exact ⟨_, _, _, _, rfl⟩

theorem send (request : Request) (t : Terminal) : Asked t (t.send request).2 := by
  rw [send_eq]
  cases t.errandOf request with
  | error failure => exact ⟨_, _, _, _, rfl⟩
  | ok errand => exact ⟨_, _, _, _, rfl⟩

theorem fetch (read : Json → Checked α) (path : String) (params : Option (List (String × String))) (t : Terminal) :
    Asked t (Remote.fetch read path params t).2 := by
  rw [Remote.fetch_eq]
  exact send _ t

/-! ## Remote commands -/

theorem answering {fetched : Except Failure α × Terminal} (h : Asked t fetched.2) (onPayload : α → String)
    (onFailure : String → String) (entries : String → List Entry) :
    Asked t (Remote.answering onPayload onFailure entries fetched).2 := by
  rw [Remote.answering_eq]
  exact h.trans (noteAll _ _)

section

variable (endpoints : Endpoints) (call : Call) (t : Terminal)

theorem ping : Asked t (Remote.ping endpoints call t).2 := by
  rw [Remote.ping_eq]
  exact (fetch _ _ _ t).answering _ _ _

theorem systemInfo : Asked t (Remote.systemInfo endpoints call t).2 := by
  rw [Remote.systemInfo_eq]
  exact (fetch _ _ _ t).answering _ _ _

theorem apiTest : Asked t (Remote.apiTest endpoints call t).2 := by
  rw [Remote.apiTest_eq]
  exact (fetch _ _ _ t).answering _ _ _

theorem lista : Asked t (Remote.lista endpoints call t).2 := by
  rw [Remote.lista_eq]
  exact (fetch _ _ _ t).answering _ _ _

end

end Asked

end Terminal

open Terminal

/-- Only `clear` and `cd` do more than to ask, to read the clock and to write the journal. -/
theorem asked_catalog (entries : List FileEntry) (endpoints : Endpoints) : ∀ c ∈ catalog entries endpoints,
    c.handler = Builtin.clear ∨ c.handler = Builtin.cd ∨ ∀ call t, Asked t (c.handler call t).2 := by
  have hcreate : ∀ kind missing call t, Asked t (Builtin.create kind missing call t).2 := by
    intro kind missing call t
    unfold Builtin.create
    split
    · exact Asked.refl t
    · exact Asked.refl t
  simp only [catalog, List.forall_mem_cons]
  refine ⟨?help, .inl trivial, ?ls, ?pwd, .inr (.inl trivial), ?whoami, ?echo, ?date, ?ping, ?systemInfo, ?apiTest,
    ?mkdir, ?touch, ?grep, ?wc, ?head, ?tail, ?history, ?lista, by simp⟩
  case ping => exact .inr (.inr (Asked.ping endpoints))
  case systemInfo => exact .inr (.inr (Asked.systemInfo endpoints))
  case apiTest => exact .inr (.inr (Asked.apiTest endpoints))
  case lista => exact .inr (.inr (Asked.lista endpoints))
  case mkdir => exact .inr (.inr (hcreate _ _))
  case touch => exact .inr (.inr (hcreate _ _))
  case date => exact .inr (.inr fun _ _ => ⟨_, _, _, _, rfl⟩)
  all_goals exact .inr (.inr fun _ t => Asked.refl t)

end LineShell
