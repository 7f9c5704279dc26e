import LineShell.Api.Service
import LineShell.Proofs.Errands
import LineShell.Proofs.Fallbacks

/-!
# Calls of a service to itself

A call may lead back to the service. What it passes on is lower than the body it came in, so calls to itself end, and
the bound on their number shows nowhere: a service answers by its routes, with itself at home.
-/

namespace LineShell

open Terminal

/-! ## Heights -/

namespace Json

theorem height_le_of_lookup {name : String} {value : Json} {fields : List (String × Json)}
    (h : fields.lookup name = some value) : value.height ≤ heightOfFields fields := by
  induction fields with
  | nil => exact absurd h nofun
  | cons field rest ih =>
      obtain ⟨other, old⟩ := field
      rw [heightOfFields]
      rw [List.lookup_cons] at h
      cases hname : name == other with
      | true =>
          rw [hname] at h
          obtain rfl := Option.some.inj h
          exact Nat.le_max_left _ _
      | false =>
          rw [hname] at h
          exact Nat.le_trans (ih h) (Nat.le_max_right _ _)

theorem height_le_of_mem {value : Json} {items : List Json} (h : value ∈ items) :
    value.height ≤ heightOfItems items := by
  induction items with
  | nil => exact absurd h List.not_mem_nil
  | cons item rest ih =>
      rw [heightOfItems]
      rcases List.mem_cons.mp h with rfl | hrest
      · exact Nat.le_max_left _ _
      · exact Nat.le_trans (ih hrest) (Nat.le_max_right _ _)

theorem height_field? {name : String} {value body : Json} (h : body.field? name = some value) :
    value.height < body.height := by
  cases body with
  | object fields =>
      have hle := height_le_of_lookup h
      rw [height]
      omega
  | raggedObject names values =>
      obtain ⟨before, after, hzip, -⟩ := List.lookup_eq_some_iff.mp h
      have hmem : (Text.glyphs name, value) ∈ names.zip values := hzip ▸ List.mem_append_cons_self
      have hle := height_le_of_mem (List.of_mem_zip hmem).2
      rw [height]
      omega
  | _ => exact absurd h nofun

theorem height_pos (value : Json) : 0 < value.height := by
  cases value with
  | array items =>
      rw [height]
      omega
  | object fields =>
      rw [height]
      omega
  | raggedObject names values =>
      rw [height]
      omega
  | _ => exact Nat.one_pos

end Json

namespace Api

open Service

/-! ## What is passed on -/

theorem bodyHeight_of_bodyOf {r : Incoming} {value : Json} (h : bodyOf r = .ok value) :
    bodyHeight r = value.height := by
  unfold bodyOf at h
  unfold bodyHeight
  split at h
  · exact absurd h nofun
  · exact absurd h nofun
  · rename_i content hbody
    rw [hbody]
    dsimp only
    split at h
    · rename_i hread
      rw [hread, Except.ok.inj h]
    · exact absurd h nofun
    · exact absurd h nofun

theorem bodyOf_of_objectOf {r : Incoming} {value : Json} (h : objectOf r = .ok value) : bodyOf r = .ok value := by
  unfold objectOf at h
  cases hbody : bodyOf r with
  | error response =>
      rw [hbody] at h
      exact absurd h nofun
  | ok body =>
      rw [hbody] at h
      cases body with
      | object fields => exact h
      | raggedObject names values => exact h
      | _ => exact absurd h nofun

/-- What a call passes on is lower than the body it came in. -/
theorem height_of_dataOf {r : Incoming} {data : Option Json} (h : dataOf r = .ok data) :
    (data.map Json.height).getD 0 < bodyHeight r := by
  unfold dataOf at h
  cases hobject : objectOf r with
  | error response =>
      rw [hobject] at h
      exact absurd h nofun
  | ok body =>
      rw [hobject] at h
      rw [bodyHeight_of_bodyOf (bodyOf_of_objectOf hobject)]
      simp only [bind, Except.bind] at h
      split at h
      · obtain rfl := Except.ok.inj h
        exact body.height_pos
      · obtain rfl := Except.ok.inj h
        exact body.height_pos
      · rename_i value hfield
        obtain rfl := Except.ok.inj h
        exact Json.height_field? hfield

def endpointRequest (apiRoot endpoint : String) (data : Option Json) : Request :=
  { method := .post, path := Remote.endpointPath apiRoot endpoint, body := data }

def aboutToCall (apiRoot endpoint : String) (t : Terminal) : Terminal :=
  t.note .info s!"Calling backend endpoint: {Remote.endpointPath apiRoot endpoint}"

theorem startCall_eq (apiRoot endpoint : String) (data : Option Json) (t : Terminal) :
    Remote.startCall apiRoot endpoint data t =
      (aboutToCall apiRoot endpoint t).start (endpointRequest apiRoot endpoint data) := rfl

theorem of_startCall_home {apiRoot endpoint : String} {data : Option Json} {t u : Terminal} {errand : Errand}
    (h : Remote.startCall apiRoot endpoint data t = (.home errand, u)) :
    t.errandOf (endpointRequest apiRoot endpoint data) = .ok errand ∧
      errand.request = endpointRequest apiRoot endpoint data ∧
      t.backend t.reached errand.request = .home := by
  rw [startCall_eq] at h
  obtain ⟨herrand, hturn⟩ := of_start_home h
  have hrequest := request_of_errandOf herrand
  have hclient : (aboutToCall apiRoot endpoint t).client = t.client := rfl
  have hbackend : (aboutToCall apiRoot endpoint t).backend = t.backend := rfl
  have hreached : (aboutToCall apiRoot endpoint t).reached = t.reached := rfl
  rw [hbackend, hreached, ← hrequest] at hturn
  refine ⟨?_, hrequest, hturn⟩
  unfold errandOf at herrand ⊢
  rwa [hclient] at herrand

theorem ofErrand_of_startCall {apiRoot endpoint : String} {data : Option Json} {t u : Terminal} {errand : Errand}
    (h : Remote.startCall apiRoot endpoint data t = (.home errand, u)) :
    (Incoming.ofErrand errand).method = "POST" ∧
      bodyHeight (.ofErrand errand) ≤ (data.map Json.height).getD 0 := by
  obtain ⟨-, hrequest, -⟩ := of_startCall_home h
  refine ⟨by rw [Incoming.ofErrand, hrequest]; rfl, ?_⟩
  have hbody : errand.request.body = data := congrArg Request.body hrequest
  cases data with
  | none => simp [bodyHeight, Incoming.ofErrand, Incoming.ofAddress, hbody]
  | some value => cases value <;> simp [bodyHeight, Incoming.ofErrand, Incoming.ofAddress, hbody, Content.read]

/-! ## Answers with other services at home -/

namespace Service

/-- Of what is at home only lower requests are asked, which post. -/
theorem dispatch_congr {home home' : Incoming → Service → Response × Service} {r : Incoming}
    (h : ∀ r' s, r'.method = "POST" → bodyHeight r' < bodyHeight r → home r' s = home' r' s) (s : Service) :
    s.dispatch home r = s.dispatch home' r := by
  have hcall : ∀ endpoint, s.call home endpoint r = s.call home' endpoint r := by
    intro endpoint
    unfold call
    cases hdata : dataOf r with
    | error response => rfl
    | ok data =>
        cases s.workplace with
        | error failure => rfl
        | ok w =>
            dsimp only
            unfold callIn
            rcases hstart : Remote.startCall w.apiRoot endpoint data w.terminal with ⟨sending, t⟩
            cases sending with
            | settled outcome => rfl
            -- the errand carries what stood inside the body, and that is lower
            | home errand =>
                obtain ⟨hpost, hheight⟩ := ofErrand_of_startCall hstart
                dsimp only
                rw [h _ _ hpost (Nat.lt_of_le_of_lt hheight (height_of_dataOf hdata))]
  unfold dispatch
  cases Route.find? r.path with
  | none => cases Route.referred? r.path <;> rfl
  | some route =>
      dsimp only
      split
      · cases route with
        | call endpoint => exact hcall endpoint
        | _ => rfl
      · rfl

/-- More calls to itself than its body is high are never made. -/
theorem handleWithin_eq {n : Nat} {r : Incoming} (h : bodyHeight r ≤ n) (s : Service) :
    handleWithin n r s = handleWithin (bodyHeight r) r s := by
  induction n using Nat.strongRecOn generalizing r s with
  | ind n ih =>
      -- both bounds allow the calls that are made
      have hlower : ∀ k < n, bodyHeight r ≤ k + 1 →
          handleWithin (k + 1) r s = s.dispatch (fun r' s' => handleWithin (bodyHeight r') r' s') r := by
        intro k hk hle
        exact dispatch_congr (fun r' s' _ hr' => ih k hk (by omega) s') s
      cases n with
      | zero => rw [Nat.le_zero.mp h]
      | succ n =>
          rw [hlower n (Nat.lt_succ_self n) h]
          cases hheight : bodyHeight r with
          | zero => exact (dispatch_congr (fun r' s' _ hr' => absurd hr' (by omega)) s).symm
          | succ k => exact (hlower k (by omega) (by omega)).symm

theorem handle_eq (r : Incoming) (s : Service) : s.handle r =
    let (response, s) := s.dispatch handle r
    (if r.method == "HEAD" then response.headOnly else response, s) := by
  have hhome : handleWithin (bodyHeight r) r s = s.dispatch handle r := by
    rw [← handleWithin_eq (Nat.le_succ (bodyHeight r)) s, handleWithin]
    refine dispatch_congr (fun r' s' hpost hr' => ?_) s
    rw [handleWithin_eq (Nat.le_of_lt hr') s', handle, hpost]
    rfl
  rw [handle, hhome]

end Service

end Api

end LineShell
