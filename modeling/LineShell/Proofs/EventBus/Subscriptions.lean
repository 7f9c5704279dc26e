import LineShell.Proofs.EventBus.Publication
import Mathlib.Data.List.Induction
import Mathlib.Data.List.Perm.Basic

/-!
# Subscriptions

To whom messages go after any calls. An undo does not know its own registration: it removes the oldest one of its
handler for its topic. So messages go to the live subscriptions in their order exactly as long as that makes no
difference, and an undo that is called again may end a subscription that somebody else made for the same handler.
-/

namespace LineShell.EventBus

/-! ## Calls -/

inductive BusCall (η π : Type)
  | subscribe (label topic : String) (handler : η)
  | undo (label : String)
  | publish (topic : String) (payload : π)

variable {η π : Type} [DecidableEq η]

section

variable (outcome : η → π → Traffic η π → Option String)

def Traffic.take (t : Traffic η π) : BusCall η π → Traffic η π
  | .subscribe label topic handler => t.after [.subscribe label topic handler] [] []
  | .undo label => t.after [.undo label] [] []
  | .publish topic payload =>
    (publishAmong (fun handler payload t => .still (outcome handler payload t)) 1 topic payload t).getD t

def takeAll (calls : List (BusCall η π)) : Traffic η π := calls.foldl (Traffic.take outcome) { bus := {} }

def deliveriesAfter (calls : List (BusCall η π)) (topic : String) (payload : π) : List (η × π) :=
  let t := takeAll outcome calls
  (t.take outcome (.publish topic payload)).delivered.drop t.delivered.length

theorem takeAll_concat (calls : List (BusCall η π)) (call : BusCall η π) :
    takeAll outcome (calls ++ [call]) = (takeAll outcome calls).take outcome call := by
  simp [takeAll]

theorem take_publish (t : Traffic η π) (topic : String) (payload : π) : ∃ entries,
    t.take outcome (.publish topic payload) = t.after [] ((t.bus.handlersOf topic).map (·, payload)) entries := by
  obtain ⟨entries, h⟩ := publishAmong_still outcome topic payload 0 t
  exact ⟨entries, by rw [Traffic.take, h, Option.getD_some]⟩

theorem deliveriesAfter_eq (calls : List (BusCall η π)) (topic : String) (payload : π) :
    deliveriesAfter outcome calls topic payload = ((takeAll outcome calls).bus.handlersOf topic).map (·, payload) := by
  obtain ⟨entries, h⟩ := take_publish outcome (takeAll outcome calls) topic payload
  rw [deliveriesAfter, h]
  exact List.drop_left

end

/-! ## Subscriptions and their ends -/

structure Subscription (η : Type) where
  label : String
  topic : String
  handler : η
  ended : Bool := false
deriving DecidableEq

def live (topic : String) (subs : List (Subscription η)) : List η :=
  (subs.filter fun s => s.topic == topic && !s.ended).map (·.handler)

def endLatest (label : String) : List (Subscription η) → List (Subscription η)
  | [] => []
  | s :: rest =>
    if s.label == label && !rest.any (·.label == label) then { s with ended := true } :: rest
    else s :: endLatest label rest

/-- The subscriptions that calls have made, the oldest first, and which of them have ended. -/
def subscriptions (calls : List (BusCall η π)) : List (Subscription η) :=
  calls.foldl (fun subs => fun
    | .subscribe label topic handler => subs ++ [{ label, topic, handler }]
    | .undo label => endLatest label subs
    | .publish _ _ => subs) []

/-- The subscription that a label stands for, and those around it. -/
structure IsLatest (label : String) (subs before : List (Subscription η)) (s : Subscription η)
    (after : List (Subscription η)) : Prop where
  split : subs = before ++ s :: after
  own : s.label = label
  later : ∀ r ∈ after, r.label ≠ label

/-- It makes no difference that an undo removes the oldest registration of its handler: if its subscription has ended,
there is none, and else nothing but the same handler stands between that registration and its own. -/
def Rightful (label : String) (subs : List (Subscription η)) : Prop :=
  ∀ before s after, IsLatest label subs before s after →
    if s.ended then s.handler ∉ live s.topic subs
    else ∀ handler ∈ (live s.topic before).dropWhile (· != s.handler), handler = s.handler

omit [DecidableEq η] in
theorem exists_isLatest (label : String) (subs : List (Subscription η)) :
    (∀ s ∈ subs, s.label ≠ label) ∨ ∃ before s after, IsLatest label subs before s after := by
  induction subs with
  | nil => exact .inl fun s hs => absurd hs List.not_mem_nil
  | cons s rest ih =>
      obtain hnone | ⟨before, r, after, hlatest⟩ := ih
      · by_cases hlabel : s.label = label
        · exact .inr ⟨[], s, rest, rfl, hlabel, hnone⟩
        · exact .inl (List.forall_mem_cons.mpr ⟨hlabel, hnone⟩)
      · exact .inr ⟨s :: before, r, after, by rw [hlatest.split, List.cons_append], hlatest.own, hlatest.later⟩

section

variable {label : String} {subs before after : List (Subscription η)} {s : Subscription η}

omit [DecidableEq η] in
theorem endLatest_of_none (h : ∀ s ∈ subs, s.label ≠ label) : endLatest label subs = subs := by
  induction subs with
  | nil => rfl
  | cons s rest ih =>
      obtain ⟨hs, hrest⟩ := List.forall_mem_cons.mp h
      rw [endLatest, ih hrest, if_neg (by simp [hs])]

omit [DecidableEq η] in
theorem IsLatest.endLatest (h : IsLatest label subs before s after) :
    endLatest label subs = before ++ { s with ended := true } :: after := by
  obtain ⟨rfl, hown, hlater⟩ := h
  induction before with
  | nil => rw [List.nil_append, EventBus.endLatest, if_pos (by simpa [hown] using hlater), List.nil_append]
  | cons r before ih =>
      rw [List.cons_append, EventBus.endLatest, ih, if_neg (by simp [hown]), List.cons_append]

end

/-! ## Live handlers -/

section

variable (topic : String)

omit [DecidableEq η]

theorem live_append (subs subs' : List (Subscription η)) :
    live topic (subs ++ subs') = live topic subs ++ live topic subs' := by
  simp [live]

theorem live_singleton (s : Subscription η) :
    live topic [s] = if s.topic = topic ∧ s.ended = false then [s.handler] else [] := by
  by_cases h : s.topic = topic ∧ s.ended = false
  · simp [live, h]
  · rw [if_neg h]
    simpa [live] using h

theorem live_cons (s : Subscription η) (subs : List (Subscription η)) :
    live topic (s :: subs) = live topic [s] ++ live topic subs := live_append topic [s] subs

end

/-! ## Registrations -/

section

variable (topic : String) (bus : EventBus η)

omit [DecidableEq η] in
theorem handlersOf_subscribe (label other : String) (handler : η) :
    (bus.subscribe label other handler).handlersOf topic =
      bus.handlersOf topic ++ if other = topic then [handler] else [] := by
  by_cases h : other = topic <;> simp [handlersOf, subscribe, h]

theorem handlersOf_undo_of_none {label : String} (h : bus.labels.lookup label = none) :
    (bus.undo label).handlersOf topic = bus.handlersOf topic := by
  rw [undo, h]

theorem handlersOf_undo_of_some {label other : String} {handler : η}
    (h : bus.labels.lookup label = some (other, handler)) : (bus.undo label).handlersOf topic =
      if other = topic then (bus.handlersOf topic).erase handler else bus.handlersOf topic := by
  simp only [undo, h, handlersOf]
  generalize bus.registrations = registrations
  induction registrations with
  | nil => simp
  | cons r rest ih =>
      obtain ⟨own, first⟩ := r
      by_cases hfirst : own = other ∧ first = handler
      · obtain ⟨rfl, rfl⟩ := hfirst
        by_cases htopic : own = topic <;> simp [htopic]
      · rw [List.erase_cons_tail (by simpa using hfirst)]
        by_cases htopic : own = topic
        · by_cases hother : other = topic
          · have hne : first ≠ handler := fun h => hfirst ⟨htopic.trans hother.symm, h⟩
            simp_all [List.erase_cons_tail]
          · simp_all
        · simp_all

end

/-! ## Runs -/

theorem erase_append_cons_iff (handler : η) (before after : List η) :
    (before ++ handler :: after).erase handler = before ++ after ↔
      ∀ h ∈ before.dropWhile (· != handler), h = handler := by
  induction before with
  | nil => simp
  | cons first rest ih =>
      by_cases hfirst : first = handler
      · subst hfirst
        -- the first one is removed, so those up to the own one have to be equal to it
        have hall : rest ++ first :: after = first :: (rest ++ after) ↔ ∀ h ∈ rest, h = first := by
          clear ih
          induction rest with
          | nil => simp
          | cons second rest ih => by_cases hsecond : second = first <;> simp_all
        simpa using hall
      · rw [List.cons_append, List.erase_cons_tail (by simpa using hfirst), List.cons_append, List.cons.injEq]
        simpa [hfirst] using ih

/-- Removing the oldest live registration of a handler removes that of its own subscription exactly if the undo of the
label is rightful. -/
theorem IsLatest.erase_live_iff {label : String} {subs before after : List (Subscription η)} {s : Subscription η}
    (h : IsLatest label subs before s after) :
    (live s.topic subs).erase s.handler = live s.topic before ++ live s.topic after ↔
      if s.ended then s.handler ∉ live s.topic subs
      else ∀ handler ∈ (live s.topic before).dropWhile (· != s.handler), handler = s.handler := by
  have hlive : live s.topic subs =
      live s.topic before ++ ((if s.ended = false then [s.handler] else []) ++ live s.topic after) := by
    rw [h.split, live_append, live_cons, live_singleton]
    simp
  cases hended : s.ended with
  | true =>
      rw [if_neg (by simp [hended]), List.nil_append] at hlive
      rw [if_pos rfl, ← hlive, List.erase_eq_self_iff]
  | false =>
      rw [if_pos hended, List.singleton_append] at hlive
      rw [if_neg (by simp), hlive]
      exact erase_append_cons_iff s.handler _ _

section

variable (outcome : η → π → Traffic η π → Option String) (done : List (BusCall η π)) (topic : String)

def busAfter : EventBus η := (takeAll outcome done).bus

theorem busAfter_subscribe (label other : String) (handler : η) :
    busAfter outcome (done ++ [.subscribe label other handler]) =
      (busAfter outcome done).subscribe label other handler := by
  rw [busAfter, takeAll_concat]
  rfl

theorem busAfter_undo (label : String) :
    busAfter outcome (done ++ [.undo label]) = (busAfter outcome done).undo label := by
  rw [busAfter, takeAll_concat]
  rfl

theorem busAfter_publish (other : String) (payload : π) :
    busAfter outcome (done ++ [.publish other payload]) = busAfter outcome done := by
  obtain ⟨entries, h⟩ := take_publish outcome (takeAll outcome done) other payload
  rw [busAfter, takeAll_concat, h]
  rfl

omit [DecidableEq η] in
theorem subscriptions_concat (call : BusCall η π) : subscriptions (done ++ [call]) = match call with
    | .subscribe label topic handler => subscriptions done ++ [{ label, topic, handler }]
    | .undo label => endLatest label (subscriptions done)
    | .publish _ _ => subscriptions done := by
  rw [subscriptions, List.foldl_append]
  rfl

omit [DecidableEq η] in
theorem map_endLatest (label : String) (subs : List (Subscription η)) :
    (endLatest label subs).map (fun s => (s.label, s.topic, s.handler)) =
      subs.map fun s => (s.label, s.topic, s.handler) := by
  induction subs with
  | nil => rfl
  | cons s rest ih =>
      rw [endLatest]
      split
      · rfl
      · rw [List.map_cons, ih, List.map_cons]

theorem labels_busAfter : (busAfter outcome done).labels =
    ((subscriptions done).map fun s => (s.label, s.topic, s.handler)).reverse := by
  induction done using List.reverseRecOn with
  | nil => rfl
  | append_singleton done call ih =>
      cases call with
      | subscribe label other handler =>
          rw [busAfter_subscribe, subscriptions_concat, subscribe, ih]
          simp
      | undo label =>
          have hkept : ((busAfter outcome done).undo label).labels = (busAfter outcome done).labels := by
            rw [undo]
            split <;> rfl
          rw [busAfter_undo, hkept, ih, subscriptions_concat, map_endLatest]
      | publish other payload => rw [busAfter_publish, ih, subscriptions_concat]

theorem lookup_busAfter_of_none {label : String} (h : ∀ s ∈ subscriptions done, s.label ≠ label) :
    (busAfter outcome done).labels.lookup label = none := by
  rw [labels_busAfter, List.lookup_eq_none_iff]
  intro p hp
  obtain ⟨s, hs, rfl⟩ := List.mem_map.mp (List.mem_reverse.mp hp)
  exact bne_iff_ne.mpr (h s hs).symm

theorem IsLatest.lookup_busAfter {label : String} {before after : List (Subscription η)} {s : Subscription η}
    (h : IsLatest label (subscriptions done) before s after) :
    (busAfter outcome done).labels.lookup label = some (s.topic, s.handler) := by
  have hafter : (after.map fun s => (s.label, s.topic, s.handler)).reverse.lookup label = none := by
    rw [List.lookup_eq_none_iff]
    intro p hp
    obtain ⟨r, hr, rfl⟩ := List.mem_map.mp (List.mem_reverse.mp hp)
    exact bne_iff_ne.mpr (h.later r hr).symm
  rw [labels_busAfter, h.split, List.map_append, List.map_cons, List.reverse_append, List.reverse_cons,
    List.append_assoc, List.lookup_append, hafter, Option.none_or, List.singleton_append, h.own, List.lookup_cons_self]

/-! ## One more call -/

theorem handlersOf_busAfter_subscribe (label other : String) (handler : η) :
    (busAfter outcome (done ++ [.subscribe label other handler])).handlersOf topic =
      (busAfter outcome done).handlersOf topic ++ if other = topic then [handler] else [] := by
  rw [busAfter_subscribe, handlersOf_subscribe]

omit [DecidableEq η] in
theorem live_subscribe (label other : String) (handler : η) :
    live topic (subscriptions (done ++ [.subscribe label other handler] : List (BusCall η π))) =
      live topic (subscriptions done) ++ if other = topic then [handler] else [] := by
  rw [subscriptions_concat, live_append, live_singleton]
  simp

variable {done} in
theorem IsLatest.undo {label : String} {before after : List (Subscription η)} {s : Subscription η}
    (h : IsLatest label (subscriptions done) before s after) :
    ((busAfter outcome (done ++ [.undo label])).handlersOf topic =
      if s.topic = topic then ((busAfter outcome done).handlersOf topic).erase s.handler
      else (busAfter outcome done).handlersOf topic) ∧
    live topic (subscriptions (done ++ [.undo label] : List (BusCall η π))) = live topic before ++ live topic after ∧
    live topic (subscriptions done) =
      live topic before ++ ((if s.topic = topic ∧ s.ended = false then [s.handler] else []) ++ live topic after) := by
  refine ⟨?_, ?_, ?_⟩
  · rw [busAfter_undo, handlersOf_undo_of_some topic _ (h.lookup_busAfter outcome)]
  · rw [subscriptions_concat]
    dsimp only
    rw [h.endLatest, live_append, live_cons, live_singleton, if_neg (by simp), List.nil_append]
  · rw [h.split, live_append, live_cons, live_singleton]

theorem undo_of_none {label : String} (h : ∀ s ∈ subscriptions done, s.label ≠ label) :
    (busAfter outcome (done ++ [.undo label])).handlersOf topic = (busAfter outcome done).handlersOf topic ∧
    live topic (subscriptions (done ++ [.undo label] : List (BusCall η π))) = live topic (subscriptions done) := by
  rw [busAfter_undo, handlersOf_undo_of_none topic _ (lookup_busAfter_of_none outcome done h), subscriptions_concat]
  exact ⟨rfl, congrArg (live topic) (endLatest_of_none h)⟩

end

section

variable (outcome : η → π → Traffic η π → Option String)

/-- The registrations are the live subscriptions. -/
def Lawful (done : List (BusCall η π)) : Prop :=
  ∀ topic, (busAfter outcome done).handlersOf topic = live topic (subscriptions done)

variable {outcome} {done : List (BusCall η π)}

/-- Where the registrations are the live subscriptions, they still are so after an undo exactly if that is rightful. -/
theorem Lawful.undo_iff (h : Lawful outcome done) (label : String) :
    Lawful outcome (done ++ [.undo label]) ↔ Rightful label (subscriptions done) := by
  constructor
  · intro hundone before s after hlatest
    obtain ⟨hhandlers, hlive, -⟩ := hlatest.undo outcome s.topic
    have hstill := hundone s.topic
    rw [hhandlers, if_pos rfl, h s.topic, hlive] at hstill
    exact hlatest.erase_live_iff.mp hstill
  · intro hrightful topic
    obtain hnone | ⟨before, s, after, hlatest⟩ := exists_isLatest label (subscriptions done)
    · obtain ⟨hhandlers, hlive⟩ := undo_of_none outcome done topic hnone
      rw [hhandlers, hlive, h topic]
    · obtain ⟨hhandlers, hlive, hbefore⟩ := hlatest.undo outcome topic
      rw [hhandlers, hlive, h topic]
      by_cases htopic : s.topic = topic
      · subst htopic
        rw [if_pos rfl]
        exact hlatest.erase_live_iff.mpr (hrightful before s after hlatest)
      · rw [if_neg htopic, hbefore, if_neg (fun hown => htopic hown.1), List.nil_append]

/-- Where the registrations are the live subscriptions but for their order, they are after an undo that is not called
again. -/
theorem perm_undo {label topic : String}
    (h : ((busAfter outcome done).handlersOf topic).Perm (live topic (subscriptions done)))
    (hfirst : ∀ before s after, IsLatest label (subscriptions done) before s after → s.ended = false) :
    ((busAfter outcome (done ++ [.undo label])).handlersOf topic).Perm
      (live topic (subscriptions (done ++ [.undo label]))) := by
  obtain hnone | ⟨before, s, after, hlatest⟩ := exists_isLatest label (subscriptions done)
  · obtain ⟨hhandlers, hlive⟩ := undo_of_none outcome done topic hnone
    rwa [hhandlers, hlive]
  · obtain ⟨hhandlers, hlive, hbefore⟩ := hlatest.undo outcome topic
    rw [hbefore, hfirst before s after hlatest] at h
    rw [hhandlers, hlive]
    by_cases htopic : s.topic = topic
    · rw [if_pos ⟨htopic, rfl⟩, List.singleton_append] at h
      rw [if_pos htopic]
      have herase := (h.trans List.perm_middle).erase s.handler
      rwa [List.erase_cons_head] at herase
    · rw [if_neg (fun hown => htopic hown.1), List.nil_append] at h
      rwa [if_neg htopic]

end

/-! ## Whom messages reach -/

section

variable (outcome : η → π → Traffic η π → Option String)

theorem lawful_iff (calls : List (BusCall η π)) :
    (∀ done, done <+: calls → Lawful outcome done) ↔
      ∀ done label, done ++ [.undo label] <+: calls → Rightful label (subscriptions done) := by
  refine ⟨fun hlawful done label hfront => ?_, fun hrightful done => ?_⟩
  · have hdone := hlawful done ((List.prefix_append done _).trans hfront)
    exact (hdone.undo_iff label).mp (hlawful _ hfront)
  · induction done using List.reverseRecOn with
    | nil => exact fun _ _ => rfl
    | append_singleton done call ih =>
        intro hfront
        have hdone := ih ((List.prefix_append done [call]).trans hfront)
        cases call with
        | subscribe label other handler =>
            intro topic
            rw [handlersOf_busAfter_subscribe, live_subscribe, hdone topic]
        | undo label => exact (hdone.undo_iff label).mpr (hrightful done label hfront)
        | publish other payload =>
            intro topic
            rw [busAfter_publish, subscriptions_concat]
            exact hdone topic

theorem perm_live {calls : List (BusCall η π)}
    (hfirst : ∀ done label, done ++ [.undo label] <+: calls → ∀ before s after,
      IsLatest label (subscriptions done) before s after → s.ended = false)
    (topic : String) {done : List (BusCall η π)} (hfront : done <+: calls) :
    ((busAfter outcome done).handlersOf topic).Perm (live topic (subscriptions done)) := by
  induction done using List.reverseRecOn with
  | nil => exact .refl _
  | append_singleton done call ih =>
      have hdone := ih ((List.prefix_append done [call]).trans hfront)
      cases call with
      | subscribe label other handler =>
          rw [handlersOf_busAfter_subscribe, live_subscribe]
          exact hdone.append_right _
      | undo label => exact perm_undo hdone (hfirst done label hfront)
      | publish other payload =>
          rw [busAfter_publish, subscriptions_concat]
          exact hdone

/-- Whenever a message is published it goes once to each live subscription of its topic, in the order in which they
were made, exactly if every undo so far was rightful. Where no undo is called again, it still goes to each handler as
often as that has live subscriptions, but not always in their order. -/
theorem deliveriesAfter_live_iff (calls : List (BusCall η π)) (payload : π) :
    ((∀ done, done <+: calls → ∀ topic, deliveriesAfter outcome done topic payload =
        (live topic (subscriptions done)).map (·, payload)) ↔
      ∀ done label, done ++ [.undo label] <+: calls → Rightful label (subscriptions done)) ∧
    ((∀ done label, done ++ [.undo label] <+: calls → ∀ before s after,
        IsLatest label (subscriptions done) before s after → s.ended = false) →
      ∀ done, done <+: calls → ∀ topic, (deliveriesAfter outcome done topic payload).Perm
        ((live topic (subscriptions done)).map (·, payload))) := by
  have hpayload : Function.Injective fun handler : η => (handler, payload) := fun _ _ h => congrArg Prod.fst h
  constructor
  · rw [← lawful_iff outcome calls]
    refine forall_congr' fun done => forall_congr' fun _ => forall_congr' fun topic => ?_
    rw [deliveriesAfter_eq, hpayload.list_map.eq_iff]
    rfl
  · intro hfirst done hfront topic
    rw [deliveriesAfter_eq]
    exact (perm_live outcome hfirst topic hfront).map _

end

/-- One undo, called once, of the later of two subscriptions of a handler, which stand around another one. -/
theorem deliveriesAfter_live_around :
    let calls : List (BusCall String Nat) :=
      [.subscribe "1" "t" "a", .subscribe "2" "t" "b", .subscribe "3" "t" "a", .undo "3"]
    (∀ done label, done ++ [.undo label] <+: calls → ∀ before s after,
      IsLatest label (subscriptions done) before s after → s.ended = false) ∧
    (deliveriesAfter (fun _ _ _ => none) calls "t" 7).Perm [("a", 7), ("b", 7)] := by
  intro calls
  have hfirst : ∀ done label, done ++ [.undo label] <+: calls → ∀ before s after,
      IsLatest label (subscriptions done) before s after → s.ended = false := by
    intro done label hfront before s after hlatest
    have hfront : done ++ [.undo label] <+: calls.dropLast ++ [.undo "3"] := hfront
    obtain heq | hearlier := List.prefix_concat_iff.mp hfront
    · obtain ⟨rfl, -⟩ := List.append_inj' heq rfl
      have hall : ∀ s ∈ subscriptions calls.dropLast, s.ended = false := by decide
      exact hall s (by simp [hlatest.split])
    · have hmem : BusCall.undo label ∈ calls.dropLast := hearlier.subset (by simp)
      simp [calls] at hmem
  exact ⟨hfirst, (deliveriesAfter_live_iff (fun _ _ _ => none) calls 7).2 hfirst calls List.prefix_rfl "t"⟩

/-- An undo that is called again takes away the registration of a subscription that has not ended, and an undo of the
later of two subscriptions of one handler that of the earlier. -/
theorem deliveriesAfter_undo_again :
    let again : List (BusCall String Nat) := [.subscribe "1" "t" "a", .subscribe "2" "t" "a", .undo "1", .undo "1"]
    let later : List (BusCall String Nat) :=
      [.subscribe "1" "t" "a", .subscribe "2" "t" "b", .subscribe "3" "t" "a", .undo "3"]
    live "t" (subscriptions again) = ["a"] ∧ deliveriesAfter (fun _ _ _ => none) again "t" 7 = [] ∧
    live "t" (subscriptions later) = ["a", "b"] ∧
      deliveriesAfter (fun _ _ _ => none) later "t" 7 = [("b", 7), ("a", 7)] := by
  decide +kernel

end LineShell.EventBus
