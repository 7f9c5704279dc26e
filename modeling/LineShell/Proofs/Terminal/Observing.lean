import LineShell.Proofs.Terminal.Chronicle

/-!
# Observing

What those who watch the transcript get to see. The terminal keeps watchers by position, with flags; what they are
shown is what the chronicle of the registered says.
-/

namespace LineShell

namespace Watcher

def registration (w : Watcher) : Registration := ⟨w.observer, w.released, w.shown⟩

def undo (names : List String) (w : Watcher) : Watcher :=
  if w.released && names.contains w.observer.name then { w with active := false } else w

def counted (w : Watcher) : Watcher := { w with shown := w.shown + 1 }

def release (w : Watcher) : Watcher := { w with released := true }

def attended (w : Watcher) : Watcher := if w.active then w.counted else w

variable (names more : List String) (w : Watcher)

@[simp] theorem observer_undo : (w.undo names).observer = w.observer := by
  unfold undo
  split <;> rfl

@[simp] theorem shown_undo : (w.undo names).shown = w.shown := by
  unfold undo
  split <;> rfl

@[simp] theorem released_undo : (w.undo names).released = w.released := by
  unfold undo
  split <;> rfl

@[simp] theorem undo_nil : undo [] = id := by
  funext w
  simp [undo]

theorem undo_undo : (w.undo names).undo more = w.undo (names ++ more) := by
  cases hr : w.released <;> by_cases hn : w.observer.name ∈ names <;> by_cases hm : w.observer.name ∈ more <;>
    simp [undo, hr, hn, hm]

theorem registration_undo : (w.undo names).registration = w.registration := by simp [registration]

theorem active_undo : (w.undo names).active = (w.active && w.registration.stays names) := by
  cases hr : w.released <;> by_cases hn : w.observer.name ∈ names <;> simp [undo, Registration.stays, registration, hr, hn]

theorem observer_counted : w.counted.observer = w.observer := rfl

theorem counted_undo : (w.undo names).counted = w.counted.undo names := by
  cases hr : w.released <;> by_cases hn : w.observer.name ∈ names <;> simp [undo, counted, hr, hn]

end Watcher

namespace Terminal

/-! ## Undoing -/

def Distinct (t : Terminal) : Prop := ((t.watchers.map Watcher.observer).map Observer.name).Nodup

variable {t : Terminal}

theorem Distinct.eq_of_name (hd : t.Distinct) {i j : Nat} {w v : Watcher} (hi : t.watchers[i]? = some w)
    (hj : t.watchers[j]? = some v) (h : w.observer.name = v.observer.name) : i = j := by
  have hbound : i < ((t.watchers.map Watcher.observer).map Observer.name).length := by
    simpa using (List.getElem?_eq_some_iff.mp hi).1
  refine (List.getElem?_inj hbound hd).mp ?_
  simp only [List.getElem?_map, hi, hj, Option.map_some, h]

theorem of_subscriptionOf?_some {name : String} {i : Nat} (h : t.subscriptionOf? name = some i) :
    ∃ w, t.watchers[i]? = some w ∧ w.released = true ∧ w.observer.name = name := by
  have hmem := List.mem_filter.mp (List.mem_of_getLast? h)
  cases hw : t.watchers[i]? with
  | none => simp [hw] at hmem
  | some w => simpa [hw] using hmem.2

theorem of_subscriptionOf?_none {name : String} (h : t.subscriptionOf? name = none) {w : Watcher}
    (hw : w ∈ t.watchers) : ¬(w.released = true ∧ w.observer.name = name) := by
  obtain ⟨i, hi, rfl⟩ := List.getElem_of_mem hw
  have hnil := List.filter_eq_nil_iff.mp (List.getLast?_eq_none_iff.mp h) i (List.mem_range.mpr hi)
  simpa [List.getElem?_eq_getElem hi] using hnil

theorem undo_of_not {name : String} {w : Watcher} (h : ¬(w.released = true ∧ w.observer.name = name)) :
    w.undo [name] = w := by
  rw [Watcher.undo, if_neg (by simpa using h)]

theorem Distinct.unsubscribe (hd : t.Distinct) (name : String) :
    t.unsubscribe name = { t with watchers := t.watchers.map (Watcher.undo [name]) } := by
  unfold Terminal.unsubscribe
  cases h : t.subscriptionOf? name with
  | none =>
      have hstay : t.watchers.map (Watcher.undo [name]) = t.watchers.map id :=
        List.map_congr_left fun w hw => undo_of_not (of_subscriptionOf?_none h hw)
      rw [hstay, List.map_id]
  | some i =>
      obtain ⟨w, hw, hreleased, hname⟩ := of_subscriptionOf?_some h
      have hmodify : t.watchers.modify i (fun w => { w with active := false }) =
          t.watchers.map (Watcher.undo [name]) := by
        apply List.ext_getElem?
        intro j
        rw [List.getElem?_modify, List.getElem?_map]
        by_cases hij : i = j
        · subst hij
          simp [hw, Watcher.undo, hreleased, hname]
        · cases hv : t.watchers[j]? with
          | none => rfl
          | some v =>
              have hne : ¬(v.released = true ∧ v.observer.name = name) := by
                rintro ⟨-, hv'⟩
                exact hij (hd.eq_of_name hw hv (hname.trans hv'.symm))
              simp [hij, undo_of_not hne]
      exact congrArg (fun watchers => { t with watchers }) hmodify

theorem Distinct.of_observers {u : Terminal} (hd : t.Distinct)
    (h : u.watchers.map Watcher.observer = t.watchers.map Watcher.observer) : u.Distinct := by
  rw [Distinct, h]
  exact hd

theorem Distinct.undoAll (hd : t.Distinct) (names : List String) :
    names.foldl (fun t name => t.unsubscribe name) t = { t with watchers := t.watchers.map (Watcher.undo names) } := by
  induction names generalizing t with
  | nil => simp
  | cons name names ih =>
      have hd' : Distinct { t with watchers := t.watchers.map (Watcher.undo [name]) } := hd.of_observers (by simp)
      rw [List.foldl_cons, hd.unsubscribe, ih hd']
      simp [Function.comp_def, Watcher.undo_undo]

/-! ## Showing -/

def positionsFrom : Nat → List Watcher → List Nat
  | _, [] => []
  | n, w :: ws => if w.active then n :: positionsFrom (n + 1) ws else positionsFrom (n + 1) ws

theorem positionsFrom_succ (n : Nat) (ws : List Watcher) :
    positionsFrom (n + 1) ws = (positionsFrom n ws).map (· + 1) := by
  induction ws generalizing n with
  | nil => rfl
  | cons w ws ih => cases h : w.active <;> simp [positionsFrom, h, ih (n + 1)]

theorem filter_range_active (ws : List Watcher) :
    ((List.range ws.length).filter fun i => (ws[i]?.map Watcher.active).getD false) = positionsFrom 0 ws := by
  induction ws with
  | nil => rfl
  | cons w ws ih =>
      rw [List.length_cons, List.range_succ_eq_map, List.filter_cons, List.filter_map]
      have hlater : ((List.range ws.length).filter ((fun i => ((w :: ws)[i]?.map Watcher.active).getD false) ∘ Nat.succ)) =
          positionsFrom 0 ws := ih
      rw [hlater, positionsFrom, positionsFrom_succ]
      simp

theorem audience_eq (t : Terminal) : t.audience = positionsFrom 0 t.watchers := filter_range_active t.watchers

def registeredIn (ws : List Watcher) : List Registration := (ws.filter (·.active)).map (·.registration)

theorem registeredIn_cons_of_active {w : Watcher} (h : w.active = true) (ws : List Watcher) :
    registeredIn (w :: ws) = w.registration :: registeredIn ws := by
  simp [registeredIn, h]

theorem registeredIn_cons_of_inactive {w : Watcher} (h : w.active = false) (ws : List Watcher) :
    registeredIn (w :: ws) = registeredIn ws := by
  simp [registeredIn, h]

theorem registeredIn_undo (names : List String) (ws : List Watcher) :
    registeredIn (ws.map (Watcher.undo names)) = (registeredIn ws).filter (·.stays names) := by
  simp only [registeredIn, List.filter_map, List.map_map, List.filter_filter, Function.comp_def, Watcher.active_undo,
    Watcher.registration_undo, Bool.and_comm]

theorem registeredIn_attended (ws : List Watcher) :
    registeredIn (ws.map Watcher.attended) = (registeredIn ws).map Registration.counted := by
  induction ws with
  | nil => rfl
  | cons w ws ih =>
      cases hactive : w.active with
      | false =>
          have hattended : w.attended = w := by simp [Watcher.attended, hactive]
          rw [List.map_cons, hattended, registeredIn_cons_of_inactive hactive, registeredIn_cons_of_inactive hactive, ih]
      | true =>
          have hattended : w.attended = w.counted := by simp [Watcher.attended, hactive]
          rw [List.map_cons, hattended, registeredIn_cons_of_active (by exact hactive), registeredIn_cons_of_active hactive,
            List.map_cons, ih]
          rfl

theorem filterMap_complaint?_cons (lines : List String) (r : Registration) (rest : List Registration) :
    (r :: rest).filterMap (·.complaint? lines) =
      ((r.react lines).failure.map complaint).toList ++ rest.filterMap (·.complaint? lines) := by
  rw [List.filterMap_cons, Registration.complaint?]
  cases (r.react lines).failure <;> rfl

def undoneIn (lines : List String) (registered : List Registration) : List String :=
  registered.flatMap fun r => (r.react lines).undo

theorem modify_append_cons (done : List Watcher) (w : Watcher) (ws : List Watcher) (f : Watcher → Watcher) :
    (done ++ w :: ws).modify done.length f = done ++ f w :: ws := by
  induction done with
  | nil => rfl
  | cons d done ih => simpa using ih

theorem Distinct.showTo (hd : t.Distinct) (done : List Watcher) (w : Watcher) (ws : List Watcher)
    (ht : t.watchers = done ++ w :: ws) (lines : List String) :
    t.showTo (fun _ t => t) done.length lines = ((w.registration.react lines).alter lines,
      (w.registration.react lines).failure,
      { t with
        watchers := (done ++ w.counted :: ws).map (Watcher.undo (w.registration.react lines).undo)
        notices := t.notices ++ [w.registration.notice lines] }) := by
  have hw : t.watchers[done.length]? = some w := by simp [ht]
  have hcounted : t.watchers.modify done.length Watcher.counted =
      done ++ w.counted :: ws := by
    rw [ht, modify_append_cons]
  have hd' : Distinct { t with
      watchers := done ++ w.counted :: ws
      notices := t.notices ++ [w.registration.notice lines] } :=
    hd.of_observers (by simp [ht, Watcher.observer_counted])
  have hundo := hd'.undoAll (w.registration.react lines).undo
  unfold Terminal.showTo
  simp only [hw]
  rw [show t.watchers.modify done.length (fun w => { w with shown := w.shown + 1 }) = _ from hcounted]
  split <;> exact congrArg (fun u => (_, _, u)) hundo

/-- Showing a list to those of `ws` that were active when the showing began; meanwhile subscriptions of the names
`gone` were undone. -/
theorem Distinct.showAll (hd : t.Distinct) (done : List Watcher) {ws : List Watcher} (gone : List String)
    (ht : t.watchers = done ++ ws.map (Watcher.undo gone)) (hws : ∀ w ∈ ws, w.observer.Harmless) (lines : List String) :
    t.showAll (fun _ t => t) (positionsFrom done.length ws) lines = { t with
      watchers := (done ++ (ws.map Watcher.attended).map (Watcher.undo gone)).map
        (Watcher.undo (undoneIn lines (registeredIn ws)))
      notices := t.notices ++ (registeredIn ws).map (·.notice lines)
      journal := t.journal ++ (registeredIn ws).filterMap (·.complaint? lines) } := by
  -- `done` was shown the list already, `gone` names what was undone meanwhile
  induction ws generalizing done gone t with
  | nil =>
      obtain rfl : t.watchers = done := by simpa using ht
      simp [positionsFrom, Terminal.showAll, registeredIn, undoneIn]
  | cons w ws ih =>
      obtain ⟨hw, hws⟩ := List.forall_mem_cons.mp hws
      cases hactive : w.active with
      | false =>
          have ht' : t.watchers = (done ++ [w.undo gone]) ++ ws.map (Watcher.undo gone) := by simp [ht]
          have hpositions : positionsFrom done.length (w :: ws) = positionsFrom (done ++ [w.undo gone]).length ws := by
            simp [positionsFrom, hactive]
          rw [hpositions, ih hd _ _ ht' hws, registeredIn_cons_of_inactive hactive]
          simp [hactive, Watcher.attended]
      | true =>
          have hpositions : positionsFrom done.length (w :: ws) = done.length :: positionsFrom (done.length + 1) ws := by
            simp [positionsFrom, hactive]
          have hlines : (w.registration.react lines).alter lines = lines := hw w.shown lines
          have hshow := hd.showTo done _ _ ht lines
          rw [Watcher.registration_undo, Watcher.counted_undo, hlines] at hshow
          let names := (w.registration.react lines).undo
          let done' := (done ++ [w.counted.undo gone]).map (Watcher.undo names)
          have hlength : done.length + 1 = done'.length := by simp [done']
          rw [hpositions, showAll_cons, hshow, hlength, ih ?_ done' (gone ++ names) ?_ hws]
          · have hregistered := registeredIn_cons_of_active hactive ws
            have hwatchers : (done' ++ (ws.map Watcher.attended).map (Watcher.undo (gone ++ names))).map
                (Watcher.undo (undoneIn lines (registeredIn ws))) =
                  (done ++ ((w :: ws).map Watcher.attended).map (Watcher.undo gone)).map
                    (Watcher.undo (undoneIn lines (registeredIn (w :: ws)))) := by
              simp [hregistered, undoneIn, done', names, Watcher.undo_undo, Watcher.attended, hactive, Function.comp_def]
            simp only [noteAll, hwatchers, List.append_assoc]
            simp [hregistered, filterMap_complaint?_cons]
          · exact hd.of_observers (by simp [ht, Watcher.observer_counted, noteAll, Function.comp_def])
          · simp [done', names, Watcher.undo_undo, noteAll]

/-! ## What happens -/

def chronicle (t : Terminal) : Chronicle := ⟨t.session, registeredIn t.watchers, t.notices, t.journal⟩

@[simp] theorem notices_chronicle (t : Terminal) : t.chronicle.notices = t.notices := rfl

@[simp] theorem journal_chronicle (t : Terminal) : t.chronicle.journal = t.journal := rfl

def undergo (happening : Happening) (t : Terminal) : Terminal :=
  match happening with
  | .operation operation => t.perform operation
  | .subscribe observer => (t.subscribe observer).2
  | .unsubscribe name => t.unsubscribe name

def undergoAll (happenings : List Happening) (t : Terminal) : Terminal :=
  happenings.foldl (fun t happening => t.undergo happening) t

def observers (t : Terminal) : List Observer := t.watchers.map Watcher.observer

theorem chronicle_announce (h : Orderly t.observers) : (t.announce fun _ t => t).chronicle = t.chronicle.tell := by
  have hdistinct : t.Distinct := h.distinct
  have hharmless : ∀ w ∈ t.watchers, w.observer.Harmless := by simpa [observers] using h.harmless
  have hshow := hdistinct.showAll [] [] (by simp) hharmless t.session.transcript
  rw [Terminal.announce, audience_eq, show 0 = ([] : List Watcher).length from rfl, hshow, chronicle, List.nil_append,
    registeredIn_undo, Watcher.undo_nil, List.map_id, registeredIn_attended]
  rfl

theorem Quiet.perform_eq (hq : t.Quiet) (operation : Operation) :
    t.perform operation = if operation.isChange then
        (t.modifySession (·.perform operation)).announce fun _ t => t
      else t.modifySession (·.perform operation) := by
  have hq' : Quiet (t.modifySession (·.perform operation)) := hq
  cases operation with
  | append line =>
      change t.append line = Terminal.announce _ _
      rw [Terminal.append]
      cases t.pending with
      | zero => rfl
      | succ depth => exact hq'.showAll _ _ _
  | clear => exact hq'.showAll _ _ _
  | _ => rfl

theorem chronicle_perform (h : Orderly t.observers) (operation : Operation) :
    (t.perform operation).chronicle = t.chronicle.undergo (.operation operation) := by
  have hquiet : t.Quiet := (quiet_iff t).mpr h.quiet
  have h' : Orderly (t.modifySession (·.perform operation)).observers := h
  rw [hquiet.perform_eq, Chronicle.undergo]
  cases operation.isChange with
  | true => exact chronicle_announce h'
  | false => rfl

theorem chronicle_unsubscribe (h : Orderly t.observers) (name : String) :
    (t.unsubscribe name).chronicle = t.chronicle.undergo (.unsubscribe name) := by
  have hdistinct : t.Distinct := h.distinct
  rw [hdistinct.unsubscribe, chronicle, registeredIn_undo]
  rfl

def seat (observer : Observer) (t : Terminal) : Terminal := { t with watchers := t.watchers ++ [{ observer }] }

section

variable {observer : Observer} {u : Terminal} {lines : List String} {text : String}

theorem subscribe_of_some (h : (t.seat observer).showTo (appendWithin (t.seat observer).pending) t.watchers.length
    t.session.transcript = (lines, some text, u)) : t.subscribe observer = (some text, u) := by
  unfold seat at h
  simp only [Terminal.subscribe, h]

theorem subscribe_of_none (h : (t.seat observer).showTo (appendWithin (t.seat observer).pending) t.watchers.length
    t.session.transcript = (lines, none, u)) :
    t.subscribe observer = (none, { u with watchers := u.watchers.modify t.watchers.length .release }) := by
  unfold seat at h
  simp only [Terminal.subscribe, h]
  rfl

end

theorem chronicle_subscribe {observer : Observer} (h : Orderly (t.observers ++ [observer])) :
    (t.subscribe observer).2.chronicle = t.chronicle.undergo (.subscribe observer) := by
  let newcomer : Watcher := { observer }
  let reaction := observer.react 0 t.session.transcript
  have hobservers : (t.seat observer).observers = t.observers ++ [observer] := by simp [seat, observers]
  rw [← hobservers] at h
  have hquiet : (t.seat observer).Quiet := (quiet_iff _).mpr h.quiet
  have hdistinct : (t.seat observer).Distinct := h.distinct
  have hshow := hdistinct.showTo t.watchers newcomer [] rfl t.session.transcript
  rw [← hquiet.showTo (appendWithin (t.seat observer).pending)] at hshow
  -- the newcomer stands last, and what it undoes at once cannot be its own subscription
  have hregistered (undoable : Bool) : registeredIn (t.watchers.map (Watcher.undo reaction.undo) ++
      [{ newcomer.counted with released := undoable }]) =
        (registeredIn t.watchers).filter (·.stays reaction.undo) ++ [⟨observer, undoable, 1⟩] := by
    rw [registeredIn, List.filter_append, List.map_append, ← registeredIn, registeredIn_undo]
    rfl
  have hundo : (t.watchers ++ [newcomer.counted]).map (Watcher.undo reaction.undo) =
      t.watchers.map (Watcher.undo reaction.undo) ++ [newcomer.counted] := by
    rw [List.map_append]
    rfl
  change _ = (⟨t.session, (registeredIn t.watchers).filter (·.stays reaction.undo) ++
    [⟨observer, reaction.failure.isNone, 1⟩], t.notices ++ [newcomer.registration.notice t.session.transcript],
      t.journal⟩ : Chronicle)
  rw [← hregistered]
  cases hfailure : reaction.failure with
  | some text =>
      rw [show (newcomer.registration.react t.session.transcript).failure = some text from hfailure] at hshow
      rw [subscribe_of_some hshow, chronicle]
      exact congrArg (fun watchers => (⟨_, registeredIn watchers, _, _⟩ : Chronicle)) hundo
  | none =>
      have hrelease : ((t.watchers ++ [newcomer.counted]).map (Watcher.undo reaction.undo)).modify t.watchers.length
          .release = t.watchers.map (Watcher.undo reaction.undo) ++ [newcomer.counted.release] := by
        have hlength : t.watchers.length = (t.watchers.map (Watcher.undo reaction.undo)).length := by simp
        rw [hundo, hlength, modify_append_cons]
      rw [show (newcomer.registration.react t.session.transcript).failure = none from hfailure] at hshow
      rw [subscribe_of_none hshow, chronicle]
      exact congrArg (fun watchers => (⟨_, registeredIn watchers, _, _⟩ : Chronicle)) hrelease

/-! ## All that happens -/

theorem Quiet.subscribe {observer : Observer} (hq : (t.seat observer).Quiet) :
    Told id (t.seat observer) (t.subscribe observer).2 := by
  have hshow := Told.showTo (fun _ t => Told.refl id t) t.watchers.length t.session.transcript (t.seat observer)
  rw [← hq.showTo (appendWithin (t.seat observer).pending)] at hshow
  rcases h : (t.seat observer).showTo (appendWithin (t.seat observer).pending) t.watchers.length
    t.session.transcript with ⟨lines, failure, u⟩
  rw [h] at hshow
  cases failure with
  | some text =>
      rw [subscribe_of_some h]
      exact hshow
  | none =>
      rw [subscribe_of_none h]
      exact hshow.trans ⟨rfl, observers_modify (f := .release) (fun _ => rfl) _ _, rfl, rfl, rfl⟩

theorem Quiet.undergo {happening : Happening} (hq : ∀ o ∈ t.observers ++ happening.observer?.toList, o.isQuiet = true) :
    (t.undergo happening).session = t.session.performAll happening.operation?.toList ∧
      (t.undergo happening).observers = t.observers ++ happening.observer?.toList := by
  cases happening with
  | operation operation =>
      have hquiet : t.Quiet := (quiet_iff t).mpr (by simpa [observers, Happening.observer?] using hq)
      have htold := hquiet.perform operation
      exact ⟨htold.session, htold.observers.trans (List.append_nil _).symm⟩
  | subscribe observer =>
      have hobservers : (t.seat observer).observers = t.observers ++ [observer] := by simp [seat, observers]
      have hquiet : (t.seat observer).Quiet := (quiet_iff _).mpr fun o ho => hq o (hobservers ▸ ho)
      have htold := hquiet.subscribe
      exact ⟨htold.session, htold.observers.trans hobservers⟩
  | unsubscribe name =>
      have htold := Told.unsubscribe id name t
      exact ⟨htold.session, htold.observers.trans (List.append_nil _).symm⟩

theorem observersOf_cons (happening : Happening) (rest : List Happening) :
    observersOf (happening :: rest) = happening.observer?.toList ++ observersOf rest := by
  rw [observersOf, List.filterMap_cons]
  cases happening.observer? <;> rfl

theorem operationsOf_cons (happening : Happening) (rest : List Happening) :
    operationsOf (happening :: rest) = happening.operation?.toList ++ operationsOf rest := by
  rw [operationsOf, List.filterMap_cons]
  cases happening.operation? <;> rfl

variable {happenings : List Happening}

theorem Quiet.undergoAll (hq : ∀ o ∈ t.observers ++ observersOf happenings, o.isQuiet = true) :
    (t.undergoAll happenings).session = t.session.performAll (operationsOf happenings) ∧
      (t.undergoAll happenings).observers = t.observers ++ observersOf happenings := by
  induction happenings generalizing t with
  | nil => exact ⟨rfl, (List.append_nil _).symm⟩
  | cons happening rest ih =>
      rw [observersOf_cons, ← List.append_assoc] at hq
      obtain ⟨hsession, hobservers⟩ := Quiet.undergo fun o ho => hq o (List.mem_append_left _ ho)
      rw [← hobservers] at hq
      obtain ⟨hsession', hobservers'⟩ := ih hq
      constructor
      · calc ((t.undergo happening).undergoAll rest).session
          _ = (t.session.performAll happening.operation?.toList).performAll (operationsOf rest) := by
            rw [hsession', hsession]
          _ = t.session.performAll (operationsOf (happening :: rest)) := by
            rw [operationsOf_cons, Session.performAll, Session.performAll, Session.performAll, List.foldl_append]
      · calc ((t.undergo happening).undergoAll rest).observers
          _ = t.observers ++ happening.observer?.toList ++ observersOf rest := by rw [hobservers', hobservers]
          _ = t.observers ++ observersOf (happening :: rest) := by rw [observersOf_cons, List.append_assoc]

theorem chronicle_undergo {happening : Happening} (h : Orderly (t.observers ++ happening.observer?.toList)) :
    (t.undergo happening).chronicle = t.chronicle.undergo happening := by
  cases happening with
  | operation operation => exact chronicle_perform (h.sublist (List.sublist_append_left _ _)) operation
  | subscribe observer => exact chronicle_subscribe h
  | unsubscribe name => exact chronicle_unsubscribe (h.sublist (List.sublist_append_left _ _)) name

/-- Whatever happens, those who watch are shown what a plain list of the registered is shown. -/
theorem chronicle_undergoAll (h : Orderly (t.observers ++ observersOf happenings)) :
    (t.undergoAll happenings).chronicle = t.chronicle.undergoAll happenings := by
  induction happenings generalizing t with
  | nil => rfl
  | cons happening rest ih =>
      rw [observersOf_cons, ← List.append_assoc] at h
      have hfirst := h.sublist (List.sublist_append_left _ _)
      have hstep := chronicle_undergo hfirst
      rw [← (Quiet.undergo hfirst.quiet).2] at h
      calc ((t.undergo happening).undergoAll rest).chronicle
        _ = (t.undergo happening).chronicle.undergoAll rest := ih h
        _ = (t.chronicle.undergo happening).undergoAll rest := by rw [hstep]

/-! ## Deliveries -/

theorem observers_registered_sublist (t : Terminal) : (t.chronicle.registered.map (·.observer)).Sublist t.observers := by
  have h : t.chronicle.registered.map (·.observer) = (t.watchers.filter (·.active)).map Watcher.observer := by
    simp [chronicle, registeredIn, Function.comp_def, Watcher.registration]
  rw [h]
  exact List.filter_sublist.map Watcher.observer

/-- From a terminal that nobody watches, observers that add nothing to the transcript leave the session alone. If
they go by different names and leave the lists they are shown as they are, they are shown what is due to them, and no
failure at a change takes anything from anyone. -/
theorem undergoAll_observed (hfresh : t.watchers = []) (hquiet : ∀ o ∈ observersOf happenings, o.isQuiet = true) :
    (t.undergoAll happenings).session = (t.performAll (operationsOf happenings)).session ∧
    (((observersOf happenings).map Observer.name).Nodup → (∀ o ∈ observersOf happenings, o.Harmless) →
      (t.undergoAll happenings).chronicle = t.chronicle.undergoAll happenings ∧
      ((t.undergoAll happenings).chronicle.registered.map (·.observer)).Sublist (observersOf happenings) ∧
      (∀ before happening, before ++ [happening] <+: happenings → ∀ name,
        deliveriesTo name (t.undergoAll (before ++ [happening])).notices =
          deliveriesTo name (t.undergoAll before).notices ++ (t.undergoAll before).chronicle.due name happening) ∧
      ∀ raise, (t.undergoAll (happenings.map (·.raising raise))).notices = (t.undergoAll happenings).notices) := by
  have hnobody : t.observers = [] := by rw [observers, hfresh, List.map_nil]
  have hall : ∀ happenings, t.observers ++ observersOf happenings = observersOf happenings := fun _ => by
    rw [hnobody, List.nil_append]
  have hnone : t.Quiet := by simp [Quiet, hfresh]
  have hquietly : ∀ o ∈ t.observers ++ observersOf happenings, o.isQuiet = true := by rwa [hall]
  obtain ⟨hsession, hobservers⟩ := Quiet.undergoAll hquietly
  refine ⟨hsession.trans (hnone.session_performAll _).symm, fun hdistinct hharmless => ?_⟩
  have horderly : Orderly (observersOf happenings) := ⟨hdistinct, hquiet, hharmless⟩
  have hchronicle := chronicle_undergoAll (t := t) (by rwa [hall])
  refine ⟨hchronicle, ?_, ?_, ?_⟩
  · have hsublist := observers_registered_sublist (t.undergoAll happenings)
    rwa [hobservers, hall] at hsublist
  · intro before happening hfirst name
    have hbefore : (observersOf before).Sublist (observersOf happenings) :=
      ((List.prefix_append before [happening]).trans hfirst).sublist.filterMap _
    have hrun (done : List Happening) (h : (observersOf done).Sublist (observersOf happenings)) :
        (t.undergoAll done).chronicle = t.chronicle.undergoAll done :=
      chronicle_undergoAll (by rw [hall]; exact horderly.sublist h)
    have hstep : (t.undergoAll (before ++ [happening])).chronicle = (t.undergoAll before).chronicle.undergo happening := by
      rw [hrun _ (hfirst.sublist.filterMap _), hrun _ hbefore, Chronicle.undergoAll, List.foldl_append]
      rfl
    -- those who are registered are among those who subscribed, whose names differ
    have hnames : ((t.undergoAll before).chronicle.registered.map (·.observer.name)).Nodup := by
      have hsublist := observers_registered_sublist (t.undergoAll before)
      rw [(Quiet.undergoAll (by rw [hall]; exact (horderly.sublist hbefore).quiet)).2, hall] at hsublist
      simpa [Function.comp_def] using (horderly.sublist (hsublist.trans hbefore)).distinct
    have hdeliveries := Chronicle.deliveriesTo_undergo hnames name happening
    rwa [← hstep] at hdeliveries
  · intro raise
    have hraising : Orderly (t.observers ++ observersOf (happenings.map (·.raising raise))) := by
      rw [hall, observersOf_raising]
      exact horderly.raising raise
    have hsame : Chronicle.Raising raise t.chronicle t.chronicle := ⟨rfl, by simp [chronicle, hfresh, registeredIn], rfl⟩
    calc (t.undergoAll (happenings.map (·.raising raise))).chronicle.notices
      _ = (t.chronicle.undergoAll (happenings.map (·.raising raise))).notices := by rw [chronicle_undergoAll hraising]
      _ = (t.chronicle.undergoAll happenings).notices := (hsame.undergoAll happenings).notices
      _ = (t.undergoAll happenings).chronicle.notices := by rw [hchronicle]

def quarrelsome : Observer where
  name := "first"
  react n _ := if n = 1 then { undo := ["second"], failure := some "enough" } else {}

theorem undergoAll_observed_quarrelsome :
    let happenings := [.subscribe quarrelsome, .subscribe { name := "second" }, .operation (.append "a"),
      .unsubscribe "second", .operation .clear, .subscribe { name := "third" }, .operation (.append "b")]
    let t : Terminal := {}
    t.watchers = [] ∧ (∀ o ∈ observersOf happenings, o.isQuiet = true) ∧ Orderly (observersOf happenings) ∧
      (t.undergoAll happenings).session.transcript = ["b"] ∧
      (t.undergoAll happenings).notices = [.shown "first" [], .shown "second" [], .shown "first" ["a"],
        .shown "second" ["a"], .shown "first" [], .shown "third" [], .shown "first" ["b"], .shown "third" ["b"]] ∧
      (t.undergoAll happenings).journal = [⟨.error, "Transcript observer failed: enough"⟩] := by
  intro happenings t
  have hquiet : ∀ o ∈ observersOf happenings, o.isQuiet = true := by decide
  have hharmless : ∀ o ∈ observersOf happenings, o.Harmless := by
    have hfirst : quarrelsome.Harmless := by
      intro n lines
      simp only [quarrelsome]
      split <;> rfl
    have hlater (name : String) : Observer.Harmless { name } := fun _ _ => rfl
    simp [observersOf, happenings, Happening.observer?, hfirst, hlater]
  have hdistinct : ((observersOf happenings).map Observer.name).Nodup := by decide
  obtain ⟨hsession, hobserved⟩ := undergoAll_observed (t := t) rfl hquiet
  obtain ⟨hchronicle, -⟩ := hobserved hdistinct hharmless
  refine ⟨rfl, hquiet, ⟨hdistinct, hquiet, hharmless⟩, ?_, ?_, ?_⟩
  · rw [hsession]
    decide
  · rw [← notices_chronicle, hchronicle]
    decide
  · rw [← journal_chronicle, hchronicle]
    decide

end Terminal

end LineShell
