import LineShell.Proofs.Session.Operations

/-!
# Chronicles

A session with a plain list of those who are registered to watch it. All that happens to the session is told to
them, and each of them goes by its own name.
-/

namespace LineShell

/-! ## Who is registered -/

/-- An observer that is registered: whether its subscription can be undone, and how many showings it had. -/
structure Registration where
  observer : Observer
  undoable : Bool
  shown : Nat

def Observer.Harmless (o : Observer) : Prop := ∀ n lines, (o.react n lines).alter lines = lines

namespace Registration

def react (lines : List String) (r : Registration) : Reaction := r.observer.react r.shown lines

def notice (lines : List String) (r : Registration) : Notice := .shown r.observer.name lines

def complaint? (lines : List String) (r : Registration) : Option Entry := (r.react lines).failure.map complaint

def stays (undone : List String) (r : Registration) : Bool := !(r.undoable && undone.contains r.observer.name)

def counted (r : Registration) : Registration := { r with shown := r.shown + 1 }

end Registration

/-- A session with those who watch it, what they were shown and what was noted. -/
structure Chronicle where
  session : Session
  registered : List Registration
  notices : List Notice
  journal : List Entry

inductive Happening
  | operation (operation : Operation)
  | subscribe (observer : Observer)
  | unsubscribe (name : String)

def Operation.isChange : Operation → Bool
  | .append _ | .clear => true
  | _ => false

def Happening.observer? : Happening → Option Observer
  | .subscribe observer => some observer
  | _ => none

def Happening.operation? : Happening → Option Operation
  | .operation done => some done
  | _ => none

def observersOf (happenings : List Happening) : List Observer := happenings.filterMap Happening.observer?

def operationsOf (happenings : List Happening) : List Operation := happenings.filterMap Happening.operation?

/-- Observers that go by different names, add nothing to the transcript and leave the lists they are shown as they
are. -/
structure Orderly (observers : List Observer) : Prop where
  distinct : (observers.map Observer.name).Nodup
  quiet : ∀ o ∈ observers, o.isQuiet = true
  harmless : ∀ o ∈ observers, o.Harmless

theorem Orderly.sublist {observers more : List Observer} (h : Orderly more) (hsub : observers.Sublist more) :
    Orderly observers where
  distinct := h.distinct.sublist (hsub.map Observer.name)
  quiet o ho := h.quiet o (hsub.subset ho)
  harmless o ho := h.harmless o (hsub.subset ho)

namespace Chronicle

/-- All who are registered are shown the transcript, in turn; then those who were undone leave. -/
def tell (c : Chronicle) : Chronicle :=
  let lines := c.session.transcript
  let undone := c.registered.flatMap fun r => (r.react lines).undo
  { c with
    registered := (c.registered.map .counted).filter (·.stays undone)
    notices := c.notices ++ c.registered.map (·.notice lines)
    journal := c.journal ++ c.registered.filterMap (·.complaint? lines) }

/-- Who subscribes is shown the transcript at once. One that fails then stays, and cannot be undone. -/
def enrol (observer : Observer) (c : Chronicle) : Chronicle :=
  let reaction := observer.react 0 c.session.transcript
  { c with
    registered := c.registered.filter (·.stays reaction.undo) ++ [⟨observer, reaction.failure.isNone, 1⟩]
    notices := c.notices ++ [.shown observer.name c.session.transcript] }

def undergo (happening : Happening) (c : Chronicle) : Chronicle :=
  match happening with
  | .operation operation =>
    let c := { c with session := c.session.perform operation }
    if operation.isChange then c.tell else c
  | .subscribe observer => c.enrol observer
  | .unsubscribe name => { c with registered := c.registered.filter (·.stays [name]) }

def undergoAll (happenings : List Happening) (c : Chronicle) : Chronicle :=
  happenings.foldl (fun c happening => c.undergo happening) c

end Chronicle

def deliveriesTo (name : String) (notices : List Notice) : List (List String) :=
  notices.filterMap fun
    | .shown observer lines => if observer = name then some lines else none
    | .message .. => none

theorem deliveriesTo_append (name : String) (notices more : List Notice) :
    deliveriesTo name (notices ++ more) = deliveriesTo name notices ++ deliveriesTo name more :=
  List.filterMap_append

theorem deliveriesTo_notices {registered : List Registration} (h : (registered.map (·.observer.name)).Nodup)
    (name : String) (lines : List String) : deliveriesTo name (registered.map (·.notice lines)) =
      if name ∈ registered.map (·.observer.name) then [lines] else [] := by
  induction registered with
  | nil => rfl
  | cons r rest ih =>
      obtain ⟨hr, hrest⟩ := List.nodup_cons.mp h
      have hsplit : deliveriesTo name ((r :: rest).map (·.notice lines)) =
          (if r.observer.name = name then [lines] else []) ++ deliveriesTo name (rest.map (·.notice lines)) := by
        by_cases hname : r.observer.name = name <;> simp [deliveriesTo, Registration.notice, hname]
      rw [hsplit, ih hrest]
      by_cases hname : r.observer.name = name
      · subst hname
        simp [hr]
      · have hne : ¬name = r.observer.name := fun h => hname h.symm
        simp [hname, hne]

/-- What an observer is to be shown when something happens. -/
def Chronicle.due (name : String) (happening : Happening) (c : Chronicle) : List (List String) :=
  match happening with
  | .operation operation =>
    if operation.isChange = true ∧ name ∈ c.registered.map (·.observer.name) then
      [(c.session.perform operation).transcript]
    else []
  | .subscribe observer => if observer.name = name then [c.session.transcript] else []
  | .unsubscribe _ => []

theorem Chronicle.deliveriesTo_undergo {c : Chronicle} (h : (c.registered.map (·.observer.name)).Nodup) (name : String)
    (happening : Happening) :
    deliveriesTo name (c.undergo happening).notices = deliveriesTo name c.notices ++ c.due name happening := by
  cases happening with
  | operation operation =>
      cases hchange : operation.isChange with
      | false => simp [undergo, due, hchange]
      | true => simp [undergo, due, hchange, tell, deliveriesTo_append, deliveriesTo_notices h]
  | subscribe observer =>
      by_cases hname : observer.name = name <;> simp [undergo, due, enrol, deliveriesTo, hname]
  | unsubscribe name => simp [undergo, due]

/-! ## Raising -/

/-- An observer with other failures at changes; what it does at its first showing stays. -/
def Observer.raising (raise : String → Nat → List String → Option String) (o : Observer) : Observer :=
  { o with react := fun n lines =>
      { o.react n lines with failure := if n = 0 then (o.react n lines).failure else raise o.name n lines } }

def Happening.raising (raise : String → Nat → List String → Option String) : Happening → Happening
  | .subscribe observer => .subscribe (observer.raising raise)
  | happening => happening

def Registration.raising (raise : String → Nat → List String → Option String) (r : Registration) : Registration :=
  { r with observer := r.observer.raising raise }

theorem observersOf_raising (raise : String → Nat → List String → Option String) (happenings : List Happening) :
    observersOf (happenings.map (·.raising raise)) = (observersOf happenings).map (·.raising raise) := by
  rw [observersOf, observersOf, List.filterMap_map, List.map_filterMap]
  congr 1
  funext happening
  cases happening <;> rfl

theorem Orderly.raising {observers : List Observer} (h : Orderly observers)
    (raise : String → Nat → List String → Option String) : Orderly (observers.map (·.raising raise)) where
  distinct := by
    rw [List.map_map]
    exact h.distinct
  quiet := List.forall_mem_map.mpr h.quiet
  harmless := List.forall_mem_map.mpr h.harmless

structure Chronicle.Raising (raise : String → Nat → List String → Option String) (c d : Chronicle) : Prop where
  session : d.session = c.session
  registered : d.registered = c.registered.map (·.raising raise)
  notices : d.notices = c.notices

namespace Chronicle.Raising

variable {raise : String → Nat → List String → Option String} {c d : Chronicle}

theorem filter_stays (undone : List String) (registered : List Registration) :
    (registered.map (·.raising raise)).filter (·.stays undone) =
      (registered.filter (·.stays undone)).map (·.raising raise) := List.filter_map

theorem tell (h : Raising raise c d) : Raising raise c.tell d.tell := by
  have hundone : d.registered.flatMap (fun r => (r.react d.session.transcript).undo) =
      c.registered.flatMap fun r => (r.react c.session.transcript).undo := by
    rw [h.registered, h.session, List.flatMap_map]
    rfl
  have hcounted : d.registered.map Registration.counted =
      (c.registered.map Registration.counted).map (·.raising raise) := by
    rw [h.registered, List.map_map, List.map_map]
    rfl
  constructor
  · exact h.session
  · simp only [Chronicle.tell, hundone, hcounted, filter_stays]
  · simp only [Chronicle.tell, h.notices, h.registered, h.session, List.map_map]
    rfl

theorem undergo (h : Raising raise c d) (happening : Happening) :
    Raising raise (c.undergo happening) (d.undergo (happening.raising raise)) := by
  cases happening with
  | operation operation =>
      have h' : Raising raise { c with session := c.session.perform operation }
          { d with session := d.session.perform operation } :=
        ⟨congrArg (·.perform operation) h.session, h.registered, h.notices⟩
      simp only [Happening.raising, Chronicle.undergo]
      cases operation.isChange with
      | true => exact h'.tell
      | false => exact h'
  | subscribe observer =>
      constructor
      · exact h.session
      · simp only [Happening.raising, Chronicle.undergo, enrol, h.registered, h.session, filter_stays, List.map_append]
        rfl
      · simp only [Happening.raising, Chronicle.undergo, enrol, h.notices, h.session]
        rfl
  | unsubscribe name =>
      exact ⟨h.session, by simp only [Happening.raising, Chronicle.undergo, h.registered, filter_stays], h.notices⟩

theorem undergoAll (h : Raising raise c d) (happenings : List Happening) :
    Raising raise (c.undergoAll happenings) (d.undergoAll (happenings.map (·.raising raise))) := by
  induction happenings generalizing c d with
  | nil => exact h
  | cons happening rest ih => exact ih (h.undergo happening)

end Chronicle.Raising

end LineShell
