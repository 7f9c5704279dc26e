import LineShell.Catalog
import LineShell.Proofs.Agreement
import LineShell.Proofs.Concurrent.Work
import LineShell.Proofs.Session.Histories

/-!
# Calls at one terminal

Many calls may be under way at one terminal, of which one at a time holds it, from its echo to the end of its line.
However their parts fall, they come to what the lines come to one after the other, in the order in which the calls
were given the terminal.
-/

namespace LineShell

open Text

/-! ## Calls -/

/-- Where a call stands: not begun, waiting for the terminal, at work there, or over. -/
inductive Phase
  | fresh
  | queued
  | working (rest : Work String)
  | finished (output : String)

namespace Phase

def output? : Phase → Option String
  | finished output => some output
  | _ => none

def ofStanding : Standing String → Phase
  | .ended output => finished output
  | .paused rest => working rest

def holder? (i : Nat) : Phase → Option Nat
  | working _ => some i
  | _ => none

end Phase

/-- Calls at one terminal, by number. The call that holds the terminal is known, the order in which it was given
away, and every turn that was taken there. -/
structure Crowd where
  terminal : Terminal
  phase : Nat → Phase := fun _ => .fresh
  holder : Option Nat := none
  order : List Nat := []
  turns : List Nat := []

namespace Crowd

def put (i : Nat) (phase : Phase) (c : Crowd) : Crowd := { c with phase := Function.update c.phase i phase }

/-- A call works at the terminal until it waits or is over; then it gives the terminal back. -/
def turn (i : Nat) (work : Work String) (c : Crowd) : Crowd :=
  let next := work.resume c.terminal
  let phase := Phase.ofStanding next.1
  { c.put i phase with terminal := next.2, holder := phase.holder? i, turns := c.turns ++ [i] }

variable {r : Registry} (s : r.Splitting) (inputs : List String)

/-- One step of a call. A blank line is over at once; any other waits until nobody holds the terminal. -/
def step (i : Nat) (c : Crowd) : Crowd :=
  match inputs[i]? with
  | none => c
  | some typed =>
    match c.phase i with
    | .fresh => c.put i (if strip typed = "" then .finished "" else .queued)
    | .queued => if c.holder.isSome then c else { c with order := c.order ++ [i] }.turn i (s.execute typed)
    | .working rest => c.turn i rest
    | .finished _ => c

def steps (schedule : List Nat) (c : Crowd) : Crowd := schedule.foldl (fun c i => c.step s inputs i) c

end Crowd

/-! ## One after the other -/

namespace Registry

theorem getD_of_getElem? {inputs : List String} {i : Nat} {typed : String} (hi : inputs[i]? = some typed) :
    inputs.getD i "" = typed := by
  rw [List.getD_eq_getElem?_getD, hi, Option.getD_some]

def executeCalls (r : Registry) (inputs : List String) (calls : List Nat) (t : Terminal) : List String × Terminal :=
  r.executeAll (calls.map fun i => inputs.getD i "") t

theorem executeCalls_concat (r : Registry) {inputs : List String} {i : Nat} {typed : String}
    (hi : inputs[i]? = some typed) (calls : List Nat) (t : Terminal) :
    r.executeCalls inputs (calls ++ [i]) t =
      ((r.executeCalls inputs calls t).1 ++ [(r.execute typed (r.executeCalls inputs calls t).2).1],
        (r.execute typed (r.executeCalls inputs calls t).2).2) := by
  rw [executeCalls, List.map_append, List.map_singleton, getD_of_getElem? hi, executeAll_concat]
  rfl

end Registry

/-! ## What stays true -/

namespace Crowd

variable {r : Registry} (s : r.Splitting) (inputs : List String) (t : Terminal)

def Asks (i : Nat) : Prop := ∃ typed, inputs[i]? = some typed ∧ strip typed ≠ ""

def Idles (i : Nat) : Prop := ∃ typed, inputs[i]? = some typed ∧ strip typed = ""

/-- What the phase of a call tells. -/
def Fits (i : Nat) (holder : Option Nat) (order : List Nat) : Phase → Prop
  | .fresh => i ∉ order
  | .queued => i ∉ order ∧ Asks inputs i
  | .working _ => holder = some i
  | .finished output => i ∈ order ∨ (Idles inputs i ∧ output = "")

/-- The calls that gave the terminal back said what their lines say one after the other. The call that holds it, if
there is one, works where they left it, and is as far as it is by itself after as many turns. -/
structure Serial (gone : List Nat) (c : Crowd) : Prop where
  outputs : gone.map (fun i => (c.phase i).output?) = (r.executeCalls inputs gone t).1.map some
  free : c.holder = none → c.order = gone ∧ c.terminal = (r.executeCalls inputs gone t).2
  held : ∀ i, c.holder = some i → c.order = gone ++ [i] ∧ ∃ rest, c.phase i = .working rest ∧
    (.paused rest, c.terminal) = Standing.proceed^[c.turns.count i]
      (.paused (s.execute (inputs.getD i "")), (r.executeCalls inputs gone t).2)

/-- What holds of the calls at every moment. -/
structure Orderly (c : Crowd) : Prop where
  fits : ∀ i, Fits inputs i c.holder c.order (c.phase i)
  nodup : c.order.Nodup
  asks : ∀ i ∈ c.order, Asks inputs i
  turns : c.turns.destutter (· ≠ ·) = c.order
  mem_turns : ∀ i ∈ c.turns, i ∈ c.order
  serial : ∃ gone, c.Serial s inputs t gone

variable {s inputs t} {c : Crowd} {gone : List Nat}

theorem Idles.not_asks {i : Nat} (h : Idles inputs i) : ¬ Asks inputs i := by
  obtain ⟨typed, htyped, hblank⟩ := h
  rintro ⟨typed', htyped', hne⟩
  rw [htyped] at htyped'
  exact hne (Option.some.inj htyped' ▸ hblank)

theorem phase_put (i : Nat) (phase : Phase) (c : Crowd) : (c.put i phase).phase i = phase := Function.update_self ..

theorem phase_put_of_ne {i j : Nat} (h : j ≠ i) (phase : Phase) (c : Crowd) :
    (c.put i phase).phase j = c.phase j := Function.update_of_ne h ..

theorem outputs_put {i : Nat} (h : i ∉ gone) (phase : Phase) (c : Crowd) :
    gone.map (fun j => ((c.put i phase).phase j).output?) = gone.map fun j => (c.phase j).output? := by
  refine List.map_congr_left fun j hj => ?_
  rw [phase_put_of_ne (ne_of_mem_of_not_mem hj h)]

theorem Serial.mem_order (h : c.Serial s inputs t gone) : ∀ i ∈ gone, i ∈ c.order := by
  intro i hi
  cases hholder : c.holder with
  | none =>
      rw [(h.free hholder).1]
      exact hi
  | some j =>
      rw [(h.held j hholder).1]
      exact List.mem_append_left _ hi

theorem Serial.holder_mem_order (h : c.Serial s inputs t gone) {i : Nat} (hholder : c.holder = some i) :
    i ∈ c.order := by
  rw [(h.held i hholder).1]
  exact List.mem_append_right _ List.mem_cons_self

theorem Fits.given {i j : Nat} {holder : Option Nat} {order : List Nat} {phase : Phase}
    (h : Fits inputs i holder order phase) (hj : i ≠ j) : Fits inputs i holder (order ++ [j]) phase := by
  have hnew : i ∉ order → i ∉ order ++ [j] := by simp [hj]
  cases phase with
  | fresh => exact hnew h
  | queued => exact ⟨hnew h.1, h.2⟩
  | working rest => exact h
  | finished output => exact h.imp_left (List.mem_append_left _)

/-! ## Before the terminal -/

theorem Orderly.put (h : c.Orderly s inputs t) {i : Nat} (hi : i ∉ c.order) {phase : Phase}
    (hfits : Fits inputs i c.holder c.order phase) : (c.put i phase).Orderly s inputs t where
  fits j := by
    by_cases hj : j = i
    · rw [hj, phase_put]
      exact hfits
    · rw [phase_put_of_ne hj]
      exact h.fits j
  nodup := h.nodup
  asks := h.asks
  turns := h.turns
  mem_turns := h.mem_turns
  serial := by
    obtain ⟨gone, hserial⟩ := h.serial
    refine ⟨gone, ?_, hserial.free, fun j hholder => ?_⟩
    · rw [outputs_put fun hmem => hi (hserial.mem_order i hmem)]
      exact hserial.outputs
    · have hj : j ≠ i := ne_of_mem_of_not_mem (hserial.holder_mem_order hholder) hi
      rw [phase_put_of_ne hj]
      exact hserial.held j hholder

/-! ## At the terminal -/

theorem fits_turn {i : Nat} (work : Work String) (h : i ∈ c.order) :
    Fits inputs i (c.turn i work).holder (c.turn i work).order ((c.turn i work).phase i) := by
  have hphase : (c.turn i work).phase i = Phase.ofStanding (work.resume c.terminal).1 := phase_put i _ c
  rw [hphase]
  cases hstanding : (work.resume c.terminal).1 with
  | ended output => exact .inl h
  | paused rest =>
      have hholder : (c.turn i work).holder = (Phase.ofStanding (work.resume c.terminal).1).holder? i := rfl
      rw [hholder, hstanding]
      rfl

theorem serial_turn {i : Nat} {typed : String} {work : Work String} (hi : inputs[i]? = some typed)
    (horder : c.order = gone ++ [i]) (hgone : i ∉ gone)
    (houtputs : gone.map (fun i => (c.phase i).output?) = (r.executeCalls inputs gone t).1.map some)
    (hstands : (.paused work, c.terminal) = Standing.proceed^[c.turns.count i]
      (.paused (s.execute (inputs.getD i "")), (r.executeCalls inputs gone t).2)) :
    ∃ gone', (c.turn i work).Serial s inputs t gone' := by
  -- a turn takes the call that holds the terminal one step further than its turns until then
  have hnext : work.resume c.terminal = Standing.proceed^[c.turns.count i + 1]
      (.paused (s.execute (inputs.getD i "")), (r.executeCalls inputs gone t).2) := by
    rw [Function.iterate_succ_apply', ← hstands]
    rfl
  have houtputs' : gone.map (fun j => ((c.turn i work).phase j).output?) =
      (r.executeCalls inputs gone t).1.map some := (outputs_put hgone _ c).trans houtputs
  have hphase : (c.turn i work).phase i = Phase.ofStanding (work.resume c.terminal).1 := phase_put i _ c
  have hholder : (c.turn i work).holder = (Phase.ofStanding (work.resume c.terminal).1).holder? i := rfl
  have hterminal : (c.turn i work).terminal = (work.resume c.terminal).2 := rfl
  have hcount : (c.turn i work).turns.count i = c.turns.count i + 1 := by
    have hturns : (c.turn i work).turns = c.turns ++ [i] := rfl
    rw [hturns, List.count_append, List.count_singleton_self]
  rw [← hcount] at hnext
  generalize work.resume c.terminal = next at hnext hphase hholder hterminal
  obtain ⟨standing, u⟩ := next
  cases standing with
  | ended output =>
      have hexecute : (output, u) = r.execute typed (r.executeCalls inputs gone t).2 := by
        have hfinish := Standing.finish_iterate ((c.turn i work).turns.count i)
          (.paused (s.execute typed), (r.executeCalls inputs gone t).2)
        rw [Registry.getD_of_getElem? hi] at hnext
        rw [← hnext] at hfinish
        exact hfinish.trans (s.run_execute typed _)
      refine ⟨gone ++ [i], ?_, fun _ => ⟨horder, ?_⟩, fun j hj => absurd (hholder.symm.trans hj) nofun⟩
      · rw [r.executeCalls_concat hi, ← hexecute, List.map_append, List.map_append, houtputs', List.map_singleton,
          hphase]
        rfl
      · rw [r.executeCalls_concat hi, ← hexecute]
        exact hterminal
  | paused rest =>
      refine ⟨gone, houtputs', fun h => absurd (hholder.symm.trans h) nofun, fun j hj => ?_⟩
      obtain rfl := Option.some.inj (hholder.symm.trans hj)
      exact ⟨horder, rest, hphase, by rw [← hnext, hterminal]⟩

theorem orderly_turn {i : Nat} {typed : String} {work : Work String} (hi : inputs[i]? = some typed)
    (hfits : ∀ j ≠ i, Fits inputs j c.holder c.order (c.phase j)) (hholder : ∀ j, c.holder = some j → j = i)
    (hnodup : c.order.Nodup) (hasks : ∀ j ∈ c.order, Asks inputs j)
    (hturns : (c.turns ++ [i]).destutter (· ≠ ·) = c.order) (hmem : ∀ j ∈ c.turns, j ∈ c.order)
    (horder : c.order = gone ++ [i])
    (houtputs : gone.map (fun i => (c.phase i).output?) = (r.executeCalls inputs gone t).1.map some)
    (hstands : (.paused work, c.terminal) = Standing.proceed^[c.turns.count i]
      (.paused (s.execute (inputs.getD i "")), (r.executeCalls inputs gone t).2)) :
    (c.turn i work).Orderly s inputs t where
  fits j := by
    by_cases hj : j = i
    · subst hj
      exact fits_turn work (by simp [horder])
    · have hphase : (c.turn i work).phase j = c.phase j := phase_put_of_ne hj _ c
      have hj' := hfits j hj
      rw [hphase]
      cases hcase : c.phase j with
      | fresh => rwa [hcase] at hj'
      | queued => rwa [hcase] at hj'
      | finished output => rwa [hcase] at hj'
      | working rest =>
          rw [hcase] at hj'
          exact absurd (hholder j hj') hj
  nodup := hnodup
  asks := hasks
  turns := hturns
  mem_turns := List.forall_mem_append.mpr ⟨hmem, by simp [turn, put, horder]⟩
  serial := by
    rw [horder] at hnodup
    have hgone : i ∉ gone := fun hmem => List.disjoint_of_nodup_append hnodup hmem List.mem_cons_self
    exact serial_turn hi horder hgone houtputs hstands

/-! ## Step by step -/

theorem orderly_start (t : Terminal) : Orderly s inputs t { terminal := t } where
  fits _ := List.not_mem_nil
  nodup := List.nodup_nil
  asks _ h := absurd h List.not_mem_nil
  turns := rfl
  mem_turns _ h := absurd h List.not_mem_nil
  serial := ⟨[], rfl, fun _ => ⟨rfl, rfl⟩, fun _ h => absurd h nofun⟩

theorem Orderly.step (h : c.Orderly s inputs t) (i : Nat) : (c.step s inputs i).Orderly s inputs t := by
  unfold Crowd.step
  cases hi : inputs[i]? with
  | none => exact h
  | some typed =>
      dsimp only
      have hfits := h.fits i
      cases hphase : c.phase i with
      | finished output => exact h
      | fresh =>
          rw [hphase] at hfits
          by_cases hblank : strip typed = ""
          · rw [if_pos hblank]
            exact h.put hfits (.inr ⟨⟨typed, hi, hblank⟩, rfl⟩)
          · rw [if_neg hblank]
            exact h.put hfits ⟨hfits, typed, hi, hblank⟩
      | queued =>
          rw [hphase] at hfits
          obtain ⟨hnew, hasks⟩ := hfits
          cases hholder : c.holder with
          | some j => exact h
          | none =>
              obtain ⟨gone, hserial⟩ := h.serial
              obtain ⟨hgone, hterminal⟩ := hserial.free hholder
              -- the terminal is free: the call is given it and takes its first turn in the same step
              let given : Crowd := { c with order := c.order ++ [i] }
              refine orderly_turn (c := given) hi (fun j hj => (h.fits j).given hj)
                (fun j hj => absurd (hholder.symm.trans hj) nofun) (by simpa [given] using h.nodup.concat hnew)
                (List.forall_mem_append.mpr ⟨h.asks, by simpa using hasks⟩) ?turns
                (fun j hj => List.mem_append_left _ (h.mem_turns j hj)) (hgone ▸ rfl) hserial.outputs ?stands
              case turns =>
                have hlast : c.order.getLast? ≠ some i := fun hlast => hnew (List.mem_of_getLast? hlast)
                rw [destutter_concat, h.turns, if_neg hlast]
              case stands =>
                have hcount : given.turns.count i = 0 :=
                  List.count_eq_zero.mpr fun hmem => hnew (h.mem_turns i hmem)
                rw [hcount, Registry.getD_of_getElem? hi]
                exact congrArg (Prod.mk _) hterminal
      | working rest =>
          rw [hphase] at hfits
          obtain ⟨gone, hserial⟩ := h.serial
          obtain ⟨horder, rest', hrest, hstands⟩ := hserial.held i hfits
          obtain rfl : rest = rest' := Phase.working.inj (hphase.symm.trans hrest)
          refine orderly_turn hi (fun j _ => h.fits j) (fun j hj => Option.some.inj (hj.symm.trans hfits)) h.nodup
            h.asks ?_ h.mem_turns horder hserial.outputs hstands
          rw [destutter_concat, h.turns, horder, List.getLast?_concat, if_pos rfl]

theorem orderly_steps (schedule : List Nat) (h : c.Orderly s inputs t) :
    (c.steps s inputs schedule).Orderly s inputs t := by
  induction schedule generalizing c with
  | nil => exact h
  | cons i rest ih => exact ih (h.step i)

/-- A step changes nothing but a phase, or it is a turn, which only a call can take to which the terminal is given. -/
theorem Orderly.step_cases (h : c.Orderly s inputs t) (i : Nat) :
    let next := c.step s inputs i
    (next.terminal = c.terminal ∧ next.turns = c.turns ∧ next.order = c.order ∧ next.holder = c.holder) ∨
    (next.turns = c.turns ++ [i] ∧ ∀ j, c.holder = some j → j = i) := by
  intro next
  have hnext : next = c.step s inputs i := rfl
  clear_value next
  subst hnext
  unfold Crowd.step
  cases hi : inputs[i]? with
  | none => exact .inl ⟨rfl, rfl, rfl, rfl⟩
  | some typed =>
      have hfits := h.fits i
      dsimp only
      cases hphase : c.phase i with
      | fresh => exact .inl ⟨rfl, rfl, rfl, rfl⟩
      | finished output => exact .inl ⟨rfl, rfl, rfl, rfl⟩
      | working rest =>
          rw [hphase] at hfits
          exact .inr ⟨rfl, fun j hj => Option.some.inj (hj.symm.trans hfits)⟩
      | queued =>
          cases hholder : c.holder with
          | some j => exact .inl ⟨rfl, rfl, rfl, hholder⟩
          | none => exact .inr ⟨rfl, fun j hj => absurd hj nofun⟩

theorem Orderly.phase_of_idles (h : c.Orderly s inputs t) {i : Nat} (hi : Idles inputs i) :
    i ∉ c.order ∧ (c.phase i = .fresh ∨ c.phase i = .finished "") := by
  have horder : i ∉ c.order := fun hmem => hi.not_asks (h.asks i hmem)
  have hfits := h.fits i
  refine ⟨horder, ?_⟩
  cases hphase : c.phase i with
  | fresh => exact .inl rfl
  | queued =>
      rw [hphase] at hfits
      exact absurd hfits.2 hi.not_asks
  | working rest =>
      rw [hphase] at hfits
      obtain ⟨gone, hserial⟩ := h.serial
      exact absurd (hserial.holder_mem_order hfits) horder
  | finished output =>
      rw [hphase] at hfits
      obtain ⟨-, rfl⟩ := hfits.resolve_left horder
      exact .inr rfl

/-- Once all calls are over, nobody holds the terminal and it was given to every call that asked for it. -/
theorem Orderly.all_over (h : c.Orderly s inputs t)
    (hover : ∀ i < inputs.length, (c.phase i).output?.isSome = true) :
    c.holder = none ∧ ∀ i, i ∈ c.order ↔ Asks inputs i := by
  have hlength : ∀ {i}, Asks inputs i → i < inputs.length := by
    rintro i ⟨typed, hi, -⟩
    exact (List.getElem?_eq_some_iff.mp hi).1
  obtain ⟨gone, hserial⟩ := h.serial
  constructor
  · cases hholder : c.holder with
    | none => rfl
    | some i =>
        obtain ⟨-, rest, hphase, -⟩ := hserial.held i hholder
        have hsome := hover i (hlength (h.asks i (hserial.holder_mem_order hholder)))
        rw [hphase] at hsome
        exact absurd hsome nofun
  · refine fun i => ⟨h.asks i, fun hasks => ?_⟩
    have hsome := hover i (hlength hasks)
    have hfits := h.fits i
    cases hphase : c.phase i with
    | finished output =>
        rw [hphase] at hfits
        exact hfits.resolve_right fun hidle => hidle.1.not_asks hasks
    | _ =>
        rw [hphase] at hsome
        exact absurd hsome nofun

/-- However the steps of calls fall, their lines run one after the other. When all calls are over, they have said and
done what the lines that are not blank say and do in the order in which the terminal was given to their calls. At
every moment it was given to no call twice, the turns of each call are consecutive, and the terminal is as it is
after the calls that gave it back and some turns of the call that holds it by itself; a step that is no turn leaves
the terminal as it is. A blank line says nothing and has no turn. -/
theorem calls_in_turn (s : r.Splitting) (inputs : List String) (t : Terminal) (schedule : List Nat) :
    let c := Crowd.steps s inputs schedule { terminal := t }
    ((∀ i < inputs.length, (c.phase i).output?.isSome = true) →
      (∀ i, i ∈ c.order ↔ Asks inputs i) ∧
      c.order.map (fun i => (c.phase i).output?) = (r.executeCalls inputs c.order t).1.map some ∧
      c.terminal = (r.executeCalls inputs c.order t).2) ∧
    c.order.Nodup ∧ c.turns.destutter (· ≠ ·) = c.order ∧
    (∃ gone, c.Serial s inputs t gone) ∧
    (∀ i, (c.step s inputs i).terminal = c.terminal ∨
      ((c.step s inputs i).turns = c.turns ++ [i] ∧ ∀ j, c.holder = some j → j = i)) ∧
    ∀ i, Idles inputs i → (c.phase i = .fresh ∨ c.phase i = .finished "") ∧ i ∉ c.order ∧ i ∉ c.turns ∧
      (c.step s inputs i).terminal = c.terminal ∧ (c.step s inputs i).turns = c.turns ∧
      (c.step s inputs i).order = c.order ∧ (c.step s inputs i).holder = c.holder := by
  intro c
  have h : c.Orderly s inputs t := orderly_steps schedule (orderly_start t)
  refine ⟨fun hover => ?ended, h.nodup, h.turns, h.serial, fun i => ?turn, fun i hi => ?blank⟩
  case ended =>
    obtain ⟨hholder, hmem⟩ := h.all_over hover
    obtain ⟨gone, hserial⟩ := h.serial
    obtain ⟨rfl, hterminal⟩ := hserial.free hholder
    exact ⟨hmem, hserial.outputs, hterminal⟩
  case turn => exact (h.step_cases i).imp_left fun hapart => hapart.1
  case blank =>
    obtain ⟨horder, hphase⟩ := h.phase_of_idles hi
    have hturns : i ∉ c.turns := fun hmem => horder (h.mem_turns i hmem)
    refine ⟨hphase, horder, hturns, ?_⟩
    rcases h.step_cases i with hapart | ⟨hturn, -⟩
    · exact hapart
    · have hmem : i ∈ (c.step s inputs i).turns := by
        rw [hturn]
        exact List.mem_append_right _ List.mem_cons_self
      exact absurd ((h.step i).mem_turns i hmem) ((h.step i).phase_of_idles hi).1

theorem calls_in_turn_pwd :
    let r := Registry.standard [] ⟨"/api", "/entities", "here"⟩
    let c := Crowd.steps (Registry.Splitting.patient r) ["cd musica; pwd", " \t", "pwd"]
      [0, 2, 2, 1, 0, 2, 0, 2, 0, 1, 0, 0, 2, 0, 0, 0] { terminal := {} }
    c.order = [2, 0] ∧ c.order.map (fun i => (c.phase i).output?) = [some "~", some "\nmusica"] ∧
    c.terminal.session.directory = "musica" ∧ c.terminal.session.transcript =
      ["user@linux-box:~$ pwd", "~", "user@linux-box:~$ cd musica; pwd", "\nmusica"] := by
  intro r c
  obtain ⟨hended, -⟩ := calls_in_turn (Registry.Splitting.patient r) ["cd musica; pwd", " \t", "pwd"] {}
    [0, 2, 2, 1, 0, 2, 0, 2, 0, 1, 0, 0, 2, 0, 0, 0]
  obtain ⟨-, houtputs, hterminal⟩ := hended (by decide +kernel)
  have horder : c.order = [2, 0] := by decide +kernel
  rw [horder] at houtputs hterminal
  refine ⟨horder, ?_, ?_, ?_⟩
  · rw [horder, houtputs]
    decide +kernel
  · rw [hterminal]
    decide +kernel
  · rw [hterminal]
    decide +kernel

end Crowd

end LineShell
