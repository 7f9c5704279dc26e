import LineShell.Proofs.Terminal.Views

/-!
# Showing

What showing the transcript to the watchers can change. It never touches the desk, the typed lines or
the bus, and with watchers that add nothing it leaves the session as it is.
-/

namespace LineShell

def complaint (text : String) : Entry := ⟨.error, s!"Transcript observer failed: {text}"⟩

namespace Terminal

/-- A failure is noted, and the next watcher is shown what is left of the list. -/
theorem showAll_cons (echo : String → Terminal → Terminal) (i : Nat) (rest : List Nat) (lines : List String)
    (t : Terminal) : t.showAll echo (i :: rest) lines =
      showAll echo rest (t.showTo echo i lines).1
        ((t.showTo echo i lines).2.2.noteAll ((t.showTo echo i lines).2.1.map complaint).toList) := by
  rw [showAll]
  rcases t.showTo echo i lines with ⟨lines', failure, t'⟩
  cases failure with
  | none => simp
  | some text => rfl

/-! ## What showing leaves alone -/

theorem observers_modify {f : Watcher → Watcher} (hf : ∀ w, (f w).observer = w.observer) (i : Nat)
    (watchers : List Watcher) :
    (watchers.modify i f).map Watcher.observer = watchers.map Watcher.observer := by
  apply List.ext_getElem?
  intro j
  simp only [List.getElem?_map, List.getElem?_modify]
  cases watchers[j]? with
  | none => rfl
  | some w => by_cases h : i = j <;> simp [h, hf]

/-- `u` comes from `t` by telling the watchers something; of the session, what `part` sees stays. -/
structure Told (part : Session → α) (t u : Terminal) : Prop where
  session : part u.session = part t.session
  observers : u.watchers.map Watcher.observer = t.watchers.map Watcher.observer
  desk : u.desk = t.desk
  bus : u.bus = t.bus
  messages : u.messages = t.messages

namespace Told

variable {part : Session → α} {t u v : Terminal}

theorem refl (part : Session → α) (t : Terminal) : Told part t t := ⟨rfl, rfl, rfl, rfl, rfl⟩

theorem trans (h : Told part t u) (h' : Told part u v) : Told part t v :=
  ⟨h'.session.trans h.session, h'.observers.trans h.observers, h'.desk.trans h.desk, h'.bus.trans h.bus,
    h'.messages.trans h.messages⟩

theorem noteAll (part : Session → α) (entries : List Entry) (t : Terminal) : Told part t (t.noteAll entries) :=
  ⟨rfl, rfl, rfl, rfl, rfl⟩

theorem unsubscribe (part : Session → α) (name : String) (t : Terminal) : Told part t (t.unsubscribe name) := by
  unfold Terminal.unsubscribe
  split
  · exact refl part t
  · exact ⟨rfl, observers_modify (by simp) _ _, rfl, rfl, rfl⟩

theorem undo (part : Session → α) (names : List String) (t : Terminal) :
    Told part t (names.foldl (fun t name => t.unsubscribe name) t) := by
  induction names generalizing t with
  | nil => exact refl part t
  | cons name names ih => exact (unsubscribe part name t).trans (ih _)

variable {echo : String → Terminal → Terminal}

theorem showTo (hecho : ∀ line t, Told part t (echo line t)) (i : Nat) (lines : List String) (t : Terminal) :
    Told part t (t.showTo echo i lines).2.2 := by
  unfold Terminal.showTo
  split
  · exact refl part t
  · rename_i w hw
    have hcount : Told part t { t with
        watchers := t.watchers.modify i fun w => { w with shown := w.shown + 1 }
        notices := t.notices ++ [.shown w.observer.name lines] } :=
      ⟨rfl, observers_modify (by simp) _ _, rfl, rfl, by simp [Terminal.messages]⟩
    refine Told.trans ?_ (undo part _ _)
    split
    · exact hcount.trans (hecho _ _)
    · exact hcount

theorem showAll (hecho : ∀ line t, Told part t (echo line t)) (audience : List Nat) (lines : List String)
    (t : Terminal) : Told part t (Terminal.showAll echo audience lines t) := by
  induction audience generalizing lines t with
  | nil => exact refl part t
  | cons i rest ih =>
      rw [showAll_cons]
      exact ((showTo hecho i lines t).trans (noteAll part _ _)).trans (ih _ _)

theorem announce (hecho : ∀ line t, Told part t (echo line t)) (t : Terminal) : Told part t (t.announce echo) :=
  showAll hecho _ _ t

end Told

/-! ## Adding to the transcript and emptying it -/

def typedPart (s : Session) : List String × Option Nat := (s.commands, s.cursor)

theorem Told.appendWithin (depth : Nat) (line : String) (t : Terminal) :
    Told typedPart t (Terminal.appendWithin depth line t) := by
  have hadd : ∀ line t, Told typedPart t { t with session := t.session.append line } :=
    fun _ _ => ⟨rfl, rfl, rfl, rfl, rfl⟩
  induction depth generalizing line t with
  | zero => exact (hadd line t).trans (Told.announce (fun _ t => Told.refl _ t) _)
  | succ depth ih => exact (hadd line t).trans (Told.announce ih _)

theorem Told.append (line : String) (t : Terminal) : Told typedPart t (t.append line) :=
  Told.appendWithin _ line t

theorem Told.clear (t : Terminal) : Told typedPart t t.clear :=
  Told.trans (u := { t with session := t.session.clear }) ⟨rfl, rfl, rfl, rfl, rfl⟩
    (Told.announce (Told.appendWithin _) _)

/-! ## Watchers that add nothing -/

/-- All watchers add nothing to the transcript. -/
def Quiet (t : Terminal) : Prop := ∀ w ∈ t.watchers, w.observer.isQuiet = true

theorem quiet_iff (t : Terminal) :
    t.Quiet ↔ ∀ o ∈ t.watchers.map Watcher.observer, o.isQuiet = true := by
  simp [Quiet]

theorem Told.quiet {part : Session → α} {t u : Terminal} (h : Told part t u) (hq : t.Quiet) : u.Quiet := by
  rw [quiet_iff, h.observers]
  exact (quiet_iff t).mp hq

variable {t : Terminal}

theorem Quiet.echo (hq : t.Quiet) {i : Nat} {w : Watcher} (hw : t.watchers[i]? = some w) (n : Nat)
    (line : String) : w.observer.echoes[n]? ≠ some (some line) := by
  intro he
  have h := List.all_eq_true.mp (hq w (List.mem_of_getElem? hw)) _ (List.mem_of_getElem? he)
  simp at h

theorem Quiet.showTo (hq : t.Quiet) (echo : String → Terminal → Terminal) (i : Nat) (lines : List String) :
    t.showTo echo i lines = t.showTo (fun _ t => t) i lines := by
  unfold Terminal.showTo
  cases hw : t.watchers[i]? with
  | none => rfl
  | some w =>
      cases he : w.observer.echoes[w.shown]? with
      | none => simp only [he]
      | some line? =>
          cases line? with
          | none => simp only [he]
          | some line => exact absurd he (hq.echo hw _ line)

theorem Quiet.showAll (hq : t.Quiet) (echo : String → Terminal → Terminal) (audience : List Nat)
    (lines : List String) : t.showAll echo audience lines = t.showAll (fun _ t => t) audience lines := by
  induction audience generalizing lines t with
  | nil => rfl
  | cons i rest ih =>
      have hshow := Told.showTo (fun _ t => Told.refl id t) i lines t
      rw [showAll_cons, showAll_cons, hq.showTo echo]
      exact ih ((hshow.trans (Told.noteAll id _ _)).quiet hq) _

/-- With watchers that add nothing, announcing the transcript leaves the session as it is. -/
theorem Quiet.announce (hq : t.Quiet) (echo : String → Terminal → Terminal) : Told id t (t.announce echo) := by
  rw [Terminal.announce, hq.showAll echo]
  exact Told.showAll (fun _ t => Told.refl id t) _ _ t

theorem Quiet.append (hq : t.Quiet) (line : String) :
    Told id { t with session := t.session.append line } (t.append line) := by
  have hq' : Quiet { t with session := t.session.append line } := hq
  unfold Terminal.append
  cases t.pending with
  | zero => exact hq'.announce _
  | succ depth => exact hq'.announce _

theorem Quiet.clear (hq : t.Quiet) : Told id { t with session := t.session.clear } t.clear :=
  Quiet.announce (t := { t with session := t.session.clear }) hq _

/-! ## The journal is written, never read -/

def Unread (f : Terminal → Terminal) : Prop := ∀ {t u}, t.unlogged = u.unlogged → (f t).unlogged = (f u).unlogged

namespace Unread

theorem unsubscribe (name : String) : Unread (Terminal.unsubscribe name) := by
  intro t u h
  obtain ⟨j, rfl⟩ : ∃ j, u = { t with journal := j } := ⟨_, eq_of_unlogged_eq h⟩
  have hname : Terminal.subscriptionOf? name { t with journal := j } = t.subscriptionOf? name := rfl
  rw [Terminal.unsubscribe, Terminal.unsubscribe, hname]
  cases t.subscriptionOf? name <;> rfl

theorem undo (names : List String) : Unread fun t => names.foldl (fun t name => t.unsubscribe name) t := by
  induction names with
  | nil => exact id
  | cons name names ih => exact fun h => ih (unsubscribe name h)

variable {echo : String → Terminal → Terminal}

theorem showTo (hecho : ∀ line, Unread (echo line)) (i : Nat) (lines : List String) {t u : Terminal}
    (h : t.unlogged = u.unlogged) :
    (t.showTo echo i lines).1 = (u.showTo echo i lines).1 ∧
    (t.showTo echo i lines).2.1 = (u.showTo echo i lines).2.1 ∧
    (t.showTo echo i lines).2.2.unlogged = (u.showTo echo i lines).2.2.unlogged := by
  obtain ⟨j, rfl⟩ : ∃ j, u = { t with journal := j } := ⟨_, eq_of_unlogged_eq h⟩
  unfold Terminal.showTo
  cases t.watchers[i]? with
  | none => exact ⟨rfl, rfl, rfl⟩
  | some w =>
      refine ⟨rfl, rfl, undo _ ?_⟩
      cases w.observer.echoes[w.shown]? with
      | none => rfl
      | some line? =>
          cases line? with
          | none => rfl
          | some line => exact hecho line rfl

theorem showAll (hecho : ∀ line, Unread (echo line)) (audience : List Nat) (lines : List String) :
    Unread (Terminal.showAll echo audience lines) := by
  induction audience generalizing lines with
  | nil => exact id
  | cons i rest ih =>
      intro t u h
      obtain ⟨hlines, hfailure, hterminal⟩ := showTo hecho i lines h
      rw [showAll_cons, showAll_cons, hlines, hfailure]
      exact ih _ (by simpa only [unlogged_noteAll] using hterminal)

theorem announce (hecho : ∀ line, Unread (echo line)) : Unread (Terminal.announce echo) := by
  intro t u h
  have hlines : t.session.transcript = u.session.transcript := congrArg (·.session.transcript) h
  have haudience : t.audience = u.audience := (congrArg audience h :)
  rw [Terminal.announce, Terminal.announce, hlines, haudience]
  exact showAll hecho _ _ h

theorem modifySession (f : Session → Session) : Unread (Terminal.modifySession f) := by
  intro t u h
  obtain ⟨j, rfl⟩ : ∃ j, u = { t with journal := j } := ⟨_, eq_of_unlogged_eq h⟩
  rfl

theorem appendWithin (depth : Nat) (line : String) : Unread (Terminal.appendWithin depth line) := by
  induction depth generalizing line with
  | zero => exact fun h => announce (fun _ => id) (modifySession (Session.append line) h)
  | succ depth ih => exact fun h => announce ih (modifySession (Session.append line) h)

theorem append (line : String) : Unread (Terminal.append line) := by
  intro t u h
  have hpending : t.pending = u.pending := (congrArg pending h :)
  rw [Terminal.append, Terminal.append, hpending]
  exact appendWithin _ line h

theorem clear : Unread Terminal.clear := by
  intro t u h
  have hpending : t.pending = u.pending := (congrArg pending h :)
  rw [Terminal.clear, Terminal.clear, hpending]
  exact announce (appendWithin _) (modifySession Session.clear h)

end Unread

end Terminal

end LineShell
