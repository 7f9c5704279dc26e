import LineShell.Console.Shell
import LineShell.Proofs.Activation

/-!
# The screen as a watcher

What a terminal tells where nobody but a screen watches it: each change of the transcript, in order, so that the last
transcript told is the present one.
-/

namespace LineShell.Terminal

/-! ## Before a screen -/

def screenWatcher (shown : Nat) : Watcher := { observer := { name := screenName }, released := true, shown }

def shellBus : EventBus String :=
  (({} : EventBus String).subscribe themeTopic themeTopic themeTopic).subscribe Registry.entityTopic
    Registry.entityTopic Registry.entityTopic

/-- A screen watches the terminal, and nobody else. -/
structure Screened (t : Terminal) : Prop where
  watchers : ∃ shown, t.watchers = [screenWatcher shown]
  bus : t.bus = some shellBus

theorem Screened.publish {t : Terminal} (h : t.Screened) (topic payload : String) :
    (t.publish topic payload).Screened ∧ (t.publish topic payload).session = t.session ∧
      (t.publish topic payload).notices = t.notices ++ (shellBus.handlersOf topic).map (.message · payload) := by
  obtain ⟨hbus, hdelivered⟩ := shellBus.publish_eq topic payload
  unfold Terminal.publish
  rw [h.bus]
  refine ⟨⟨h.watchers, congrArg some hbus⟩, rfl, ?_⟩
  simp only [hdelivered, List.map_map]
  rfl

def transcriptAfter (lines : List String) : Notice → List String
  | .shown _ snapshot => snapshot
  | .message .. => lines

def isThemeMessage : Notice → Bool
  | .shown .. => false
  | .message listener _ => listener == themeTopic

/-- From `t` to `u` the screen was told all that befell the transcript, and of no theme. -/
structure Tells (t u : Terminal) : Prop where
  screened : u.Screened
  told : ∃ told : List Notice, u.notices = t.notices ++ told ∧
    u.session.transcript = told.foldl transcriptAfter t.session.transcript ∧ told.all (!isThemeMessage ·) = true

namespace Tells

variable {t u v : Terminal}

theorem of_quiet (h : t.Screened) (hwatchers : u.watchers = t.watchers) (hbus : u.bus = t.bus)
    (hnotices : u.notices = t.notices) (htranscript : u.session.transcript = t.session.transcript) : Tells t u where
  screened := ⟨hwatchers ▸ h.watchers, hbus.trans h.bus⟩
  told := ⟨[], by rw [hnotices, List.append_nil], htranscript, rfl⟩

theorem refl (h : t.Screened) : Tells t t := of_quiet h rfl rfl rfl rfl

theorem trans (h : Tells t u) (h' : Tells u v) : Tells t v where
  screened := h'.screened
  told := by
    obtain ⟨told, hnotices, htranscript, htheme⟩ := h.told
    obtain ⟨more, hnotices', htranscript', htheme'⟩ := h'.told
    refine ⟨told ++ more, ?_, ?_, ?_⟩
    · rw [hnotices', hnotices, List.append_assoc]
    · rw [htranscript', htranscript, List.foldl_append]
    · rw [List.all_append, htheme, htheme']
      rfl

theorem noteAll (h : t.Screened) (entries : List Entry) : Tells t (t.noteAll entries) := of_quiet h rfl rfl rfl rfl

theorem of_display (h : t.Screened) (hdisplay : u.display = t.display) : Tells t u :=
  of_quiet h (congrArg Display.watchers hdisplay) (congrArg Display.bus hdisplay) (congrArg Display.notices hdisplay)
    (congrArg Display.transcript hdisplay)

theorem modifySession (h : t.Screened) (f : Session → Session) (hf : (f t.session).transcript = t.session.transcript) :
    Tells t (t.modifySession f) := of_quiet h rfl rfl rfl hf

/-- A change is shown to the screen once. -/
theorem announce (h : t.Screened) (f : Session → Session) (echo : String → Terminal → Terminal) :
    Tells t ((t.modifySession f).announce echo) := by
  obtain ⟨⟨shown, hwatchers⟩, hbus⟩ := h
  obtain ⟨session, watchers, bus, notices⟩ := t
  obtain rfl : watchers = [screenWatcher shown] := hwatchers
  exact ⟨⟨⟨shown + 1, rfl⟩, hbus⟩, [.shown screenName (f session).transcript], rfl, rfl, rfl⟩

theorem append (h : t.Screened) (line : String) : Tells t (t.append line) := by
  unfold Terminal.append
  cases t.pending with
  | zero => exact announce h (Session.append line) _
  | succ depth => exact announce h (Session.append line) _

theorem clear (h : t.Screened) : Tells t t.clear := announce h Session.clear _

theorem record (h : t.Screened) (output : String) : Tells t (t.record output) := by
  unfold Terminal.record
  split
  · exact refl h
  · exact append h output

theorem echo (h : t.Screened) (text : String) : Tells t (Registry.echo text t) := by
  have hremember := modifySession h (.remember text) rfl
  have happend := hremember.trans (append hremember.screened s!"{(t.modifySession (.remember text)).session.prompt} {text}")
  exact happend.trans (noteAll happend.screened _)

theorem cancel (h : t.Screened) : Tells t t.cancel := by
  have happend := append h "^C"
  exact happend.trans (modifySession happend.screened .resetCursor rfl)

theorem publish (h : t.Screened) (name : String) : Tells t (t.publish Registry.entityTopic name) := by
  obtain ⟨hscreened, hsession, hnotices⟩ := h.publish Registry.entityTopic name
  exact ⟨hscreened, [.message Registry.entityTopic name], hnotices, congrArg Session.transcript hsession, rfl⟩

end Tells

end LineShell.Terminal

namespace LineShell.Registry

open Terminal

/-! ## Lines -/

/-- Commands before a screen tell it what they do. -/
def Telling (r : Registry) : Prop := r.Carries fun t u => t.Screened → Tells t u

theorem telling_standard (entries : List FileEntry) (endpoints : Endpoints) : (standard entries endpoints).Telling where
  refl _ := Tells.refl
  trans h h' ht := (h ht).trans (h' (h ht).screened)
  noteAll entries _ h := Tells.noteAll h entries
  handler c hc call t ht := by
    rcases atDesk_catalog entries endpoints c hc with ⟨-, h⟩ | ⟨-, h⟩ | ⟨-, -, h⟩
    · rw [h]
      exact Tells.clear ht
    · rw [h]
      exact Tells.refl ht
    · exact Tells.of_display ht ((h call).display t)

namespace Telling

variable {r : Registry} {t : Terminal}

theorem runClear (h : r.Telling) (ht : t.Screened) : Tells t (r.runClear t).2 := by
  unfold Registry.runClear
  split
  · exact Tells.clear ht
  · rename_i c hc
    exact Carries.call h hc [] t ht

theorem runLine (h : r.Telling) (line : Line) (ht : t.Screened) : Tells t (r.runLine line t).2 := by
  cases line with
  | blank => exact Tells.refl ht
  | clear =>
      have hclear := h.runClear ht
      exact hclear.trans (Tells.modifySession hclear.screened .resetCursor rfl)
  | run text statements =>
      have hecho := Tells.echo ht text
      have hran := hecho.trans (Carries.runStatements h statements _ hecho.screened)
      have hrecord := hran.trans (Tells.record hran.screened (Text.unlines (r.runStatements statements (echo text t)).1))
      exact hrecord.trans (Tells.modifySession hrecord.screened .resetCursor rfl)

theorem execute (h : r.Telling) (typed : String) (ht : t.Screened) : Tells t (r.execute typed t).2 :=
  h.runLine (Line.parse typed) ht

theorem activate (h : r.Telling) (name : String) (ht : t.Screened) : Tells t (r.activate name t).2 := by
  have hpublish := Tells.publish ht name
  exact hpublish.trans (h.execute s!"use {name}" hpublish.screened)

end Telling

end LineShell.Registry
