import LineShell.Proofs.Console.Following
import LineShell.Proofs.Console.Watching
import LineShell.Proofs.Session.Operations

/-!
# The dialogue on a console

Whatever is typed, the console shows the transcript of the session.
-/

namespace LineShell

open Terminal

namespace Shell

/-! ## Heeding -/

def transcript (s : Shell) : List String := s.workplace.terminal.session.transcript

theorem workplace_heed (s : Shell) (notice : Notice) : (s.heed notice).workplace = s.workplace := by
  cases notice with
  | shown observer lines => rfl
  | message listener payload =>
      unfold heed
      dsimp only
      split <;> rfl

theorem workplace_heedAll (told : List Notice) (s : Shell) : (told.foldl heed s).workplace = s.workplace := by
  induction told generalizing s with
  | nil => rfl
  | cons notice rest ih => rw [List.foldl_cons, ih, workplace_heed]

def withTerminal (t : Terminal) (s : Shell) : Shell :=
  { s with workplace := s.workplace.withTerminal { t with notices := [] } }

theorem update_eq (f : Terminal → Terminal) (s : Shell) : s.update f =
    (f s.workplace.terminal).notices.foldl heed (s.withTerminal (f s.workplace.terminal)) := rfl

theorem session_update (f : Terminal → Terminal) (s : Shell) :
    (s.update f).workplace.terminal.session = (f s.workplace.terminal).session := by
  rw [update_eq, workplace_heedAll]
  rfl

theorem portrays_heed {s : Shell} (h : Portrays s.events s.screen.printed) {notice : Notice}
    (htheme : isThemeMessage notice = false) : Portrays (s.heed notice).events (s.heed notice).screen.printed ∧
      (s.heed notice).screen.printed = transcriptAfter s.screen.printed notice := by
  cases notice with
  | shown observer lines =>
      have hprinted : (s.heed (.shown observer lines)).screen.printed = lines := s.screen.printed_present lines
      rw [hprinted]
      exact ⟨h.present lines, rfl⟩
  | message listener payload =>
      have hlistener : ¬(listener == themeTopic) = true := by simpa [isThemeMessage] using htheme
      simp only [heed, if_neg hlistener]
      exact ⟨h.aside _ (by rfl), rfl⟩

theorem portrays_heedAll {s : Shell} (h : Portrays s.events s.screen.printed) {told : List Notice}
    (htheme : told.all (!isThemeMessage ·) = true) :
    Portrays (told.foldl heed s).events (told.foldl heed s).screen.printed ∧
      (told.foldl heed s).screen.printed = told.foldl transcriptAfter s.screen.printed := by
  induction told generalizing s with
  | nil => exact ⟨h, rfl⟩
  | cons notice rest ih =>
      obtain ⟨hnotice, hrest⟩ : isThemeMessage notice = false ∧ rest.all (!isThemeMessage ·) = true := by
        simpa using htheme
      obtain ⟨hstep, hprinted⟩ := portrays_heed h hnotice
      obtain ⟨hportrays, hall⟩ := ih hstep hrest
      exact ⟨hportrays, by rw [List.foldl_cons, List.foldl_cons, hall, hprinted]⟩

/-! ## In step -/

/-- The console has heeded all that it was told and shows the transcript. -/
structure InStep (s : Shell) : Prop where
  screened : s.workplace.terminal.Screened
  heeded : s.workplace.terminal.notices = []
  telling : s.workplace.registry.Telling
  printed : s.screen.printed = s.transcript
  portrays : Portrays s.events s.transcript

namespace InStep

variable {s : Shell}

theorem aside (h : s.InStep) {event : ConsoleEvent} (haside : event.isAside = true) : (s.tell [event]).InStep :=
  ⟨h.screened, h.heeded, h.telling, h.printed, h.portrays.aside event haside⟩

theorem say (h : s.InStep) {style : String} (hstyle : style ≠ "") (text : String) : (s.say style text).InStep :=
  h.aside (by simpa [ConsoleEvent.isAside, StyledText.ofStyle] using hstyle)

theorem of_heedAll {t : Terminal} (told : List Notice) (ht : t.Screened) (htelling : s.workplace.registry.Telling)
    (hportrays : Portrays s.events s.screen.printed) (htheme : told.all (!isThemeMessage ·) = true)
    (htranscript : t.session.transcript = told.foldl transcriptAfter s.screen.printed) :
    (told.foldl heed (s.withTerminal t)).InStep := by
  obtain ⟨hportrays', hprinted⟩ := portrays_heedAll (s := s.withTerminal t) hportrays htheme
  have hworkplace := workplace_heedAll told (s.withTerminal t)
  have hshown : (told.foldl heed (s.withTerminal t)).transcript = t.session.transcript := by
    rw [transcript, hworkplace]
    rfl
  have hall : (told.foldl heed (s.withTerminal t)).screen.printed = t.session.transcript := hprinted.trans htranscript.symm
  constructor
  · rw [hworkplace]
    exact ⟨ht.watchers, ht.bus⟩
  · rw [hworkplace]
    rfl
  · rw [hworkplace]
    exact htelling
  · rw [hall, hshown]
  · rw [hshown, ← hall]
    exact hportrays'

theorem update (h : s.InStep) {f : Terminal → Terminal} (hf : Tells s.workplace.terminal (f s.workplace.terminal)) :
    (s.update f).InStep := by
  obtain ⟨told, hnotices, htranscript, htheme⟩ := hf.told
  rw [h.heeded, List.nil_append] at hnotices
  rw [update_eq, hnotices]
  refine of_heedAll told hf.screened h.telling (by rw [h.printed]; exact h.portrays) htheme ?_
  rw [h.printed]
  exact htranscript

theorem changeTheme (h : s.InStep) (theme : Theme) (name : String) :
    ({ s with theme }.update (·.publish themeTopic name)).InStep := by
  obtain ⟨hscreened, hsession, hnotices⟩ := h.screened.publish themeTopic name
  have htold : (s.workplace.terminal.publish themeTopic name).notices = [.message themeTopic name] := by
    rw [hnotices, h.heeded]
    rfl
  have htranscript : (s.workplace.terminal.publish themeTopic name).session.transcript = s.transcript :=
    congrArg Session.transcript hsession
  have hevents : s.events ++ [.changeTheme (.ofName name)] ++ .clear :: Screen.printLines s.transcript =
      s.events ++ .changeTheme (.ofName name) :: .clear :: Screen.printLines s.transcript := by simp
  rw [update_eq, htold]
  refine ⟨⟨hscreened.watchers, hscreened.bus⟩, rfl, h.telling, rfl, ?_⟩
  change Portrays (s.events ++ [.changeTheme (.ofName name)] ++ .clear :: Screen.printLines
    (s.workplace.terminal.publish themeTopic name).session.transcript)
      (s.workplace.terminal.publish themeTopic name).session.transcript
  rw [htranscript, hevents]
  exact h.portrays.recoloured (.ofName name)

theorem browse (h : s.InStep) (direction : Direction) :
    ({ s with workplace := (s.workplace.browse direction).2 }).InStep := by
  have htranscript : (s.workplace.browse direction).2.terminal.session.transcript = s.transcript :=
    Session.transcript_browse direction s.workplace.terminal.session
  refine ⟨⟨h.screened.watchers, h.screened.bus⟩, h.heeded, h.telling, ?_, ?_⟩
  · rw [transcript, htranscript]
    exact h.printed
  · rw [transcript, htranscript]
    exact h.portrays

theorem runConsoleLine (h : s.InStep) (text : String) (line : ConsoleLine) : (s.runConsoleLine text line).InStep := by
  cases line with
  | browse direction => exact (h.browse direction).say (by decide) _
  | activate name =>
      exact h.update (f := fun t => (s.workplace.registry.activate name t).2) (h.telling.activate name h.screened)
  | controls =>
      unfold Shell.runConsoleLine
      dsimp only
      split
      · exact h.say (by decide) _
      · exact h.say (by decide) _
  | theme name => exact h.changeTheme _ _
  | unknown => exact h.say (by decide) _

theorem ask (h : s.InStep) : s.ask.InStep := h.aside rfl

theorem respond (h : s.InStep) {typed : Typed} {s' : Shell} (hrespond : s.respond typed = some s') : s'.InStep := by
  unfold Shell.respond at hrespond
  split at hrespond
  · obtain rfl := Option.some.inj hrespond
    exact h.update (Tells.cancel h.screened)
  · split at hrespond
    · cases hrespond
    · obtain rfl := Option.some.inj hrespond
      exact h.runConsoleLine _ _
    · obtain rfl := Option.some.inj hrespond
      exact h.update (f := fun t => (s.workplace.registry.execute _ t).2) (h.telling.execute _ h.screened)

theorem dialogue (h : s.InStep) (typed : List Typed) : (s.dialogue typed).InStep := by
  induction typed generalizing s with
  | nil => exact h.ask
  | cons first rest ih =>
      unfold Shell.dialogue
      split
      · exact h.ask
      · rename_i hrespond
        exact ih (h.ask.respond hrespond)

/-- The console is shown the transcript as soon as it watches. -/
theorem opened (theme : Theme) {w : Workplace} (htelling : w.registry.Telling) (hwatchers : w.terminal.watchers = [])
    (hnotices : w.terminal.notices = []) (hbus : w.terminal.bus = some {}) : (opened theme w).InStep := by
  obtain ⟨registry, ⟨session, watchers, bus, notices⟩, apiRoot⟩ := w
  obtain rfl : watchers = [] := hwatchers
  obtain rfl : bus = some {} := hbus
  obtain rfl : notices = [] := hnotices
  have hstart : Portrays [.opened theme] [] := .opened theme
  exact of_heedAll (s := { workplace := _, theme, events := [.opened theme] }) [.shown screenName session.transcript]
    ⟨⟨1, rfl⟩, rfl⟩ htelling hstart rfl rfl

end InStep

/-! ## What is typed -/

/-- What is typed for the session, and not for the console alone. -/
def isForSession : Typed → Bool
  | .interrupt => true
  | .line text =>
    match ShellLine.parse text with
    | .command _ | .console _ (.activate _) => true
    | .leave | .console .. => false

theorem session_publish (topic payload : String) (t : Terminal) : (t.publish topic payload).session = t.session := by
  unfold Terminal.publish
  cases t.bus <;> rfl

theorem respond_of_not_isForSession {typed : Typed} (htyped : isForSession typed = false) {s s' : Shell}
    (h : s.respond typed = some s') : s'.transcript = s.transcript ∧
      s'.workplace.terminal.session.commands = s.workplace.terminal.session.commands := by
  cases typed with
  | interrupt => cases htyped
  | line text =>
      simp only [isForSession] at htyped
      simp only [respond] at h
      cases hparse : ShellLine.parse text with
      | leave =>
          rw [hparse] at h
          cases h
      | command typed =>
          rw [hparse] at htyped
          cases htyped
      | console text line =>
          rw [hparse] at h htyped
          obtain rfl := Option.some.inj h
          cases line with
          | browse direction =>
              exact ⟨Session.transcript_browse direction s.workplace.terminal.session,
                Session.commands_browse direction s.workplace.terminal.session⟩
          | activate name => cases htyped
          | controls =>
              simp only [runConsoleLine]
              split <;> exact ⟨rfl, rfl⟩
          | theme name =>
              simp only [runConsoleLine, transcript, session_update, session_publish, and_self]
          | unknown => exact ⟨rfl, rfl⟩

/-- Whatever is typed, the console shows the transcript of the session, each line once, and is cleared only where that
does not extend what stands on the screen or where the theme changes. Lines for the console alone change neither the
transcript nor the typed lines. -/
theorem dialogue_shows (entries : List FileEntry) (endpoints : Endpoints) (theme : Theme) {w : Workplace}
    (hregistry : w.registry = .standard entries endpoints) (hwatchers : w.terminal.watchers = [])
    (hnotices : w.terminal.notices = []) (hbus : w.terminal.bus = some {}) (typed : List Typed) :
    let s := (Shell.opened theme w).title.greet.dialogue typed
    onScreen s.events = s.transcript.map renderLine ∧
    (∀ snapshot, .clear ∈ (s.screen.present snapshot).1 ↔ ¬s.transcript <+: snapshot) ∧
    (∀ before later, s.events = before ++ .clear :: later → ClearedFor before later) ∧
    (∀ next s', isForSession next = false → s.respond next = some s' → s'.transcript = s.transcript ∧
      s'.workplace.terminal.session.commands = s.workplace.terminal.session.commands) ∧
    ∀ snapshots snapshot, onScreen (Screen.presentAll (snapshots ++ [snapshot]) {}).flatten = snapshot.map renderLine := by
  intro s
  have htelling : w.registry.Telling := hregistry ▸ Registry.telling_standard entries endpoints
  have hstart : (Shell.opened theme w).title.greet.InStep :=
    ((InStep.opened theme htelling hwatchers hnotices hbus).aside rfl).say (by decide) _
  have hstep : s.InStep := hstart.dialogue typed
  refine ⟨hstep.portrays.onScreen, fun snapshot => ?_, fun _ _ => hstep.portrays.cleared,
    fun _ _ hnext => respond_of_not_isForSession hnext, fun snapshots snapshot => Screen.onScreen_presentAll snapshot snapshots⟩
  -- what stands on the screen is the transcript, as every notice of it was heeded
  rw [← hstep.printed]
  exact s.screen.clear_mem_present_iff snapshot

theorem dialogue_shows_clear :
    let w : Workplace := ⟨.standard [] ⟨"/api", "/entities", "here"⟩, { bus := some {} }, "/api"⟩
    let s := (Shell.opened .dark w).title.greet.dialogue [.line "echo a", .line ":theme", .line "clear", .interrupt]
    w.terminal.watchers = [] ∧ w.terminal.notices = [] ∧ w.terminal.bus = some {} ∧
      onScreen s.events = [renderLine "^C"] := by
  intro w s
  have hshown := (dialogue_shows [] ⟨"/api", "/entities", "here"⟩ .dark (w := w) rfl rfl rfl rfl
    [.line "echo a", .line ":theme", .line "clear", .interrupt]).1
  have htranscript : s.transcript = ["^C"] := by decide +kernel
  refine ⟨rfl, rfl, rfl, ?_⟩
  rw [hshown]
  exact congrArg (List.map renderLine) htranscript

end Shell

end LineShell
