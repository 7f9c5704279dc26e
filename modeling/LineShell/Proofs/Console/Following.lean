import LineShell.Console.Screen
import LineShell.Proofs.Rendering

/-!
# Following the transcript

What stands on a console that follows a transcript, and when it is cleared. The lines of the transcript are printed
without a style of their own, and all that the console is told besides has one.
-/

namespace LineShell

/-! ## What stands on the screen -/

namespace ConsoleEvent

def after (shown : List StyledText) : ConsoleEvent → List StyledText
  | .clear => []
  | .print text => if text.style = "" then shown ++ [text] else shown
  | _ => shown

def isAside : ConsoleEvent → Bool
  | .print text => text.style != ""
  | .rule _ | .input _ => true
  | .opened _ | .clear | .changeTheme _ => false

end ConsoleEvent

/-- The lines of the transcript that were printed since the last clear. -/
def onScreen (events : List ConsoleEvent) : List StyledText := events.foldl ConsoleEvent.after []

theorem onScreen_append (events more : List ConsoleEvent) :
    onScreen (events ++ more) = more.foldl ConsoleEvent.after (onScreen events) := List.foldl_append

theorem foldl_after_printLines (lines : List String) (shown : List StyledText) :
    (Screen.printLines lines).foldl ConsoleEvent.after shown = shown ++ lines.map renderLine := by
  induction lines generalizing shown with
  | nil => simp [Screen.printLines]
  | cons line lines ih =>
      have hline : ConsoleEvent.after shown (.print (renderLine line)) = shown ++ [renderLine line] := by
        simp [ConsoleEvent.after, style_renderLine]
      calc (Screen.printLines (line :: lines)).foldl ConsoleEvent.after shown
        _ = (Screen.printLines lines).foldl ConsoleEvent.after (shown ++ [renderLine line]) := by
          rw [← hline]
          rfl
        _ = shown ++ (line :: lines).map renderLine := by simp [ih]

theorem clear_not_mem_printLines (lines : List String) : ConsoleEvent.clear ∉ Screen.printLines lines := by
  simp [Screen.printLines]

/-! ## One transcript after the other -/

namespace Screen

variable (screen : Screen) (snapshot : List String)

@[simp] theorem printed_present : (screen.present snapshot).2.printed = snapshot := by
  unfold present
  split
  · rfl
  · rfl

theorem clear_mem_present_iff : .clear ∈ (screen.present snapshot).1 ↔ ¬screen.printed <+: snapshot := by
  rw [← List.isPrefixOf_iff_prefix]
  unfold present
  split
  · rename_i h
    simp [clear_not_mem_printLines, h]
  · rename_i h
    simp [redraw, h]

theorem foldl_after_present : (screen.present snapshot).1.foldl ConsoleEvent.after (screen.printed.map renderLine) =
    snapshot.map renderLine := by
  unfold present
  split
  · rename_i h
    obtain ⟨more, rfl⟩ := List.isPrefixOf_iff_prefix.mp h
    rw [foldl_after_printLines, List.drop_left, List.map_append]
  · exact foldl_after_printLines snapshot []

theorem foldl_after_presentAll (snapshots : List (List String)) :
    (presentAll (snapshots ++ [snapshot]) screen).flatten.foldl ConsoleEvent.after (screen.printed.map renderLine) =
      snapshot.map renderLine := by
  induction snapshots generalizing screen with
  | nil =>
      simp only [List.nil_append, presentAll, List.flatten_cons, List.flatten_nil, List.append_nil]
      exact foldl_after_present screen snapshot
  | cons first rest ih =>
      have hrest := ih (screen.present first).2
      rw [printed_present] at hrest
      simp only [List.cons_append, presentAll, List.flatten_cons, List.foldl_append]
      rw [foldl_after_present, hrest]

/-- After any transcripts the screen shows the last. -/
theorem onScreen_presentAll (snapshots : List (List String)) :
    onScreen (presentAll (snapshots ++ [snapshot]) {}).flatten = snapshot.map renderLine :=
  foldl_after_presentAll {} snapshot snapshots

end Screen

/-! ## A console that follows -/

/-- The events of a console that has shown one transcript after the other, of which the last is `lines`. -/
inductive Portrays : List ConsoleEvent → List String → Prop
  | opened (theme : Theme) : Portrays [.opened theme] []
  | aside {events : List ConsoleEvent} {lines : List String} (event : ConsoleEvent) (h : Portrays events lines)
      (haside : event.isAside = true) : Portrays (events ++ [event]) lines
  | extended {events : List ConsoleEvent} {lines : List String} (more : List String) (h : Portrays events lines) :
      Portrays (events ++ Screen.printLines more) (lines ++ more)
  | redrawn {events : List ConsoleEvent} {lines : List String} (snapshot : List String) (h : Portrays events lines)
      (hnew : ¬lines <+: snapshot) : Portrays (events ++ .clear :: Screen.printLines snapshot) snapshot
  | recoloured {events : List ConsoleEvent} {lines : List String} (theme : Theme) (h : Portrays events lines) :
      Portrays (events ++ .changeTheme theme :: .clear :: Screen.printLines lines) lines

namespace Portrays

variable {events : List ConsoleEvent} {lines : List String}

theorem onScreen (h : Portrays events lines) : onScreen events = lines.map renderLine := by
  induction h with
  | opened theme => rfl
  | aside event h haside ih =>
      rw [onScreen_append, ih]
      cases event with
      | print text =>
          have hstyle : text.style ≠ "" := by simpa [ConsoleEvent.isAside] using haside
          simp [ConsoleEvent.after, hstyle]
      | clear => cases haside
      | _ => rfl
  | extended more h ih => rw [onScreen_append, ih, foldl_after_printLines, List.map_append]
  | redrawn snapshot h hnew ih =>
      rw [onScreen_append, List.foldl_cons]
      exact foldl_after_printLines snapshot []
  | recoloured theme h ih =>
      rw [onScreen_append, List.foldl_cons, List.foldl_cons]
      exact foldl_after_printLines _ []

theorem present {screen : Screen} (h : Portrays events screen.printed) (snapshot : List String) :
    Portrays (events ++ (screen.present snapshot).1) snapshot := by
  unfold Screen.present
  split
  · rename_i hold
    obtain ⟨more, rfl⟩ := List.isPrefixOf_iff_prefix.mp hold
    rw [List.drop_left]
    exact h.extended more
  · rename_i hnew
    exact h.redrawn snapshot fun hold => hnew (List.isPrefixOf_iff_prefix.mpr hold)

end Portrays

/-! ## When it is cleared -/

theorem clear_of_append {front tail before later : List ConsoleEvent} (htail : .clear ∉ tail)
    (h : front ++ tail = before ++ .clear :: later) :
    ∃ rest, front = before ++ .clear :: rest ∧ later = rest ++ tail := by
  rcases List.append_eq_append_iff.mp h with ⟨middle, rfl, rfl⟩ | ⟨middle, rfl, hlater⟩
  · exact absurd (List.mem_append_right _ List.mem_cons_self) htail
  · cases middle with
    | nil =>
        refine absurd ?_ htail
        rw [← List.nil_append tail, ← hlater]
        exact List.mem_cons_self
    | cons event rest =>
        obtain ⟨rfl, rfl⟩ := List.cons.inj hlater
        exact ⟨rest, rfl, rfl⟩

theorem clear_of_append_clear {front tail before later : List ConsoleEvent} (htail : .clear ∉ tail)
    (h : front ++ .clear :: tail = before ++ .clear :: later) :
    (before = front ∧ later = tail) ∨ ∃ rest, front = before ++ .clear :: rest ∧ later = rest ++ .clear :: tail := by
  rw [List.append_cons front] at h
  obtain ⟨rest, hfront, rfl⟩ := clear_of_append htail h
  rcases List.eq_nil_or_concat rest with rfl | ⟨rest, last, rfl⟩
  · exact .inl ⟨(List.append_cancel_right hfront).symm, rfl⟩
  · rw [List.concat_eq_append, ← List.cons_append, ← List.append_assoc] at hfront
    obtain ⟨rfl, hlast⟩ := List.append_inj' hfront rfl
    obtain rfl : .clear = last := by simpa using hlast
    exact .inr ⟨rest, rfl, by simp⟩

/-- What a screen may be cleared for: a change of the theme, or a transcript that does not extend the one shown. -/
def ClearedFor (before later : List ConsoleEvent) : Prop :=
  (∃ front theme, before = front ++ [.changeTheme theme]) ∨
    ∃ shown snapshot, Portrays before shown ∧ ¬shown <+: snapshot ∧ Screen.printLines snapshot <+: later

theorem ClearedFor.append {before later : List ConsoleEvent} (h : ClearedFor before later) (more : List ConsoleEvent) :
    ClearedFor before (later ++ more) := by
  rcases h with h | ⟨shown, snapshot, hshown, hnew, hprefix⟩
  · exact .inl h
  · exact .inr ⟨shown, snapshot, hshown, hnew, hprefix.trans (List.prefix_append later more)⟩

theorem Portrays.cleared {events : List ConsoleEvent} {lines : List String} (h : Portrays events lines)
    {before later : List ConsoleEvent} (hclear : events = before ++ .clear :: later) : ClearedFor before later := by
  -- the clearing belongs to the last step, or it stands among the events before
  induction h generalizing later with
  | opened theme =>
      obtain ⟨rest, hnil, -⟩ := clear_of_append (by simp) (List.nil_append [ConsoleEvent.opened theme] |>.trans hclear)
      simp at hnil
  | aside event h haside ih =>
      have hevent : ConsoleEvent.clear ∉ [event] := by
        intro hmem
        obtain rfl := List.mem_singleton.mp hmem
        cases haside
      obtain ⟨rest, hevents, rfl⟩ := clear_of_append hevent hclear
      exact (ih hevents).append [event]
  | extended more h ih =>
      obtain ⟨rest, hevents, rfl⟩ := clear_of_append (clear_not_mem_printLines more) hclear
      exact (ih hevents).append _
  | redrawn snapshot h hnew ih =>
      rcases clear_of_append_clear (clear_not_mem_printLines snapshot) hclear with ⟨rfl, rfl⟩ | ⟨rest, hevents, rfl⟩
      · exact .inr ⟨_, snapshot, h, hnew, List.prefix_rfl⟩
      · exact (ih hevents).append _
  | recoloured theme h ih =>
      rename_i front shown
      rw [List.append_cons] at hclear
      rcases clear_of_append_clear (clear_not_mem_printLines shown) hclear with ⟨rfl, rfl⟩ | ⟨rest, hfront, rfl⟩
      · exact .inl ⟨front, theme, rfl⟩
      · obtain ⟨rest, hevents, rfl⟩ := clear_of_append (by simp) hfront
        exact ((ih hevents).append _).append _

end LineShell
