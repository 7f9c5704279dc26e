import LineShell.Proofs.Catalog

/-!
# What is shown is never read

Lines say and do the same whatever is on the screen, wherever the cursor is and whoever watches: all that they
read is on the desk and among the typed lines.
-/

namespace LineShell

open Terminal

/-! ## All that lines read -/

namespace Terminal

def work (t : Terminal) : Desk × List String := (t.desk, t.session.commands)

variable {t u : Terminal}

theorem Told.work (h : Told typedPart t u) : u.work = t.work := Prod.ext h.desk (congrArg Prod.fst h.session)

theorem work_remember (text : String) (h : t.work = u.work) :
    (t.modifySession (.remember text)).work = (u.modifySession (.remember text)).work := by
  obtain ⟨hdesk, hcommands⟩ := Prod.mk.inj h
  refine Prod.ext hdesk ?_
  change (t.session.remember text).commands = (u.session.remember text).commands
  simp only [Session.remember, hcommands]

end Terminal

theorem lineView_work : LineView work where
  unjournaled _ _ := rfl
  echo text t u ht := by
    have htold := fun t : Terminal =>
      (Told.append s!"{(t.modifySession (.remember text)).session.prompt} {text}"
        (t.modifySession (.remember text))).work
    exact ((htold t).trans (work_remember text ht)).trans (htold u).symm
  append line t u ht := by rw [(Told.append line t).work, (Told.append line u).work, ht]
  clear {t u} ht := by rw [(Told.clear t).work, (Told.clear u).work, ht]
  resetCursor ht := ht

/-! ## Commands -/

theorem Command.AtDesk.respects_work {c : Command} (h : c.AtDesk) : Handler.Respects work c.handler := by
  intro call t u ht
  obtain ⟨hdesk, hcommands⟩ := Prod.mk.inj ht
  rcases h with ⟨-, hc⟩ | ⟨-, hc⟩ | ⟨-, -, hc⟩
  · rw [hc]
    exact ⟨rfl, by rw [Builtin.clear, Builtin.clear, (Told.clear t).work, (Told.clear u).work, ht]⟩
  · rw [hc]
    exact ⟨by simp only [Builtin.history, Handler.reading, hcommands], ht⟩
  · obtain ⟨houtput, hdesk'⟩ := (hc call).desk t u hdesk
    have hkept := fun t => congrArg Display.commands ((hc call).display t)
    exact ⟨houtput, Prod.ext hdesk' ((hkept t).trans (hcommands.trans (hkept u).symm))⟩

namespace Registry

variable (entries : List FileEntry) (endpoints : Endpoints) {t u : Terminal}

theorem agree_work (name : String) :
    Agree work (standard entries endpoints) (standard entries endpoints) name :=
  agree_self lineView_work.unjournaled fun c hc =>
    (atDesk_catalog entries endpoints c (mem_of_find? hc).1).respects_work

/-! ## Lines one after the other -/

/-- Two terminals with the same desk and the same typed lines, whatever they show, wherever their cursors are and
whoever watches them, answer any lines alike. They send the same requests and come to the same desk and the same
typed lines, and after one line that is not blank their cursors agree as well. -/
theorem execute_unseen (inputs : List String) (hdesk : t.desk = u.desk)
    (hcommands : t.session.commands = u.session.commands) :
    let x := (standard entries endpoints).executeAll inputs t
    let y := (standard entries endpoints).executeAll inputs u
    x.1 = y.1 ∧ x.2.sent = y.2.sent ∧ x.2.reached = y.2.reached ∧
    x.2.session.directory = y.2.session.directory ∧ x.2.session.commands = y.2.session.commands ∧
    x.2.desk = y.2.desk ∧
    ((∃ typed ∈ inputs, Text.strip typed ≠ "") → x.2.session.cursor = y.2.session.cursor) := by
  intro x y
  obtain ⟨hsaid, hwork⟩ := lineView_work.executeAll rfl (agree_work entries endpoints) inputs
    (Prod.ext hdesk hcommands : t.work = u.work)
  obtain ⟨hdesk', hcommands'⟩ := Prod.mk.inj hwork
  refine ⟨hsaid, congrArg Desk.sent hdesk', congrArg Desk.reached hdesk', congrArg Desk.directory hdesk',
    hcommands', hdesk', fun h => ?_⟩
  have hcursor := fun t => cursor_executeAll (standard entries endpoints) inputs t (.inr h)
  exact (hcursor t).trans (hcursor u).symm

/-- A terminal that shows something, with a cursor and an observer that fails. -/
def watched : Terminal where
  session := { transcript := ["hello"], cursor := some 3 }
  watchers := [{ observer := { name := "critic", react := fun _ _ => { failure := some "enough" } } }]

theorem execute_unseen_watched :
    let inputs := ["cd /tmp", "clear ; pwd", "history", "ping here"]
    let x := (standard [] ⟨"/api", "/entities", "here"⟩).executeAll inputs {}
    let y := (standard [] ⟨"/api", "/entities", "here"⟩).executeAll inputs watched
    x.1 = y.1 ∧ x.2.sent = y.2.sent ∧ x.2.session.cursor = y.2.session.cursor := by
  have hnonblank : ∃ typed ∈ ["cd /tmp", "clear ; pwd", "history", "ping here"], Text.strip typed ≠ "" :=
    ⟨"cd /tmp", List.mem_cons_self, by decide +kernel⟩
  obtain ⟨hsaid, hsent, -, -, -, -, hcursor⟩ := execute_unseen [] ⟨"/api", "/entities", "here"⟩
    ["cd /tmp", "clear ; pwd", "history", "ping here"] (t := {}) (u := watched) rfl rfl
  exact ⟨hsaid, hsent, hcursor hnonblank⟩

end Registry

end LineShell
