import LineShell.Proofs.Absorption
import LineShell.Proofs.Commands

/-!
# The catalog in a registry

What calling a command of the catalog keeps: at the desk all commands but `history` agree with themselves,
and none of them reads the journal, so that every line goes as if no command ever failed.
-/

namespace LineShell

open Terminal

/-! ## Work at the desk -/

theorem Offscreen.unlogged {f : Terminal → α × Terminal} (hf : Offscreen f) {t u : Terminal}
    (h : t.unlogged = u.unlogged) : Same Terminal.unlogged (f t) (f u) := by
  obtain ⟨hdesk, hdisplay⟩ := unlogged_eq_iff.mp h
  obtain ⟨hvalue, hdesk'⟩ := hf.desk t u hdesk
  refine ⟨hvalue, unlogged_eq_iff.mpr ⟨hdesk', ?_⟩⟩
  rw [hf.display, hf.display, hdisplay]

/-! ## Commands of the catalog -/

namespace Command.AtDesk

variable {c : Command}

theorem respects_desk (h : c.AtDesk) (hname : c.name ≠ "history") : Handler.Respects desk c.handler := by
  intro call t u ht
  rcases h with ⟨-, hc⟩ | ⟨hn, -⟩ | ⟨-, -, hc⟩
  · rw [hc]
    exact ⟨rfl, by rw [Builtin.clear, Builtin.clear, (Told.clear t).desk, (Told.clear u).desk, ht]⟩
  · exact absurd hn hname
  · exact (hc call).desk t u ht

theorem respects_unlogged (h : c.AtDesk) : Handler.Respects unlogged c.handler := by
  intro call t u ht
  rcases h with ⟨-, hc⟩ | ⟨-, hc⟩ | ⟨-, -, hc⟩
  · rw [hc]
    exact ⟨rfl, Unread.clear ht⟩
  · rw [hc]
    have hs := session_eq_of_unlogged_eq ht
    exact ⟨by simp only [Builtin.history, Handler.reading, hs], ht⟩
  · exact (hc call).unlogged ht

end Command.AtDesk

namespace Registry

variable (entries : List FileEntry) (endpoints : Endpoints)

theorem agree_standard {name : String} (h : name ≠ "history") :
    Agree desk (standard entries endpoints) (standard entries endpoints) name := by
  refine agree_self desk_noteAll fun c hc => ?_
  obtain ⟨hmem, rfl⟩ := mem_of_find? hc
  exact (atDesk_catalog entries endpoints c hmem).respects_desk h

/-- No command reads the journal. -/
theorem respects_standard : ∀ c ∈ (standard entries endpoints).commands, Handler.Respects unlogged c.handler :=
  fun c hc => (atDesk_catalog entries endpoints c hc).respects_unlogged

/-- Over the catalog a line says and does what it does over commands that say their failures and make the same
changes. -/
theorem same_absorbing_standard (typed : String) (t : Terminal) :
    Same unlogged ((standard entries endpoints).execute typed t)
      ((standard entries endpoints).absorbing.execute typed t) :=
  lineView_unlogged.execute (read_absorbing _).symm (agree_absorbing (respects_standard entries endpoints)) typed rfl

theorem find?_standard_clear : ∃ c, find? clearWord (standard entries endpoints) = some c ∧
    c.name = clearWord ∧ c.handler = Builtin.clear := ⟨_, rfl, rfl, rfl⟩

end Registry

end LineShell
