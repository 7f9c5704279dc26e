import LineShell.Proofs.Chain
import LineShell.Proofs.Errands

/-!
# What commands leave alone

Where every handler leads from a terminal to a related one, statements do so too, whatever they call. In particular
a part of the terminal that no handler changes is not changed by statements either.
-/

namespace LineShell

open Terminal

/-! ## Around the statements -/

namespace Terminal.Told

theorem record (output : String) (t : Terminal) : Told typedPart t (t.record output) := by
  unfold Terminal.record
  split
  · exact refl _ t
  · exact append output t

theorem echo (text : String) (t : Terminal) :
    Told typedPart (t.modifySession (.remember text)) (Registry.echo text t) :=
  (append _ _).trans (noteAll _ _ _)

end Terminal.Told

/-! ## Statements -/

namespace Registry

/-- Commands of the registry lead from a terminal only to related ones, and so does the journal. -/
structure Carries (r : Registry) (related : Terminal → Terminal → Prop) : Prop where
  refl : ∀ t, related t t
  trans : ∀ {t u v}, related t u → related u v → related t v
  noteAll : ∀ entries t, related t (t.noteAll entries)
  handler : ∀ c ∈ r.commands, ∀ call t, related t (c.handler call t).2

namespace Carries

variable {r : Registry} {related : Terminal → Terminal → Prop}

theorem call (h : r.Carries related) {name : String} {c : Command} (hc : r.find? name = some c) (args : List String)
    (t : Terminal) : related t (r.call c args t).2 := by
  obtain ⟨entries, hcall⟩ := r.call_eq c args t
  rw [hcall]
  exact h.trans (h.handler c (mem_of_find? hc).1 _ t) (h.noteAll entries _)

theorem runFirst (h : r.Carries related) (stage : Stage) (t : Terminal) : related t (r.runFirst stage t).2 := by
  rcases Option.eq_none_or_eq_some (r.find? stage.name) with hc | ⟨c, hc⟩
  · rw [Registry.runFirst, get_of_none hc]
    exact h.refl t
  · rw [Registry.runFirst, get_of_some hc]
    exact h.call hc stage.args t

theorem runStatement (h : r.Carries related) (statement : Statement) (t : Terminal) :
    related t (r.runStatement statement t).2 := by
  cases statement with
  | pipeline first rest =>
      obtain ⟨entries, hrest⟩ := r.runRest_eq rest (r.runFirst first t).1 (r.runFirst first t).2
      simp only [Registry.runStatement]
      rw [hrest]
      exact h.trans (h.runFirst first t) (h.noteAll entries _)
  | single stage =>
      rcases Option.eq_none_or_eq_some (r.find? stage.name) with hc | ⟨c, hc⟩
      · rw [Registry.runStatement, get_of_none hc]
        exact h.noteAll _ t
      · rw [Registry.runStatement, get_of_some hc]
        exact h.call hc stage.args t

theorem runStatements (h : r.Carries related) (statements : List Statement) (t : Terminal) :
    related t (r.runStatements statements t).2 := by
  induction statements generalizing t with
  | nil => exact h.refl t
  | cons statement rest ih => exact h.trans (h.runStatement statement t) (ih _)

/-- Lines lead where their commands lead, if it is the desk that matters. -/
theorem execute (h : r.Carries related) (hdesk : ∀ {t u}, u.desk = t.desk → related t u) (typed : String)
    (t : Terminal) : related t (r.execute typed t).2 := by
  unfold Registry.execute
  cases Line.parse typed with
  | blank => exact h.refl t
  | clear =>
      have hclear : related t (r.runClear t).2 := by
        unfold runClear
        split
        · exact hdesk (Told.clear t).desk
        · rename_i c hc
          exact h.call hc [] t
      exact h.trans hclear (hdesk (desk_resetCursor _))
  | run text statements =>
      have hran := h.trans (hdesk (desk_echo text t)) (h.runStatements statements _)
      exact h.trans hran (hdesk ((desk_resetCursor _).trans (desk_record _ _)))

end Carries

/-- No command of the registry changes what the view sees, and neither does the journal. -/
structure Spares (r : Registry) (view : Terminal → β) : Prop where
  unjournaled : Unjournaled view
  handler : ∀ c ∈ r.commands, ∀ call t, view (c.handler call t).2 = view t

theorem Spares.carries {r : Registry} {view : Terminal → β} (h : r.Spares view) :
    r.Carries fun t u => view u = view t where
  refl _ := rfl
  trans h h' := h'.trans h
  noteAll := h.unjournaled
  handler := h.handler

theorem Spares.execute {r : Registry} {view : Terminal → β} (h : r.Spares view)
    (hdesk : ∀ {t u : Terminal}, u.desk = t.desk → view u = view t) (typed : String) (t : Terminal) :
    view (r.execute typed t).2 = view t := h.carries.execute hdesk typed t

/-! ## The catalog -/

theorem spares_commands_standard (entries : List FileEntry) (endpoints : Endpoints) :
    (standard entries endpoints).Spares fun t => t.session.commands where
  unjournaled _ _ := rfl
  handler c hc call t := by
    rcases atDesk_catalog entries endpoints c hc with ⟨-, h⟩ | ⟨-, h⟩ | ⟨-, -, h⟩
    · rw [h]
      exact congrArg Prod.fst (Told.clear t).session
    · rw [h]
      rfl
    · exact congrArg Display.commands ((h call).display t)

theorem spares_wiring_standard (entries : List FileEntry) (endpoints : Endpoints) :
    (standard entries endpoints).Spares Terminal.wiring where
  unjournaled _ _ := rfl
  handler c hc call t := by
    rcases asked_catalog entries endpoints c hc with h | h | h
    · rw [h]
      exact wiring_eq_of_desk_eq (Told.clear t).desk
    · rw [h]
      unfold Builtin.cd
      split
      · rfl
      · split
        · rfl
        · rfl
    · exact (h call t).wiring

end Registry

end LineShell
