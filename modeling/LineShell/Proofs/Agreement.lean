import LineShell.Proofs.Pipeline
import LineShell.Proofs.Terminal.Views

/-!
# Agreement of runs

Two runs from terminals that look the same, each with its registry. If the commands that are called agree
and every stage reads alike, the runs say the same and the terminals still look the same.
-/

namespace LineShell

open Terminal

variable {view : Terminal → β}

namespace Same

theorem trans {x y z : α × Terminal} (h : Same view x y) (h' : Same view y z) : Same view x z :=
  ⟨h.1.trans h'.1, h.2.trans h'.2⟩

theorem symm {x y : α × Terminal} (h : Same view x y) : Same view y x := ⟨h.1.symm, h.2.symm⟩

end Same

/-! ## Calls -/

def Command.said (c : Command) : Except Failure (Option String) → String
  | .ok output => output.getD ""
  | .error failure => failure.screenLine c.name

/-- A call says what the handler comes to, and adds to what it does only to the journal. -/
theorem Registry.call_eq (r : Registry) (c : Command) (args : List String) (t : Terminal) :
    ∃ entries, r.call c args t = (c.said (c.handler { args, known := r.summaries } t).1,
      (c.handler { args, known := r.summaries } t).2.noteAll entries) := by
  unfold Registry.call
  rcases c.handler { args, known := r.summaries } t with ⟨output, t'⟩
  cases output with
  | ok output => exact ⟨[], by rw [noteAll_nil]; rfl⟩
  | error failure => exact ⟨_, rfl⟩

def Unjournaled (view : Terminal → β) : Prop := ∀ entries t, view (Terminal.noteAll entries t) = view t

/-- Calls look the same where the handlers look the same and what they come to is said alike. -/
theorem Registry.call_same (hview : Unjournaled view) {r r' : Registry} {c c' : Command} {args : List String}
    {t u : Terminal}
    (hsaid : c.said (c.handler { args, known := r.summaries } t).1 =
      c'.said (c'.handler { args, known := r'.summaries } u).1)
    (hterminal : view (c.handler { args, known := r.summaries } t).2 =
      view (c'.handler { args, known := r'.summaries } u).2) :
    Same view (r.call c args t) (r'.call c' args u) := by
  obtain ⟨entries, h⟩ := r.call_eq c args t
  obtain ⟨entries', h'⟩ := r'.call_eq c' args u
  rw [h, h']
  exact ⟨hsaid, by rw [hview, hview, hterminal]⟩

/-! ## Statements -/

/-- Calling the command of the name looks the same in both registries. -/
def Registry.Agree (view : Terminal → β) (r r' : Registry) (name : String) : Prop :=
  (r.find? name = none ∧ r'.find? name = none) ∨
  ∃ c c', r.find? name = some c ∧ r'.find? name = some c' ∧
    ∀ args t u, view t = view u → Same view (r.call c args t) (r'.call c' args u)

namespace Registry

variable {r r' : Registry} {t u : Terminal}

theorem agree_self (hview : Unjournaled view) {name : String}
    (h : ∀ c, r.find? name = some c → Handler.Respects view c.handler) : Agree view r r name := by
  rcases Option.eq_none_or_eq_some (r.find? name) with hc | ⟨c, hc⟩
  · exact .inl ⟨hc, hc⟩
  · refine .inr ⟨c, c, hc, hc, fun args t u ht => ?_⟩
    obtain ⟨houtput, hterminal⟩ := h c hc { args, known := r.summaries } t u ht
    exact call_same hview (congrArg c.said houtput) hterminal

theorem Agree.runFirst {stage : Stage} (h : Agree view r r' stage.name) (ht : view t = view u) :
    Same view (r.runFirst stage t) (r'.runFirst stage u) := by
  rcases h with ⟨hc, hc'⟩ | ⟨c, c', hc, hc', hcall⟩
  · simp only [Registry.runFirst, get_of_none hc, get_of_none hc']
    exact ⟨rfl, ht⟩
  · simp only [Registry.runFirst, get_of_some hc, get_of_some hc']
    exact hcall _ _ _ ht

theorem runRest_same (hview : Unjournaled view) (hread : r.read = r'.read) (stages : List Stage) (text : String)
    (ht : view t = view u) : Same view (r.runRest stages text t) (r'.runRest stages text u) := by
  obtain ⟨entries, h⟩ := r.runRest_eq stages text t
  obtain ⟨entries', h'⟩ := r'.runRest_eq stages text u
  rw [h, h', hread]
  exact ⟨rfl, by rw [hview, hview, ht]⟩

theorem Agree.runStatement (hview : Unjournaled view) (hread : r.read = r'.read) {statement : Statement}
    (h : Agree view r r' statement.first.name) (ht : view t = view u) :
    Same view (r.runStatement statement t) (r'.runStatement statement u) := by
  cases statement with
  | pipeline first rest =>
      change Agree view r r' first.name at h
      obtain ⟨htext, hterminal⟩ := Agree.runFirst h ht
      simp only [Registry.runStatement]
      rw [htext]
      exact runRest_same hview hread rest _ hterminal
  | single stage =>
      change Agree view r r' stage.name at h
      rcases h with ⟨hc, hc'⟩ | ⟨c, c', hc, hc', hcall⟩
      · simp only [Registry.runStatement, get_of_none hc, get_of_none hc']
        refine ⟨rfl, ?_⟩
        rw [Terminal.note, Terminal.note, hview, hview, ht]
      · simp only [Registry.runStatement, get_of_some hc, get_of_some hc']
        exact hcall _ _ _ ht

theorem runStatements_same (hview : Unjournaled view) (hread : r.read = r'.read) {statements : List Statement}
    (h : ∀ statement ∈ statements, Agree view r r' statement.first.name) (ht : view t = view u) :
    Same view (r.runStatements statements t) (r'.runStatements statements u) := by
  induction statements generalizing t u with
  | nil => exact ⟨rfl, ht⟩
  | cons statement rest ih =>
      obtain ⟨hfirst, hrest⟩ := List.forall_mem_cons.mp h
      obtain ⟨htext, hterminal⟩ := Agree.runStatement hview hread hfirst ht
      obtain ⟨htexts, hend⟩ := ih hrest hterminal
      simp only [runStatements]
      exact ⟨by rw [htext, htexts], hend⟩

theorem runStatements_append (r : Registry) (first later : List Statement) (t : Terminal) :
    r.runStatements (first ++ later) t =
      ((r.runStatements first t).1 ++ (r.runStatements later (r.runStatements first t).2).1,
        (r.runStatements later (r.runStatements first t).2).2) := by
  induction first generalizing t with
  | nil => rfl
  | cons statement rest ih =>
      simp only [List.cons_append, runStatements]
      rw [ih]

theorem length_runStatements (r : Registry) (statements : List Statement) (t : Terminal) :
    (r.runStatements statements t).1.length = statements.length := by
  induction statements generalizing t with
  | nil => rfl
  | cons statement rest ih =>
      simp only [runStatements, List.length_cons]
      rw [ih]

end Registry

/-! ## Lines -/

/-- A view that is kept by all that a line does besides its statements. -/
structure LineView (view : Terminal → β) : Prop where
  unjournaled : Unjournaled view
  echo : ∀ text {t u}, view t = view u → view (Registry.echo text t) = view (Registry.echo text u)
  append : ∀ line {t u}, view t = view u → view (t.append line) = view (u.append line)
  clear : ∀ {t u : Terminal}, view t = view u → view t.clear = view u.clear
  resetCursor : ∀ {t u}, view t = view u →
    view (t.modifySession .resetCursor) = view (u.modifySession .resetCursor)

namespace LineView

variable {r r' : Registry} {t u : Terminal}

theorem record (hview : LineView view) (output : String) (ht : view t = view u) :
    view (t.record output) = view (u.record output) := by
  unfold Terminal.record
  split
  · exact ht
  · exact hview.append output ht

theorem runClear (hview : LineView view) (h : Registry.Agree view r r' clearWord) (ht : view t = view u) :
    Same view (r.runClear t) (r'.runClear u) := by
  rcases h with ⟨hc, hc'⟩ | ⟨c, c', hc, hc', hcall⟩
  · simp only [Registry.runClear, hc, hc']
    exact ⟨rfl, hview.clear ht⟩
  · simp only [Registry.runClear, hc, hc']
    exact hcall _ _ _ ht

theorem execute (hview : LineView view) (hread : r.read = r'.read) (h : ∀ name, Registry.Agree view r r' name)
    (typed : String) (ht : view t = view u) : Same view (r.execute typed t) (r'.execute typed u) := by
  unfold Registry.execute
  cases Line.parse typed with
  | blank => exact ⟨rfl, ht⟩
  | clear =>
      obtain ⟨htext, hterminal⟩ := hview.runClear (h clearWord) ht
      exact ⟨htext, hview.resetCursor hterminal⟩
  | run text statements =>
      obtain ⟨htexts, hterminal⟩ := Registry.runStatements_same hview.unjournaled hread
        (fun statement _ => h statement.first.name) (hview.echo text ht)
      simp only [Registry.runLine]
      rw [htexts]
      exact ⟨rfl, hview.resetCursor (hview.record _ hterminal)⟩

theorem executeAll (hview : LineView view) (hread : r.read = r'.read) (h : ∀ name, Registry.Agree view r r' name)
    (inputs : List String) (ht : view t = view u) : Same view (r.executeAll inputs t) (r'.executeAll inputs u) := by
  induction inputs generalizing t u with
  | nil => exact ⟨rfl, ht⟩
  | cons typed rest ih =>
      obtain ⟨hsaid, hterminal⟩ := hview.execute hread h typed ht
      obtain ⟨hrest, hend⟩ := ih hterminal
      simp only [Registry.executeAll]
      exact ⟨by rw [hsaid, hrest], hend⟩

end LineView

/-! ## One line more -/

theorem Registry.executeAll_concat (r : Registry) (inputs : List String) (typed : String) (t : Terminal) :
    r.executeAll (inputs ++ [typed]) t =
      ((r.executeAll inputs t).1 ++ [(r.execute typed (r.executeAll inputs t).2).1],
        (r.execute typed (r.executeAll inputs t).2).2) := by
  induction inputs generalizing t with
  | nil => simp only [List.nil_append, executeAll]
  | cons first rest ih =>
      simp only [List.cons_append, executeAll]
      rw [ih]

/-! ## The line being typed -/

theorem Registry.cursor_execute (r : Registry) {typed : String} (h : Text.strip typed ≠ "") (t : Terminal) :
    (r.execute typed t).2.session.cursor = none := by
  by_cases hc : Text.strip typed = clearWord
  · rw [r.execute_of_clear hc]
    rfl
  · rw [r.execute_of_run h hc]
    rfl

theorem Registry.cursor_executeAll (r : Registry) (inputs : List String) (t : Terminal)
    (h : t.session.cursor = none ∨ ∃ typed ∈ inputs, Text.strip typed ≠ "") :
    (r.executeAll inputs t).2.session.cursor = none := by
  induction inputs generalizing t with
  | nil =>
      rcases h with h | ⟨_, h, -⟩
      · exact h
      · exact absurd h List.not_mem_nil
  | cons typed rest ih =>
      rw [executeAll]
      apply ih
      by_cases hb : Text.strip typed = ""
      · rw [r.execute_of_blank hb]
        rcases h with h | ⟨typed', hmem, hne⟩
        · exact .inl h
        · rcases List.mem_cons.mp hmem with rfl | hmem
          · exact absurd hb hne
          · exact .inr ⟨typed', hmem, hne⟩
      · exact .inl (r.cursor_execute hb t)

end LineShell
