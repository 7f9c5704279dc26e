import LineShell.Proofs.Agreement
import LineShell.Proofs.Terminal.Showing

/-!
# Absorption of failures

A command that fails does as much as one that makes the same changes and says the line of the failure.
So a failure stops neither the line nor the stages and statements after it.
-/

namespace LineShell

open Terminal

/-! ## Commands that say their failures -/

/-- The command that says the line of a failure where the given one fails. -/
def Command.absorbing (c : Command) : Command where
  summary := c.summary
  handler := fun call t =>
    match c.handler call t with
    | (.ok output, t) => (.ok output, t)
    | (.error failure, t) => (.ok (some (failure.screenLine c.name)), t)
  filter := c.filter.map fun filter args text =>
    match filter args text with
    | .ok output => .ok output
    | .error failure => .ok (failure.screenLine c.name)

def Registry.absorbing (r : Registry) : Registry := r.map Command.absorbing

/-- A command that never fails, called or reading. -/
structure Command.Unfailing (c : Command) : Prop where
  handler : ∀ call t, ∃ output, (c.handler call t).1 = .ok output
  filter : ∀ filter, c.filter = some filter → ∀ args text, ∃ output, filter args text = .ok output

namespace Command

theorem unfailing_absorbing (c : Command) : c.absorbing.Unfailing where
  handler call t := by
    simp only [absorbing]
    split
    · exact ⟨_, rfl⟩
    · exact ⟨_, rfl⟩
  filter filter hf args text := by
    obtain ⟨g, _, rfl⟩ := Option.map_eq_some_iff.mp hf
    dsimp only
    split
    · exact ⟨_, rfl⟩
    · exact ⟨_, rfl⟩

theorem said_absorbing (c : Command) (call : Call) (t : Terminal) :
    c.absorbing.said (c.absorbing.handler call t).1 = c.said (c.handler call t).1 ∧
    (c.absorbing.handler call t).2 = (c.handler call t).2 := by
  simp only [absorbing]
  rcases c.handler call t with ⟨output, t'⟩
  cases output with
  | ok output => exact ⟨rfl, rfl⟩
  | error failure => exact ⟨rfl, rfl⟩

theorem read_absorbing (c : Command) : c.absorbing.read = c.read := by
  funext args text
  cases hf : c.filter with
  | none => simp only [read, absorbing, hf, Option.map_none, name]
  | some filter =>
      simp only [read, absorbing, hf, Option.map_some, name]
      cases filter args text with
      | ok output => rfl
      | error failure => rfl

end Command

/-! ## Lines in both registries -/

namespace Registry

theorem unfailing_absorbing (r : Registry) : ∀ c ∈ r.absorbing.commands, c.Unfailing := by
  intro c hc
  obtain ⟨c, _, rfl⟩ := List.mem_map.mp hc
  exact c.unfailing_absorbing

theorem read_absorbing (r : Registry) : r.absorbing.read = r.read := by
  funext text stage
  have hfind := find?_map (f := Command.absorbing) (fun _ => rfl) stage.name r
  rcases Option.eq_none_or_eq_some (r.find? stage.name) with hc | ⟨c, hc⟩
  · rw [Registry.read, Registry.read, absorbing, hfind, hc]
    rfl
  · rw [Registry.read, Registry.read, absorbing, hfind, hc]
    exact congrFun (congrFun c.read_absorbing stage.args) text

theorem call_absorbing (r : Registry) {c : Command} (hc : Handler.Respects unlogged c.handler)
    (args : List String) {t u : Terminal} (ht : t.unlogged = u.unlogged) :
    Same unlogged (r.call c args t) (r.absorbing.call c.absorbing args u) := by
  have hs : r.absorbing.summaries = r.summaries := summaries_map (f := Command.absorbing) (fun _ => rfl) r
  obtain ⟨houtput, hterminal⟩ := hc { args, known := r.summaries } t u ht
  obtain ⟨hsaid, hleft⟩ := c.said_absorbing { args, known := r.summaries } u
  refine call_same (fun _ _ => rfl) ?_ ?_
  · rw [hs, hsaid, houtput]
  · rw [hs, hleft, hterminal]

theorem agree_absorbing {r : Registry} (hr : ∀ c ∈ r.commands, Handler.Respects unlogged c.handler)
    (name : String) : Agree unlogged r r.absorbing name := by
  have hfind := find?_map (f := Command.absorbing) (fun _ => rfl) name r
  rcases Option.eq_none_or_eq_some (r.find? name) with hc | ⟨c, hc⟩
  · refine .inl ⟨hc, ?_⟩
    rw [absorbing, hfind, hc]
    rfl
  · refine .inr ⟨c, c.absorbing, hc, ?_, fun args t u ht => ?_⟩
    · rw [absorbing, hfind, hc]
      rfl
    · exact r.call_absorbing (hr c (mem_of_find? hc).1) args ht

end Registry

theorem lineView_unlogged : LineView unlogged where
  unjournaled _ _ := rfl
  echo text t u ht := by
    have hs := session_eq_of_unlogged_eq ht
    have hprompt : (t.modifySession (.remember text)).session.prompt =
        (u.modifySession (.remember text)).session.prompt := by
      simp only [modifySession, hs]
    simp only [Registry.echo, unlogged_note, hprompt]
    exact Unread.append _ (Unread.modifySession (Session.remember text) ht)
  append line _ _ ht := Unread.append line ht
  clear ht := Unread.clear ht
  resetCursor ht := Unread.modifySession _ ht

/-- The line goes as with commands that make the same changes and say their failures: it says the same and
leaves all but the journal the same. Every statement and every later stage has its turn, and the line being
typed is current again. Commands are not given the journal, so they do not read it. -/
theorem Registry.execute_absorbing (r : Registry)
    (hr : ∀ c ∈ r.commands, Handler.Respects unlogged c.handler) (typed : String) (t : Terminal) :
    (r.execute typed t).1 = (r.absorbing.execute typed t).1 ∧
    (r.execute typed t).2.session = (r.absorbing.execute typed t).2.session ∧
    (r.execute typed t).2.unlogged = (r.absorbing.execute typed t).2.unlogged ∧
    (Text.strip typed ≠ "" → (r.execute typed t).2.session.cursor = none) ∧
    (∀ c ∈ r.absorbing.commands, c.Unfailing) ∧
    (∀ statements u, (r.runStatements statements u).1.length = statements.length) ∧
    (∀ first rest u, (r.runStatement (.pipeline first rest) u).1 = rest.foldl r.read (r.runFirst first u).1) := by
  obtain ⟨houtput, hterminal⟩ := lineView_unlogged.execute r.read_absorbing.symm
    (agree_absorbing hr) typed (rfl : t.unlogged = t.unlogged)
  refine ⟨houtput, session_eq_of_unlogged_eq hterminal, hterminal, fun h => r.cursor_execute h t,
    r.unfailing_absorbing, r.length_runStatements, r.runStatement_pipeline_fst⟩

def faltering : Command where
  summary := { name := "fall" }
  handler := fun _ t => (.error (.terminal "gone"), t.modifySession fun s => { s with directory := home })
  filter := some fun _ text => .error (.unexpected "ValueError" text)

theorem Registry.execute_absorbing_faltering :
    (Registry.execute ⟨[faltering]⟩ "fall; fall | fall" {}).1 = "gone\nfall: errore - gone" ∧
    (Registry.execute (Registry.absorbing ⟨[faltering]⟩) "fall; fall | fall" {}).1 = "gone\nfall: errore - gone" ∧
    (Registry.execute ⟨[faltering]⟩ "fall; fall | fall" {}).2.session.cursor = none := by
  have hr : ∀ c ∈ (⟨[faltering]⟩ : Registry).commands, Handler.Respects unlogged c.handler := by
    intro c hc call t u ht
    obtain rfl := List.mem_singleton.mp hc
    exact ⟨rfl, Unread.modifySession _ ht⟩
  obtain ⟨houtput, -, -, hcursor, -⟩ := execute_absorbing ⟨[faltering]⟩ hr "fall; fall | fall" {}
  have htext : (Registry.execute ⟨[faltering]⟩ "fall; fall | fall" {}).1 = "gone\nfall: errore - gone" := by
    decide +kernel
  exact ⟨htext, houtput.symm.trans htext, hcursor (by decide +kernel)⟩

end LineShell
