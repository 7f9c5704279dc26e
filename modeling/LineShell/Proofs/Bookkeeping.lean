import LineShell.Proofs.Catalog

/-!
# Bookkeeping

What a line leaves of itself among the typed lines and in the transcript. While nobody adds lines of his
own, the statements themselves only empty the transcript, and only where `clear` is called.
-/

namespace LineShell

open Terminal Text

/-! ## Bounded histories -/

/-- The list, or its newest `keep` entries where it is longer than `limit`. -/
def newest (limit keep : Nat) (entries : List α) : List α :=
  if limit < entries.length then entries.rtake keep else entries

theorem push_eq_newest (bound : Bound) (entries : List α) (entry : α) :
    bound.push entries entry = newest bound.limit bound.keep (entries ++ [entry]) := rfl

/-! ## What statements keep -/

/-- From `t` to `u` the typed lines stay and the transcript stays or is emptied; no watcher adds to it. -/
structure Kept (cleared : Bool) (t u : Terminal) : Prop where
  commands : u.session.commands = t.session.commands
  transcript : u.session.transcript = if cleared then [] else t.session.transcript
  quiet : u.Quiet

namespace Kept

variable {cleared cleared' : Bool} {t u v : Terminal}

theorem refl (hq : t.Quiet) : Kept false t t := ⟨rfl, rfl, hq⟩

theorem trans (h : Kept cleared t u) (h' : Kept cleared' u v) : Kept (cleared || cleared') t v where
  commands := h'.commands.trans h.commands
  transcript := by
    rw [h'.transcript, h.transcript]
    cases cleared <;> cases cleared' <;> rfl
  quiet := h'.quiet

theorem noteAll (h : Kept cleared t u) (entries : List Entry) : Kept cleared t (u.noteAll entries) :=
  ⟨h.commands, h.transcript, h.quiet⟩

theorem of_display (hq : t.Quiet) (h : u.display = t.display) : Kept false t u where
  commands := congrArg Display.commands h
  transcript := congrArg Display.transcript h
  quiet := by
    have hwatchers : u.watchers = t.watchers := congrArg Display.watchers h
    rw [Quiet, hwatchers]
    exact hq

theorem clear (hq : t.Quiet) : Kept true t t.clear := by
  have hsession : t.clear.session = t.session.clear := hq.clear.session
  exact ⟨by rw [hsession]; rfl, by rw [hsession]; rfl, (Told.clear t).quiet hq⟩

end Kept

theorem Command.AtDesk.kept {c : Command} (h : c.AtDesk) {t : Terminal} (hq : t.Quiet) (call : Call) :
    Kept (c.name == clearWord) t (c.handler call t).2 := by
  rcases h with ⟨hname, hc⟩ | ⟨hname, hc⟩ | ⟨hname, -, hc⟩
  · rw [hname, hc]
    exact Kept.clear hq
  · rw [hname, hc]
    exact Kept.refl hq
  · have hclear : (c.name == clearWord) = false := beq_eq_false_iff_ne.mpr hname
    rw [hclear]
    exact Kept.of_display hq ((hc call).display t)

namespace Registry

variable (entries : List FileEntry) (endpoints : Endpoints) {t : Terminal}

theorem kept_of_unknown {name : String} (h : find? name (standard entries endpoints) = none) (hq : t.Quiet) :
    Kept (name == clearWord) t t := by
  have hname : name ≠ clearWord := by
    rintro rfl
    obtain ⟨c, hfind, -⟩ := find?_standard_clear entries endpoints
    exact absurd (h.symm.trans hfind) nofun
  rw [beq_eq_false_iff_ne.mpr hname]
  exact Kept.refl hq

theorem kept_call {name : String} {c : Command} (h : find? name (standard entries endpoints) = some c)
    (args : List String) (hq : t.Quiet) :
    Kept (name == clearWord) t ((standard entries endpoints).call c args t).2 := by
  obtain ⟨hmem, rfl⟩ := mem_of_find? h
  obtain ⟨more, hcall⟩ := (standard entries endpoints).call_eq c args t
  rw [hcall]
  exact ((atDesk_catalog entries endpoints c hmem).kept hq _).noteAll more

theorem kept_runFirst (stage : Stage) (hq : t.Quiet) :
    Kept (stage.name == clearWord) t ((standard entries endpoints).runFirst stage t).2 := by
  rcases Option.eq_none_or_eq_some (find? stage.name (standard entries endpoints)) with hc | ⟨c, hc⟩
  · rw [runFirst, get_of_none hc]
    exact kept_of_unknown entries endpoints hc hq
  · rw [runFirst, get_of_some hc]
    exact kept_call entries endpoints hc stage.args hq

theorem kept_runStatement (statement : Statement) (hq : t.Quiet) :
    Kept (statement.first.name == clearWord) t ((standard entries endpoints).runStatement statement t).2 := by
  cases statement with
  | pipeline first rest =>
      obtain ⟨more, hrest⟩ := (standard entries endpoints).runRest_eq rest
        ((standard entries endpoints).runFirst first t).1 ((standard entries endpoints).runFirst first t).2
      rw [runStatement]
      dsimp only
      rw [hrest]
      exact (kept_runFirst entries endpoints first hq).noteAll more
  | single stage =>
      rcases Option.eq_none_or_eq_some (find? stage.name (standard entries endpoints)) with hc | ⟨c, hc⟩
      · rw [runStatement, get_of_none hc]
        exact (kept_of_unknown entries endpoints hc hq).noteAll _
      · rw [runStatement, get_of_some hc]
        exact kept_call entries endpoints hc stage.args hq

/-- Statements empty the transcript if one of them calls `clear`, and else leave both histories alone. -/
theorem kept_runStatements (statements : List Statement) (hq : t.Quiet) :
    Kept (statements.any (·.first.name == clearWord)) t
      ((standard entries endpoints).runStatements statements t).2 := by
  induction statements generalizing t with
  | nil => exact Kept.refl hq
  | cons statement rest ih =>
      have hfirst := kept_runStatement entries endpoints statement hq
      rw [runStatements, List.any_cons]
      exact hfirst.trans (ih hfirst.quiet)

end Registry

/-! ## Lines -/

namespace Terminal.Quiet

variable {t : Terminal}

theorem session_append (hq : t.Quiet) (line : String) : (t.append line).session = t.session.append line :=
  (hq.append line).session

theorem session_echo (hq : t.Quiet) (text : String) : (Registry.echo text t).session =
    (t.session.remember text).append s!"{t.session.prompt} {text}" :=
  session_append (t := t.modifySession (.remember text)) hq s!"{t.session.prompt} {text}"

theorem quiet_echo (hq : t.Quiet) (text : String) : (Registry.echo text t).Quiet :=
  (Told.append _ (t.modifySession (.remember text))).quiet hq

theorem commands_record (hq : t.Quiet) (output : String) :
    (t.record output).session.commands = t.session.commands := by
  unfold Terminal.record
  split
  · rfl
  · rw [hq.session_append]
    rfl

theorem transcript_record (hq : t.Quiet) (output : String) : (t.record output).session.transcript =
    if isBlankLine output then t.session.transcript
    else newest 1000 500 (t.session.transcript ++ [output]) := by
  unfold Terminal.record
  split
  · rfl
  · rw [hq.session_append]
    exact push_eq_newest transcriptBound _ _

end Terminal.Quiet

theorem commands_remember (text : String) (s : Session) : (s.remember text).commands =
    if s.commands.getLast? = some text then s.commands else newest 100 50 (s.commands ++ [text]) := by
  simp only [Session.remember, beq_iff_eq, push_eq_newest]
  rfl

theorem Kept.histories {cleared : Bool} {t u : Terminal} {text : String} (hq : t.Quiet)
    (h : Kept cleared (Registry.echo text t) u) (output : String) :
    (u.record output).session.commands = (if t.session.commands.getLast? = some text then t.session.commands
      else newest 100 50 (t.session.commands ++ [text])) ∧
    (u.record output).session.transcript =
      if cleared then if isBlankLine output then [] else [output]
      else
        let shown := newest 1000 500 (t.session.transcript ++ [s!"{t.session.prompt} {text}"])
        if isBlankLine output then shown else newest 1000 500 (shown ++ [output]) := by
  have hecho := hq.session_echo text
  constructor
  · calc (u.record output).session.commands
      _ = u.session.commands := h.quiet.commands_record output
      _ = (Registry.echo text t).session.commands := h.commands
      _ = (t.session.remember text).commands := by rw [hecho]; rfl
      _ = _ := commands_remember text t.session
  · have hshown : (Registry.echo text t).session.transcript =
        newest 1000 500 (t.session.transcript ++ [s!"{t.session.prompt} {text}"]) := by
      rw [hecho]
      exact push_eq_newest transcriptBound _ _
    rw [h.quiet.transcript_record, h.transcript, hshown]
    cases cleared <;> rfl

theorem any_readings (text : String) :
    (readings text).any (·.first.name == clearWord) = (segments text).any (firstCommand · == clearWord) := by
  simp only [readings, List.any_map, Function.comp_def, Statement.first_parse]

/-- All that a line leaves of itself, when nobody adds lines of his own. A blank line leaves nothing, and the
word `clear` empties the transcript. Every other line is kept among the typed ones, unless it repeats the
one before it; the transcript shows it behind the prompt and then all that it says as one entry, or only what
it says if one of its statements calls `clear`. -/
theorem Registry.execute_bookkeeping (entries : List FileEntry) (endpoints : Endpoints) (typed : String)
    (t : Terminal) (hq : t.Quiet) :
    let text := strip typed
    let output := ((standard entries endpoints).execute typed t).1
    let u := ((standard entries endpoints).execute typed t).2
    (text = "" → output = "" ∧ u = t) ∧
    (text = "clear" → output = "" ∧ u.session.transcript = [] ∧ u.session.position = -1 ∧
      u.session.commands = t.session.commands ∧ u.session.directory = t.session.directory) ∧
    (text ≠ "" → text ≠ "clear" →
      u.session.commands = (if t.session.commands.getLast? = some text then t.session.commands
        else newest 100 50 (t.session.commands ++ [text])) ∧
      u.session.position = -1 ∧
      u.session.transcript =
        if (segments text).any (firstCommand · == "clear") then if isBlankLine output then [] else [output]
        else
          let shown := newest 1000 500 (t.session.transcript ++ [s!"{t.session.prompt} {text}"])
          if isBlankLine output then shown else newest 1000 500 (shown ++ [output])) := by
  generalize hx : (standard entries endpoints).execute typed t = x
  intro text output u
  refine ⟨fun hb => ?blank, fun hc => ?clear, fun hb hc => ?run⟩
  case blank =>
    obtain rfl : x = ("", t) := by
      rw [← hx, execute_of_blank _ hb]
    exact ⟨rfl, rfl⟩
  case clear =>
    obtain ⟨c, hfind, -, hhandler⟩ := find?_standard_clear entries endpoints
    obtain rfl : x = ("", t.clear.modifySession .resetCursor) := by
      rw [← hx, execute_of_clear _ hc, runClear, hfind]
      simp only [call, hhandler, Builtin.clear, Option.getD_some]
    have hsession : u.session = t.session.clear.resetCursor := by
      have hclear : t.clear.session = t.session.clear := hq.clear.session
      simp only [u, modifySession, hclear]
    rw [hsession]
    exact ⟨rfl, rfl, rfl, rfl, rfl⟩
  case run =>
    have hkept := kept_runStatements entries endpoints (readings typed) (hq.quiet_echo text)
    have hany : (readings typed).any (·.first.name == clearWord) =
        (segments text).any (firstCommand · == clearWord) := by
      rw [← readings_strip, any_readings]
    -- what the statements do is told by `hkept` alone from here on
    generalize hran : (standard entries endpoints).runStatements (readings typed) (echo text t) = ran at hkept
    obtain rfl : x = (unlines ran.1, (ran.2.record (unlines ran.1)).modifySession .resetCursor) := by
      rw [← hx, execute_of_run _ hb hc, hran]
    rw [hany] at hkept
    obtain ⟨hcommands, htranscript⟩ := hkept.histories hq output
    exact ⟨hcommands, rfl, htranscript⟩

def grumbler : Observer where
  name := "grumbler"
  react := fun _ _ => { failure := some "enough" }

theorem Registry.execute_bookkeeping_grumbler :
    let u := ((standard [] ⟨"/api", "/entities", "here"⟩).execute " clear | wc ; pwd "
      { watchers := [{ observer := grumbler }] }).2
    u.session.commands = ["clear | wc ; pwd"] ∧ u.session.transcript = ["0   0   0\n~"] := by
  have hq : Quiet { watchers := [{ observer := grumbler }] } := by
    intro w hw
    obtain rfl := List.mem_singleton.mp hw
    rfl
  have htext : strip " clear | wc ; pwd " = "clear | wc ; pwd" := by decide +kernel
  obtain ⟨-, -, hrun⟩ := execute_bookkeeping [] ⟨"/api", "/entities", "here"⟩ " clear | wc ; pwd "
    { watchers := [{ observer := grumbler }] } hq
  rw [htext] at hrun
  obtain ⟨hcommands, -, htranscript⟩ := hrun (by decide) (by decide)
  exact ⟨hcommands.trans (by decide +kernel), htranscript.trans (by decide +kernel)⟩

end LineShell
