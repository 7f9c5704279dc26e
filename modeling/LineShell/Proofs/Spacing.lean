import LineShell.Proofs.Bookkeeping
import LineShell.Proofs.Chain
import LineShell.Proofs.Text.Lexemes

/-!
# Spacing

What a line does depends on its words and separators alone. Lines that differ in spacing run the same statements,
and no command is ever given anything but words of the line.
-/

namespace LineShell

open Terminal Text

/-! ## Lines of the same lexemes -/

theorem strip_eq_empty_iff_lexemes (text : String) : strip text = "" ↔ lexemes text = [] :=
  (strip_eq_empty_iff text).trans (lexemes_eq_nil_iff text).symm

theorem strip_eq_clear_iff_lexemes (text : String) : strip text = clearWord ↔ lexemes text = [.word clearWord] := by
  refine ⟨fun h => ?_, strip_of_lexemes⟩
  rw [← padless_lexemes.strip, h]
  decide +kernel

theorem readings_of_lexemes {a b : String} (h : lexemes a = lexemes b) : readings a = readings b := by
  rw [readings_eq_statementsIn, readings_eq_statementsIn, h]

/-! ## Commands that heed their arguments -/

/-- A command that does something else when it is given arguments that do not fit. -/
def Command.heeding (fits : String → Bool) (handler : Handler) (filter : Filter) (c : Command) : Command :=
  { c with
    handler := fun call t => if call.args.all fits then c.handler call t else handler call t
    filter := c.filter.map fun read args text => if args.all fits then read args text else filter args text }

namespace Registry

variable {fits : String → Bool} (handler : Handler) (filter : Filter) (r : Registry)

def heeding (fits : String → Bool) : Registry := r.map (Command.heeding fits handler filter)

theorem find?_heeding (fits : String → Bool) (name : String) : (r.heeding handler filter fits).find? name =
    (r.find? name).map (Command.heeding fits handler filter) :=
  find?_map (f := Command.heeding fits handler filter) (fun _ => rfl) name r

theorem call_heeding {args : List String} (h : ∀ word ∈ args, fits word = true) (c : Command) (t : Terminal) :
    (r.heeding handler filter fits).call (c.heeding fits handler filter) args t = r.call c args t := by
  have hsummaries : (r.heeding handler filter fits).summaries = r.summaries :=
    summaries_map (f := Command.heeding fits handler filter) (fun _ => rfl) r
  simp only [Registry.call, Command.heeding, hsummaries, List.all_eq_true.mpr h, if_true]
  rfl

theorem filter_heeding {args : List String} (h : ∀ word ∈ args, fits word = true) (c : Command) (text : String)
    (t : Terminal) :
    Registry.filter (c.heeding fits handler filter) args text t = Registry.filter c args text t := by
  have hall := List.all_eq_true.mpr h
  unfold Registry.filter
  cases hfilter : c.filter with
  | none => simp only [Command.heeding, hfilter, Option.map_none, Command.name]
  | some read => simp only [Command.heeding, hfilter, Option.map_some, Command.name, hall, if_true]

theorem runFirst_heeding {stage : Stage} (h : ∀ word ∈ stage.args, fits word = true) (t : Terminal) :
    (r.heeding handler filter fits).runFirst stage t = r.runFirst stage t := by
  have hfind := find?_heeding handler filter r fits stage.name
  rcases Option.eq_none_or_eq_some (r.find? stage.name) with hc | ⟨c, hc⟩
  · rw [hc] at hfind
    rw [runFirst, runFirst, get_of_none hc, get_of_none hfind]
  · rw [hc] at hfind
    rw [runFirst, runFirst, get_of_some hc, get_of_some hfind]
    exact call_heeding handler filter r h c t

theorem runRest_heeding {stages : List Stage} (h : ∀ stage ∈ stages, ∀ word ∈ stage.args, fits word = true)
    (text : String) (t : Terminal) :
    (r.heeding handler filter fits).runRest stages text t = r.runRest stages text t := by
  induction stages generalizing text t with
  | nil => rfl
  | cons stage rest ih =>
      obtain ⟨hstage, hrest⟩ := List.forall_mem_cons.mp h
      have hfind := find?_heeding handler filter r fits stage.name
      rcases Option.eq_none_or_eq_some (r.find? stage.name) with hc | ⟨c, hc⟩
      · rw [hc] at hfind
        rw [runRest, runRest, get_of_none hc, get_of_none hfind]
        exact ih hrest _ _
      · rw [hc] at hfind
        rw [runRest, runRest, get_of_some hc, get_of_some hfind]
        dsimp only
        rw [filter_heeding handler filter hstage]
        exact ih hrest _ _

theorem runStatement_heeding {statement : Statement}
    (h : ∀ stage ∈ statement.stages, ∀ word ∈ stage.args, fits word = true) (t : Terminal) :
    (r.heeding handler filter fits).runStatement statement t = r.runStatement statement t := by
  cases statement with
  | pipeline first rest =>
      obtain ⟨hfirst, hrest⟩ := List.forall_mem_cons.mp h
      simp only [runStatement]
      rw [runFirst_heeding handler filter r hfirst, runRest_heeding handler filter r hrest]
  | single stage =>
      have hfind := find?_heeding handler filter r fits stage.name
      rcases Option.eq_none_or_eq_some (r.find? stage.name) with hc | ⟨c, hc⟩
      · rw [hc] at hfind
        rw [runStatement, runStatement, get_of_none hc, get_of_none hfind]
      · rw [hc] at hfind
        rw [runStatement, runStatement, get_of_some hc, get_of_some hfind]
        exact call_heeding handler filter r (h stage List.mem_cons_self) c t

theorem runStatements_heeding {statements : List Statement}
    (h : ∀ statement ∈ statements, ∀ stage ∈ statement.stages, ∀ word ∈ stage.args, fits word = true) (t : Terminal) :
    (r.heeding handler filter fits).runStatements statements t = r.runStatements statements t := by
  induction statements generalizing t with
  | nil => rfl
  | cons statement rest ih =>
      obtain ⟨hstatement, hrest⟩ := List.forall_mem_cons.mp h
      simp only [runStatements]
      rw [runStatement_heeding handler filter r hstatement, ih hrest]

theorem runClear_heeding (t : Terminal) : (r.heeding handler filter fits).runClear t = r.runClear t := by
  have hfind := find?_heeding handler filter r fits clearWord
  rcases Option.eq_none_or_eq_some (r.find? clearWord) with hc | ⟨c, hc⟩
  · rw [hc] at hfind
    rw [runClear, runClear, hc, hfind]
    rfl
  · rw [hc] at hfind
    rw [runClear, runClear, hc, hfind]
    exact call_heeding handler filter r (by simp) c t

/-- What commands would do with other arguments does not matter to a line whose words fit. -/
theorem execute_heeding {typed : String} (h : ∀ word, .word word ∈ lexemes typed → fits word = true) (t : Terminal) :
    (r.heeding handler filter fits).execute typed t = r.execute typed t := by
  have hfits : ∀ statement ∈ readings typed, ∀ stage ∈ statement.stages, ∀ word ∈ stage.args, fits word = true :=
    fun _ hstatement _ hstage _ hword => h _ (word_mem_lexemes hstatement hstage hword)
  by_cases hb : strip typed = ""
  · rw [execute_of_blank _ hb, execute_of_blank _ hb]
  · by_cases hc : strip typed = clearWord
    · rw [execute_of_clear _ hc, execute_of_clear _ hc, runClear_heeding]
    · rw [execute_of_run _ hb hc, execute_of_run _ hb hc, runStatements_heeding handler filter r hfits]

/-! ## Execution -/

theorem execute_of_strip_eq {a b : String} (h : strip a = strip b) (t : Terminal) :
    r.execute a t = r.execute b t := by
  simp only [Registry.execute, Line.parse, h]

section

variable {r}
variable {a b : String} (hab : lexemes a = lexemes b)

include hab

theorem strip_of_lexemes_eq (h : strip a = "" ∨ strip a = clearWord) : strip a = strip b := by
  rcases h with h | h
  · rw [h, (strip_eq_empty_iff_lexemes b).mpr (hab ▸ (strip_eq_empty_iff_lexemes a).mp h)]
  · rw [h, (strip_eq_clear_iff_lexemes b).mpr (hab ▸ (strip_eq_clear_iff_lexemes a).mp h)]

theorem strip_ne_of_lexemes_eq (h : strip a ≠ "" ∧ strip a ≠ clearWord) : strip b ≠ "" ∧ strip b ≠ clearWord := by
  refine not_or.mp fun hcase => not_or.mpr h ?_
  rw [← strip_of_lexemes_eq hab.symm hcase]
  exact hcase

theorem execute_same_of_lexemes (hr : ∀ name, name ≠ "history" → Agree desk r r name)
    (h : ∀ segment ∈ segments a, firstCommand segment ≠ "history") (t : Terminal) :
    Same desk (r.execute a t) (r.execute b t) := by
  by_cases hcase : strip a = "" ∨ strip a = clearWord
  · rw [r.execute_of_strip_eq (strip_of_lexemes_eq hab hcase)]
    exact ⟨rfl, rfl⟩
  · have ha := not_or.mp hcase
    have hb := strip_ne_of_lexemes_eq hab ha
    obtain ⟨htexts, hdesk⟩ := runStatements_same desk_noteAll rfl (agree_readings hr h)
      ((desk_echo (strip a) t).trans (desk_echo (strip b) t).symm)
    rw [r.execute_of_run ha.1 ha.2, r.execute_of_run hb.1 hb.2, ← readings_of_lexemes hab, ← htexts]
    exact ⟨rfl, by rw [desk_resetCursor, desk_resetCursor, desk_record, desk_record, hdesk]⟩

end

theorem execute_run_snd {typed : String} {statements : List Statement} (hread : readings typed = statements)
    (h : strip typed ≠ "" ∧ strip typed ≠ clearWord) (t : Terminal) :
    let ran := r.runStatements statements (echo (strip typed) t)
    (r.execute typed t).2 = (ran.2.record (r.execute typed t).1).modifySession .resetCursor := by
  intro ran
  subst hread
  rw [r.execute_of_run h.1 h.2]

variable (entries : List FileEntry) (endpoints : Endpoints)

theorem histories_ran {t : Terminal} (hq : t.Quiet) (text output typed : String) :
    let ran := (standard entries endpoints).runStatements (readings typed) (echo text t)
    let u := (ran.2.record output).modifySession .resetCursor
    u.session.commands = (if t.session.commands.getLast? = some text then t.session.commands
      else newest 100 50 (t.session.commands ++ [text])) ∧
    u.session.transcript =
      if (segments typed).any (firstCommand · == "clear") then if isBlankLine output then [] else [output]
      else
        let shown := newest 1000 500 (t.session.transcript ++ [s!"{t.session.prompt} {text}"])
        if isBlankLine output then shown else newest 1000 500 (shown ++ [output]) := by
  have hkept := kept_runStatements entries endpoints (readings typed) (hq.quiet_echo text)
  rw [any_readings] at hkept
  exact hkept.histories hq output

/-- Spacing never changes what runs. Lines of the same words and separators in which no statement begins with
`history` say the same, send the same, and leave the desk the same; each shows itself and keeps itself among the
typed lines, and then they run the same statements and record the same text. Whatever the line and the commands,
no handler and no filter is given anything but words of the line, so it does not matter what they would do else. -/
theorem execute_spacing (a : String) (t : Terminal) :
    let r := standard entries endpoints
    (∀ b, lexemes a = lexemes b → (∀ segment ∈ segments a, firstCommand segment ≠ "history") →
      let x := r.execute a t
      let y := r.execute b t
      (x.1 = y.1 ∧ x.2.sent = y.2.sent ∧ x.2.reached = y.2.reached ∧
        x.2.session.directory = y.2.session.directory ∧ x.2.desk = y.2.desk) ∧
      (strip a = "" ∨ strip a = "clear" → x = y) ∧
      (strip a ≠ "" → strip a ≠ "clear" → ∀ typed ∈ [a, b],
        let ran := r.runStatements (readings a) (echo (strip typed) t)
        let u := (r.execute typed t).2
        u = (ran.2.record x.1).modifySession .resetCursor ∧
        (t.Quiet →
          u.session.commands = (if t.session.commands.getLast? = some (strip typed) then t.session.commands
            else newest 100 50 (t.session.commands ++ [strip typed])) ∧
          u.session.transcript =
            if (segments a).any (firstCommand · == "clear") then if isBlankLine x.1 then [] else [x.1]
            else
              let shown := newest 1000 500 (t.session.transcript ++ [s!"{t.session.prompt} {strip typed}"])
              if isBlankLine x.1 then shown else newest 1000 500 (shown ++ [x.1])))) ∧
    (∀ word, .word word ∈ lexemes a → word ≠ "" ∧ ∀ c ∈ word.toList, isBlank c = false ∧ c ≠ ';' ∧ c ≠ '|') ∧
    (∀ statement ∈ readings a, ∀ stage ∈ statement.stages, ∀ word ∈ stage.args, .word word ∈ lexemes a) ∧
    ∀ (table : Registry) (handler : Handler) (filter : Filter),
      (table.heeding handler filter fun word => decide (.word word ∈ lexemes a)).execute a t = table.execute a t := by
  intro r
  refine ⟨fun b hab h => ?lines, fun word hword => ?clean, fun _ hstatement _ hstage _ hword => ?args,
    fun table handler filter => ?heeding⟩
  case clean =>
    obtain ⟨hne, hclean⟩ : Lexeme.StandsIn a.toList (.word word) := standsIn_lexemes a _ hword
    refine ⟨hne, fun c hc => ?_⟩
    simpa [isParting] using (hclean c hc).2
  case args => exact word_mem_lexemes hstatement hstage hword
  case heeding => exact execute_heeding handler filter table (by simp) t
  case lines =>
    have hsame := execute_same_of_lexemes hab (fun _ => agree_standard entries endpoints) h t
    refine ⟨⟨hsame.1, sent_eq_of_desk_eq hsame.2, reached_eq_of_desk_eq hsame.2, directory_eq_of_desk_eq hsame.2,
      hsame.2⟩, fun hcase => execute_of_strip_eq r (strip_of_lexemes_eq hab hcase) t, fun hne hc typed htyped => ?_⟩
    -- both lines run the statements of `a`, each after an echo of its own
    have hfinal : ∀ typed ∈ [a, b],
        let ran := r.runStatements (readings a) (echo (strip typed) t)
        (r.execute typed t).2 = (ran.2.record (r.execute a t).1).modifySession .resetCursor := by
      simp only [List.forall_mem_cons]
      refine ⟨execute_run_snd r rfl ⟨hne, hc⟩ t, ?_, by simp⟩
      rw [hsame.1]
      exact execute_run_snd r (readings_of_lexemes hab).symm (strip_ne_of_lexemes_eq hab ⟨hne, hc⟩) t
    refine ⟨hfinal typed htyped, fun hq => ?_⟩
    rw [hfinal typed htyped]
    exact histories_ran entries endpoints hq _ _ a

theorem execute_spacing_wide :
    let r := standard [] ⟨"/api", "/entities", "here"⟩
    let x := r.execute " cd\u2003musica ;\tpwd|wc -l;\nnope " {}
    let y := r.execute "cd musica; pwd | wc -l; nope" {}
    x.1 = y.1 ∧ x.2.session.directory = y.2.session.directory ∧
    x.2.session.transcript = ["user@linux-box:~$ cd\u2003musica ;\tpwd|wc -l;\nnope", x.1] ∧
    y.2.session.transcript = ["user@linux-box:~$ cd musica; pwd | wc -l; nope", x.1] := by
  intro r x y
  have hquiet : Quiet {} := by simp [Quiet]
  obtain ⟨hlines, -⟩ := execute_spacing [] ⟨"/api", "/entities", "here"⟩ " cd\u2003musica ;\tpwd|wc -l;\nnope " {}
  obtain ⟨⟨htext, -, -, hdirectory, -⟩, -, hruns⟩ :=
    hlines "cd musica; pwd | wc -l; nope" (by decide +kernel) (by decide +kernel)
  have hruns := hruns (by decide +kernel) (by decide +kernel)
  have htranscript := fun typed htyped => ((hruns typed htyped).2 hquiet).2
  refine ⟨htext, hdirectory, (htranscript _ (by simp)).trans ?_, (htranscript _ (by simp)).trans ?_⟩
  · decide +kernel
  · decide +kernel

end Registry

end LineShell
