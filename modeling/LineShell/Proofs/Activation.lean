import LineShell.Proofs.Controls
import LineShell.Proofs.EventBus.Publication
import LineShell.Proofs.Sparing

/-!
# Activation of a control

The name of a control becomes a part of a line. A name without separators is the one argument of the one
command of that line; a name with a separator falls apart, and what follows it is read as something else to run.
-/

namespace LineShell

open Terminal Text

/-! ## Publishing -/

namespace Terminal

def listeners (topic : String) (t : Terminal) : List String := (t.bus.map (·.handlersOf topic)).getD []

theorem messages_publish (topic payload : String) (t : Terminal) :
    (t.publish topic payload).messages = t.messages ++ (t.listeners topic).map (·, payload) := by
  unfold Terminal.publish listeners
  cases t.bus with
  | none => simp
  | some bus =>
      obtain ⟨-, hdelivered⟩ := bus.publish_eq topic payload
      simp [messages, hdelivered, List.filterMap_append, Function.comp_def]

end Terminal

/-! ## The line of a control -/

def useLine (name : String) : String := "use " ++ name

section

variable {name : String}

theorem toList_useLine (name : String) : (useLine name).toList = "use ".toList ++ name.toList :=
  String.toList_append

theorem words_useLine (h : IsEntityName name.toList) : words (useLine name) = ["use", name] := by
  obtain ⟨hne, hname⟩ := h
  have hblank : ∀ c ∈ name.toList, isBlank c = false := fun c hc => ((inName_iff c).mp (hname c hc)).2
  calc words (useLine name) = words ("use" ++ String.singleton ' ' ++ name) := rfl
    _ = words "use" ++ words name := words_append_blank (by decide) "use" name
    _ = ["use"] ++ [name] := by
      rw [words_of_not_blank (by simpa using hne) hblank]
      rfl

theorem strip_useLine (h : IsEntityName name.toList) : strip (useLine name) = useLine name := by
  obtain ⟨hne, hname⟩ := h
  apply strip_eq_self
  · rw [toList_useLine]
    simp [show isBlank 'u' = false by decide]
  · rw [toList_useLine, List.getLast?_append_of_ne_nil _ hne]
    intro c hc
    exact ((inName_iff c).mp (hname c (List.mem_of_getLast? hc))).2

theorem hasChar_useLine {c : Char} (hc : hasChar c "use " = false) (name : String) :
    hasChar c (useLine name) = false ↔ c ∉ name.toList := by
  rw [hasChar_eq_false_iff] at hc ⊢
  rw [toList_useLine, List.mem_append, not_or]
  exact and_iff_right hc

/-- Exactly the names without separators pass through the reading of a line as they are. -/
theorem readings_useLine_iff (h : IsEntityName name.toList) :
    readings (useLine name) = [.single ⟨"use", [name]⟩] ↔ ';' ∉ name.toList ∧ '|' ∉ name.toList := by
  constructor
  · intro hread
    have hstatement : Statement.single ⟨"use", [name]⟩ ∈ readings (useLine name) := by
      rw [hread]
      exact List.mem_cons_self
    have hstage : (⟨"use", [name]⟩ : Stage) ∈ (Statement.single ⟨"use", [name]⟩).stages := List.mem_cons_self
    have hchars := of_mem_args hstatement hstage List.mem_cons_self
    exact ⟨fun hsemi => (hchars _ hsemi).1 rfl, fun hpipe => (hchars _ hpipe).2.1 rfl⟩
  · rintro ⟨hsemi, hpipe⟩
    have hsegment : split ';' (useLine name) = [useLine name] :=
      split_of_not_hasChar ((hasChar_useLine (by decide) name).mpr hsemi)
    have hstage : hasChar '|' (useLine name) = false := (hasChar_useLine (by decide) name).mpr hpipe
    have hblank : isBlankLine (useLine name) = false := by
      simp [isBlankLine, toList_useLine, show isBlank 'u' = false by decide]
    simp [readings, segments, hsegment, hblank, Statement.parse, hstage, Stage.parse, words_useLine h]

theorem readings_useLine_append (before after : String) :
    readings (useLine (before ++ ";" ++ after)) = readings (useLine before) ++ readings after := by
  have hline : useLine (before ++ ";" ++ after) = useLine before ++ ";" ++ after := by
    simp only [useLine, String.append_assoc]
  rw [hline, readings_append]

theorem parse_useLine (h : IsEntityName name.toList) :
    Line.parse (useLine name) = .run (useLine name) (readings (useLine name)) := by
  have hne : ∀ other, other.toList.head? ≠ some 'u' → useLine name ≠ other := by
    rintro other hother rfl
    exact hother (by rw [toList_useLine]; rfl)
  have hstrip := strip_useLine h
  rw [Line.parse_of_run, hstrip]
  · rw [hstrip]
    exact hne "" (by decide)
  · rw [hstrip]
    exact hne clearWord (by decide)

end

/-! ## Activation -/

namespace Registry

variable {r : Registry} {use : Command} {text name : String}

theorem activate_eq (r : Registry) (name : String) (t : Terminal) :
    r.activate name t = r.execute (useLine name) (t.publish entityTopic name) := rfl

theorem execute_of_single {line : String} {stage : Stage} {c : Command}
    (hparse : Line.parse line = .run line [.single stage]) (hc : r.find? stage.name = some c) (t : Terminal) :
    r.execute line t = ((r.call c stage.args (echo line t)).1,
      ((r.call c stage.args (echo line t)).2.record (r.call c stage.args (echo line t)).1).modifySession
        .resetCursor) := by
  rw [Registry.execute, hparse]
  simp only [runLine, runStatements, runStatement, get_of_some hc, unlines_singleton]

/-- Activating a control tells its name once to every listener and then runs a line. The line calls `use` with the
name as its one argument exactly if the name holds no separator; what follows a semicolon in it is run as statements
of its own. A name without separators runs nothing else: what is said and done is that call, whatever the other
commands do. -/
theorem activate_control (huse : r.find? "use" = some use) (hname : name ∈ entityControls text) (t : Terminal) :
    let told := echo (useLine name) (t.publish entityTopic name)
    let called := r.call use [name] told
    told.messages = t.messages ++ (t.listeners entityTopic).map (·, name) ∧
    (Line.parse (useLine name) = .run (useLine name) [.single ⟨"use", [name]⟩] ↔
      ';' ∉ name.toList ∧ '|' ∉ name.toList) ∧
    (∀ before after, name = before ++ ";" ++ after →
      Line.parse (useLine name) = .run (useLine name) (readings (useLine before) ++ readings after)) ∧
    (';' ∉ name.toList → '|' ∉ name.toList →
      r.activate name t = (called.1, (called.2.record called.1).modifySession .resetCursor) ∧
      called.1 = use.said (use.handler { args := [name], known := r.summaries } told).1 ∧
      (r.activate name t).2.messages =
        (use.handler { args := [name], known := r.summaries } told).2.messages ∧
      ∀ r' : Registry, r'.find? "use" = some use → r'.summaries = r.summaries →
        r'.activate name t = r.activate name t) := by
  intro told called
  have hentity := isEntityName_of_mem hname
  have hparse := parse_useLine hentity
  have hread := readings_useLine_iff hentity
  refine ⟨?told, ?line, fun before after hsplit => ?rest, fun hsemi hpipe => ?call⟩
  case told =>
    calc told.messages = (t.publish entityTopic name).messages := (Told.echo _ _).messages
      _ = _ := messages_publish entityTopic name t
  case line =>
    rw [hparse, ← hread]
    simp
  case rest =>
    have happend := readings_useLine_append before after
    rw [← hsplit] at happend
    rw [hparse, happend]
  case call =>
    -- one statement, so the line does what the call does and what every line does around it
    rw [hread.mpr ⟨hsemi, hpipe⟩] at hparse
    have hactivate : ∀ r' : Registry, r'.find? "use" = some use → r'.activate name t =
        ((r'.call use [name] told).1, ((r'.call use [name] told).2.record (r'.call use [name] told).1).modifySession
          .resetCursor) := by
      intro r' huse'
      rw [activate_eq]
      exact execute_of_single hparse huse' _
    have hr := hactivate r huse
    obtain ⟨entries, hcall⟩ := r.call_eq use [name] told
    refine ⟨hr, congrArg Prod.fst hcall, ?_, fun r' huse' hsummaries => ?_⟩
    · calc (r.activate name t).2.messages = (called.2.record called.1).messages := by rw [hr]; rfl
        _ = called.2.messages := (Told.record called.1 called.2).messages
        _ = _ := congrArg (·.2.messages) hcall
    · rw [hr, hactivate r' huse', Registry.call, Registry.call, hsummaries]

def parrot : Command where
  summary := { name := "use" }
  handler := .reading fun call _ => join " " call.args

def parrotAndPwd : Registry := ⟨[parrot, { summary := { name := "pwd" }, handler := Builtin.pwd }]⟩

theorem activate_control_articoli :
    let x := parrotAndPwd.activate "articoli" { bus := some { registrations := [(entityTopic, "audit")] } }
    x.1 = "articoli" ∧ x.2.messages = [("audit", "articoli")] := by
  have hentity : IsEntityName "articoli".toList := ⟨by decide, List.all_eq_true.mp (by decide)⟩
  have huse : parrotAndPwd.find? "use" = some parrot := rfl
  obtain ⟨htold, -, -, hcall⟩ := activate_control huse (mem_entityControls_control hentity)
    { bus := some { registrations := [(entityTopic, "audit")] } }
  obtain ⟨hactivate, hsaid, hmessages, -⟩ := hcall (by decide) (by decide)
  exact ⟨(congrArg Prod.fst hactivate).trans (hsaid.trans (by decide +kernel)),
    hmessages.trans (htold.trans (by decide +kernel))⟩

/-- A name with a semicolon: `use` is called with what stands before it, and what follows is run as well. -/
theorem activate_pwd :
    "a;pwd" ∈ entityControls "[utilizza:a;pwd]" ∧ parrotAndPwd.find? "use" = some parrot ∧
    (parrotAndPwd.call parrot ["a;pwd"] (echo (useLine "a;pwd") {})).1 = "a;pwd" ∧
    (parrotAndPwd.activate "a;pwd" {}).1 = "a\n~" := by
  have hentity : IsEntityName "a;pwd".toList := ⟨by decide, List.all_eq_true.mp (by decide)⟩
  have htext : String.ofList (controlOpening ++ ("a;pwd".toList ++ [']'])) = "[utilizza:a;pwd]" := by decide +kernel
  refine ⟨?control, rfl, ?call, ?activation⟩
  case control =>
    rw [← htext]
    exact mem_entityControls_control hentity
  case call => decide +kernel
  case activation => decide +kernel

end Registry

end LineShell
