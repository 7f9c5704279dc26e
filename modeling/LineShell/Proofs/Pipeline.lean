import LineShell.Proofs.Reading
import LineShell.Proofs.Terminal.Views

/-!
# Pipelines

After its first stage a pipeline is a fold over its later stages: each makes a new text of the text
before it, calls nothing and changes nothing but the journal.
-/

namespace LineShell

open Text

/-! ## Registries with other commands -/

namespace Registry

def map (f : Command → Command) (r : Registry) : Registry := ⟨r.commands.map f⟩

variable {f : Command → Command}

theorem find?_map (hf : ∀ c, (f c).summary = c.summary) (name : String) (r : Registry) :
    (r.map f).find? name = (r.find? name).map f := by
  have hname : ∀ c, (f c).name = c.name := fun c => congrArg Summary.name (hf c)
  simp only [Registry.find?, map, List.find?_map, Function.comp_def, hname]

theorem summaries_map (hf : ∀ c, (f c).summary = c.summary) (r : Registry) :
    (r.map f).summaries = r.summaries := by
  simp [summaries, map, Function.comp_def, hf]

theorem mem_of_find? {r : Registry} {name : String} {c : Command} (h : r.find? name = some c) :
    c ∈ r.commands ∧ c.name = name :=
  ⟨List.mem_of_find?_eq_some h, by simpa using List.find?_some h⟩

theorem get_of_none {r : Registry} {name : String} (h : r.find? name = none) (hint : Option String) :
    r.get name hint = .error (.commandNotFound name hint) := by
  rw [Registry.get, h]

theorem get_of_some {r : Registry} {name : String} {c : Command} (h : r.find? name = some c)
    (hint : Option String) : r.get name hint = .ok c := by
  rw [Registry.get, h]

end Registry

/-! ## Later stages -/

def Command.read (c : Command) (args : List String) (text : String) : String :=
  match c.filter with
  | none => s!"{c.name}: comando non supporta pipe"
  | some filter =>
    match filter args text with
    | .ok output => output
    | .error failure => failure.screenLine c.name

/-- The text that a stage makes of the text before it. -/
def Registry.read (r : Registry) (text : String) (stage : Stage) : String :=
  match r.find? stage.name with
  | none => s!"{stage.name}: comando non trovato"
  | some c => c.read stage.args text

namespace Registry

theorem filter_eq (c : Command) (args : List String) (text : String) (t : Terminal) :
    ∃ entries, Registry.filter c args text t = (c.read args text, t.noteAll entries) := by
  cases hf : c.filter with
  | none => exact ⟨[], by rw [Registry.filter, Command.read, hf, Terminal.noteAll_nil]⟩
  | some filter =>
      cases ho : filter args text with
      | ok output => exact ⟨[], by simp only [Registry.filter, Command.read, hf, ho, Terminal.noteAll_nil]⟩
      | error failure =>
          simp only [Registry.filter, Command.read, hf, ho]
          exact ⟨_, rfl⟩

theorem runRest_cons (r : Registry) (stage : Stage) (rest : List Stage) (text : String) (t : Terminal) :
    ∃ entries, r.runRest (stage :: rest) text t = r.runRest rest (r.read text stage) (t.noteAll entries) := by
  rcases Option.eq_none_or_eq_some (r.find? stage.name) with hc | ⟨c, hc⟩
  · have hread : r.read text stage = (Failure.commandNotFound stage.name none).message := by
      rw [Registry.read, hc]
      rfl
    refine ⟨[], ?_⟩
    rw [runRest, get_of_none hc, hread, Terminal.noteAll_nil]
  · obtain ⟨entries, he⟩ := filter_eq c stage.args text t
    have hread : r.read text stage = c.read stage.args text := by rw [Registry.read, hc]
    refine ⟨entries, ?_⟩
    rw [runRest, get_of_some hc, hread]
    dsimp only
    rw [he]

/-- The later stages are a fold over the text; of the terminal, only the journal grows. -/
theorem runRest_eq (r : Registry) (stages : List Stage) (text : String) (t : Terminal) :
    ∃ entries, r.runRest stages text t = (stages.foldl r.read text, t.noteAll entries) := by
  induction stages generalizing text t with
  | nil => exact ⟨[], by rw [runRest, List.foldl_nil, Terminal.noteAll_nil]⟩
  | cons stage rest ih =>
      obtain ⟨entries, h⟩ := r.runRest_cons stage rest text t
      obtain ⟨more, h'⟩ := ih (r.read text stage) (t.noteAll entries)
      refine ⟨entries ++ more, ?_⟩
      rw [h, h', List.foldl_cons, Terminal.noteAll_append]

theorem runStatement_pipeline_fst (r : Registry) (first : Stage) (rest : List Stage) (t : Terminal) :
    (r.runStatement (.pipeline first rest) t).1 = rest.foldl r.read (r.runFirst first t).1 := by
  obtain ⟨entries, h⟩ := r.runRest_eq rest (r.runFirst first t).1 (r.runFirst first t).2
  rw [runStatement]
  dsimp only
  rw [h]

theorem runRest_append (r : Registry) (p q : List Stage) (text : String) (t : Terminal) :
    r.runRest (p ++ q) text t = r.runRest q (r.runRest p text t).1 (r.runRest p text t).2 := by
  induction p generalizing text t with
  | nil => rfl
  | cons stage rest ih =>
      simp only [List.cons_append, runRest]
      split
      · exact ih _ _
      · exact ih _ _

/-- Later stages call no handler, so it does not matter which handlers there are. -/
theorem runRest_map {f : Command → Command} (hsummary : ∀ c, (f c).summary = c.summary)
    (hfilter : ∀ c, (f c).filter = c.filter) (r : Registry) (stages : List Stage) (text : String)
    (t : Terminal) : (r.map f).runRest stages text t = r.runRest stages text t := by
  have hread : ∀ c, Registry.filter (f c) = Registry.filter c := by
    intro c
    funext args text t
    simp only [Registry.filter, hfilter, Command.name, hsummary]
  induction stages generalizing text t with
  | nil => rfl
  | cons stage rest ih =>
      rcases Option.eq_none_or_eq_some (r.find? stage.name) with hc | ⟨c, hc⟩
      · have hc' : (r.map f).find? stage.name = none := by rw [find?_map hsummary, hc]; rfl
        rw [runRest, runRest, get_of_none hc, get_of_none hc']
        exact ih _ _
      · have hc' : (r.map f).find? stage.name = some (f c) := by rw [find?_map hsummary, hc]; rfl
        rw [runRest, runRest, get_of_some hc, get_of_some hc']
        dsimp only
        rw [hread]
        exact ih _ _

/-! ## Segments -/

/-- Runs the segments of a pipeline: the first is called, the others read. -/
def runSegments (r : Registry) : List String → Terminal → String × Terminal
  | [], t => ("", t)
  | first :: rest, t => r.runStatement (.pipeline (Stage.parse first) (rest.map Stage.parse)) t

theorem runStatement_parse {segment : String} (h : hasChar '|' segment = true) (r : Registry) (t : Terminal) :
    r.runStatement (Statement.parse segment) t = r.runSegments (split '|' segment) t := by
  obtain ⟨first, second, rest, hs⟩ := exists_split_of_hasChar h
  rw [Statement.parse_eq_ofStages, stagesOf, hs]
  rfl

theorem runSegments_cons (r : Registry) (first : String) (rest : List String) (t : Terminal) :
    r.runSegments (first :: rest) t =
      r.runRest (rest.map Stage.parse) (r.runSegments [first] t).1 (r.runSegments [first] t).2 := rfl

theorem runSegments_append (r : Registry) (first : String) (p q : List String) (t : Terminal) :
    r.runSegments (first :: p ++ q) t =
      r.runRest (q.map Stage.parse) (r.runSegments (first :: p) t).1 (r.runSegments (first :: p) t).2 := by
  rw [List.cons_append, runSegments_cons, List.map_append, runRest_append, ← runSegments_cons]

theorem runSegments_append_fst (r : Registry) (first : String) (p q : List String) (t : Terminal) :
    (r.runSegments (first :: p ++ q) t).1 =
      (q.map Stage.parse).foldl r.read (r.runSegments (first :: p) t).1 := by
  obtain ⟨entries, h⟩ := r.runRest_eq (q.map Stage.parse) (r.runSegments (first :: p) t).1
    (r.runSegments (first :: p) t).2
  rw [runSegments_append, h]

theorem read_of_unknown {r : Registry} {stage : Stage} (h : r.find? stage.name = none) (text : String) :
    r.read text stage = s!"{stage.name}: comando non trovato" := by
  rw [Registry.read, h]

theorem read_of_unreading {r : Registry} {stage : Stage} {c : Command} (h : r.find? stage.name = some c)
    (hf : c.filter = none) (text : String) : r.read text stage = s!"{c.name}: comando non supporta pipe" := by
  rw [Registry.read, h]
  simp only [Command.read, hf]

theorem runSegments_of_unknown {r : Registry} {segment : String}
    (h : r.find? (Stage.parse segment).name = none) (t : Terminal) :
    r.runSegments [segment] t = (s!"{(Stage.parse segment).name}: comando non trovato", t) := by
  show r.runFirst (Stage.parse segment) t = _
  rw [runFirst, get_of_none h]
  rfl

theorem runSegments_of_known {r : Registry} {segment : String} {c : Command}
    (h : r.find? (Stage.parse segment).name = some c) (t : Terminal) :
    r.runSegments [segment] t = r.call c (Stage.parse segment).args t := by
  show r.runFirst (Stage.parse segment) t = _
  rw [runFirst, get_of_some h]

theorem name_parse_of_blank {segment : String} (h : isBlankLine segment = true) :
    (Stage.parse segment).name = "" := by
  have hp : Stage.parse (strip segment) = Stage.parse segment := padless_parse.strip segment
  rw [← hp, (strip_eq_empty_iff segment).mpr h]
  decide +kernel

/-- A pipeline is composed of its parts: the later segments make their text of what the earlier ones say.
Only the first segment calls a handler, and only it changes more than the journal. After a segment that
is unknown or does not read, the text no longer depends on what stood before; yet the segments after it
go on. -/
theorem runSegments_compose (r : Registry) (first : String) (p q : List String) (t : Terminal) :
    (r.runSegments (first :: p ++ q) t).1 =
      (q.map Stage.parse).foldl r.read (r.runSegments (first :: p) t).1 ∧
    (∀ c, r.find? (Stage.parse first).name = some c →
      r.runSegments [first] t = r.call c (Stage.parse first).args t) ∧
    (∃ entries, (r.runSegments (first :: p ++ q) t).2 = (r.runSegments [first] t).2.noteAll entries) ∧
    (∀ handler : Command → Handler, r.runSegments (first :: p ++ q) t =
      (r.map fun c => { c with handler := handler c }).runRest ((p ++ q).map Stage.parse)
        (r.runSegments [first] t).1 (r.runSegments [first] t).2) ∧
    (∀ segment, r.find? (Stage.parse segment).name = none →
      (r.runSegments (first :: p ++ segment :: q) t).1 =
        (q.map Stage.parse).foldl r.read s!"{(Stage.parse segment).name}: comando non trovato" ∧
      (r.runSegments (segment :: q) t).1 =
        (q.map Stage.parse).foldl r.read s!"{(Stage.parse segment).name}: comando non trovato") ∧
    (∀ segment c, r.find? (Stage.parse segment).name = some c → c.filter = none →
      (r.runSegments (first :: p ++ segment :: q) t).1 =
        (q.map Stage.parse).foldl r.read s!"{c.name}: comando non supporta pipe") ∧
    (∀ segment, isBlankLine segment = true → (Stage.parse segment).name = "") ∧
    (∀ segment, hasChar '|' segment = true →
      r.runStatement (Statement.parse segment) t = r.runSegments (split '|' segment) t) := by
  refine ⟨r.runSegments_append_fst first p q t, fun c hc => runSegments_of_known hc t, ?_, fun handler => ?_,
    fun segment hc => ⟨?_, ?_⟩, fun segment c hc hf => ?_, fun segment => name_parse_of_blank,
    fun segment hs => runStatement_parse hs r t⟩
  · obtain ⟨entries, h⟩ := r.runRest_eq ((p ++ q).map Stage.parse) (r.runSegments [first] t).1
      (r.runSegments [first] t).2
    exact ⟨entries, by rw [List.cons_append, runSegments_cons, h]⟩
  · exact (r.runRest_map (f := fun c => { c with handler := handler c }) (fun _ => rfl) (fun _ => rfl) _ _ _).symm
  · rw [runSegments_append_fst, List.map_cons, List.foldl_cons, read_of_unknown hc]
  · rw [show segment :: q = [segment] ++ q from rfl, runSegments_append_fst, runSegments_of_unknown hc]
  · rw [runSegments_append_fst, List.map_cons, List.foldl_cons, read_of_unreading hc hf]

def greeter : Command where
  summary := { name := "greet" }
  handler := .reading fun _ _ => "hello"

theorem runSegments_compose_refused :
    (Registry.runSegments ⟨[greeter]⟩ ["greet", "nope", "greet"] {}).1 = "greet: comando non supporta pipe" :=
  have hfind : Registry.find? (Stage.parse "greet").name ⟨[greeter]⟩ = some greeter := rfl
  (runSegments_compose ⟨[greeter]⟩ "greet" ["nope"] [] {}).2.2.2.2.2.1 "greet" greeter hfind rfl

end Registry

end LineShell
