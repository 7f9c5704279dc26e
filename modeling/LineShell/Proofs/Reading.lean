import LineShell.Interpreter
import LineShell.Proofs.Text.Pieces

/-!
# Reading lines

A typed text falls into segments, each of which spells a statement. The statements of two texts with a
semicolon between them are those of both, and blanks around a text do not matter.
-/

namespace LineShell

open Text

/-! ## Segments -/

/-- The segments of a text between semicolons, without the blank ones. -/
def segments (text : String) : List String := (split ';' text).filter (!isBlankLine ·)

def stagesOf (segment : String) : List Stage := (split '|' segment).map Stage.parse

/-- The command that the first stage of a segment names. -/
def firstCommand (segment : String) : String := (Stage.parse ((split '|' segment).headD "")).name

def readings (text : String) : List Statement := (segments text).map Statement.parse

theorem segments_append (a b : String) : segments (a ++ ";" ++ b) = segments a ++ segments b := by
  have h : split ';' (a ++ ";" ++ b) = split ';' a ++ split ';' b := split_append_sep ';' a b
  rw [segments, h, List.filter_append]
  rfl

theorem readings_append (a b : String) : readings (a ++ ";" ++ b) = readings a ++ readings b := by
  rw [readings, segments_append, List.map_append]
  rfl

theorem readings_eq_nil_iff (text : String) : readings text = [] ↔ segments text = [] := List.map_eq_nil_iff

/-! ## Statements -/

namespace Statement

def first : Statement → Stage
  | .single stage => stage
  | .pipeline first _ => first

def ofStages : List Stage → Statement
  | [] => .single ⟨"", []⟩
  | [stage] => .single stage
  | first :: second :: rest => .pipeline first (second :: rest)

def stages : Statement → List Stage
  | .single stage => [stage]
  | .pipeline first rest => first :: rest

theorem stages_ofStages {stages : List Stage} (h : stages ≠ []) : (ofStages stages).stages = stages := by
  cases stages with
  | nil => exact absurd rfl h
  | cons first rest => cases rest <;> rfl

theorem parse_eq_ofStages (segment : String) : Statement.parse segment = ofStages (stagesOf segment) := by
  cases h : hasChar '|' segment with
  | true =>
      obtain ⟨first, second, rest, hs⟩ := exists_split_of_hasChar h
      rw [Statement.parse, if_pos h, stagesOf, hs]
      rfl
  | false =>
      rw [Statement.parse, if_neg (by simp [h]), stagesOf, split_of_not_hasChar h]
      rfl

theorem first_parse (segment : String) : (Statement.parse segment).first.name = firstCommand segment := by
  rw [parse_eq_ofStages, stagesOf, firstCommand]
  cases h : split '|' segment with
  | nil => exact absurd h (split_ne_nil '|' segment)
  | cons piece pieces => cases pieces <;> rfl

end Statement

/-! ## Words -/

theorem Stage.mem_words_of_parse {segment word : String} {stage : Stage} (h : Stage.parse segment = stage)
    (hword : word ∈ stage.args) : word ∈ words segment := by
  subst h
  unfold Stage.parse at hword
  cases hs : words segment with
  | nil => simp [hs] at hword
  | cons name args =>
      rw [hs] at hword
      exact List.mem_cons_of_mem name hword

theorem stagesOf_ne_nil (segment : String) : stagesOf segment ≠ [] := by simp [stagesOf, split_ne_nil]

/-- No argument in a line holds a separator or a blank. -/
theorem of_mem_args {text word : String} {statement : Statement} (h : statement ∈ readings text) {stage : Stage}
    (hstage : stage ∈ statement.stages) (hword : word ∈ stage.args) :
    ∀ c ∈ word.toList, c ≠ ';' ∧ c ≠ '|' ∧ isBlank c = false := by
  obtain ⟨segment, hsegment, rfl⟩ := List.mem_map.mp h
  rw [Statement.parse_eq_ofStages, Statement.stages_ofStages (stagesOf_ne_nil segment)] at hstage
  obtain ⟨piece, hpiece, hparse⟩ := List.mem_map.mp hstage
  intro c hc
  obtain ⟨hcpiece, hblank⟩ := of_mem_words (Stage.mem_words_of_parse hparse hword) c hc
  obtain ⟨hcsegment, hpipe⟩ := of_mem_split hpiece c hcpiece
  obtain ⟨-, hsemi⟩ := of_mem_split (List.mem_filter.mp hsegment).1 c hcsegment
  exact ⟨hsemi, hpipe, hblank⟩

/-! ## Blanks around a text -/

theorem padless_parse : Padless Stage.parse where
  cons hc := by simp only [Stage.parse, padless_words.cons hc]
  snoc hc := by simp only [Stage.parse, padless_words.snoc hc]

theorem padless_stagesOf : Padless stagesOf := padless_parse.pieces (by decide)

/-- What a text spells does not depend on blanks around it. -/
theorem readings_strip (text : String) : readings (strip text) = readings text := by
  let read (segment : String) : Bool × Statement := (isBlankLine segment, .ofStages (stagesOf segment))
  have hread : Padless read := padless_isBlankLine.pair (padless_stagesOf.map Statement.ofStages)
  have heq : ∀ text, readings text = (((split ';' text).map read).filter (!·.1)).map Prod.snd := by
    intro text
    simp [readings, segments, List.filter_map, Function.comp_def, read, Statement.parse_eq_ofStages]
  rw [heq, heq, (hread.pieces (by decide)).strip]

/-! ## Lines -/

theorem statementsOf_eq_readings {text : String} (h : isBlankLine text = false) :
    statementsOf text = readings text := by
  cases hs : hasChar ';' text with
  | true => rw [statementsOf, if_pos hs]; rfl
  | false => simp [statementsOf, hs, readings, segments, split_of_not_hasChar, h]

namespace Line

theorem parse_of_blank {typed : String} (h : strip typed = "") : Line.parse typed = .blank := by
  simp [Line.parse, h]

theorem parse_of_clear {typed : String} (h : strip typed = clearWord) : Line.parse typed = .clear := by
  simp [Line.parse, h, clearWord]

theorem parse_of_run {typed : String} (hne : strip typed ≠ "") (hc : strip typed ≠ clearWord) :
    Line.parse typed = .run (strip typed) (readings typed) := by
  have hb : isBlankLine (strip typed) = false := by
    rw [padless_isBlankLine.strip]
    exact Bool.eq_false_iff.mpr fun h => hne ((strip_eq_empty_iff typed).mpr h)
  simp [Line.parse, hne, hc, statementsOf_eq_readings hb, readings_strip]

end Line

theorem strip_ne_empty {typed : String} (h : readings typed ≠ []) : strip typed ≠ "" := by
  intro he
  rw [← readings_strip, he] at h
  exact h (by decide +kernel)

theorem readings_of_clear {typed : String} (h : strip typed = clearWord) :
    readings typed = [.single ⟨clearWord, []⟩] := by
  rw [← readings_strip, h]
  decide +kernel

/-! ## Execution -/

namespace Registry

variable (r : Registry) {typed : String}

theorem execute_of_blank (h : strip typed = "") (t : Terminal) : r.execute typed t = ("", t) := by
  rw [execute, Line.parse_of_blank h]
  rfl

theorem execute_of_clear (h : strip typed = clearWord) (t : Terminal) :
    r.execute typed t = ((r.runClear t).1, (r.runClear t).2.modifySession .resetCursor) := by
  rw [execute, Line.parse_of_clear h]
  rfl

/-- A line that runs shows itself, runs its statements and records what they say. -/
theorem execute_of_run (hne : strip typed ≠ "") (hc : strip typed ≠ clearWord) (t : Terminal) :
    let ran := r.runStatements (readings typed) (echo (strip typed) t)
    r.execute typed t = (unlines ran.1, (ran.2.record (unlines ran.1)).modifySession .resetCursor) := by
  intro ran
  rw [execute, Line.parse_of_run hne hc]
  rfl

end Registry

end LineShell
