import LineShell.Proofs.Reading

/-!
# Lexemes

A line is a row of words and separators with blanks in between. What the line spells is read off that row alone,
and so is whether it is blank or the word `clear`.
-/

namespace LineShell

open Text

/-! ## Words and separators -/

inductive Lexeme
  | word (text : String)
  | separator (c : Char)
deriving Repr, DecidableEq

def isParting (c : Char) : Bool := c == ';' || c == '|'

def behind : List Char → List Lexeme → List Lexeme
  | [], later => later
  | c :: cs, later => .word (String.ofList (c :: cs)) :: later

/-- The word, empty or not, with which a text begins, and the lexemes that follow it. -/
def scan : List Char → List Char × List Lexeme
  | [] => ([], [])
  | c :: cs =>
    let (first, later) := scan cs
    if isBlank c then ([], behind first later)
    else if isParting c then ([], .separator c :: behind first later)
    else (c :: first, later)

/-- The words of a text, each as long as it can be, and its separators. -/
def lexemes (text : String) : List Lexeme := behind (scan text.toList).1 (scan text.toList).2

/-! ## Scanning -/

section

variable {c : Char} {cs : List Char}

theorem isBlank_of_isParting (h : isParting c = true) : isBlank c = false := by
  rcases Bool.or_eq_true_iff.mp h with hc | hc
  all_goals
    obtain rfl := beq_iff_eq.mp hc
    decide

theorem scan_blank (h : isBlank c = true) : scan (c :: cs) = ([], behind (scan cs).1 (scan cs).2) := if_pos h

theorem scan_parting (h : isParting c = true) :
    scan (c :: cs) = ([], .separator c :: behind (scan cs).1 (scan cs).2) := by
  simp [scan, h, isBlank_of_isParting h]

theorem scan_word (hblank : isBlank c = false) (hparting : isParting c = false) :
    scan (c :: cs) = (c :: (scan cs).1, (scan cs).2) := by
  simp [scan, hblank, hparting]

theorem char_cases (c : Char) :
    isBlank c = true ∨ isParting c = true ∨ (isBlank c = false ∧ isParting c = false) := by
  cases hblank : isBlank c with
  | true => exact .inl rfl
  | false => cases isParting c <;> simp

end

theorem behind_append (first : List Char) (later more : List Lexeme) :
    behind first (later ++ more) = behind first later ++ more := by
  cases first <;> rfl

theorem scan_append_parting {c : Char} (h : isParting c = true) (xs ys : List Char) :
    scan (xs ++ c :: ys) = ((scan xs).1, (scan xs).2 ++ .separator c :: behind (scan ys).1 (scan ys).2) := by
  induction xs with
  | nil => exact scan_parting h
  | cons d xs ih =>
      rw [List.cons_append]
      rcases char_cases d with hd | hd | ⟨hblank, hparting⟩
      · rw [scan_blank hd, scan_blank hd, ih, behind_append]
      · rw [scan_parting hd, scan_parting hd, ih, behind_append, List.cons_append]
      · rw [scan_word hblank hparting, scan_word hblank hparting, ih]

theorem scan_append_blank {c : Char} (h : isBlank c = true) (cs : List Char) : scan (cs ++ [c]) = scan cs := by
  induction cs with
  | nil => exact scan_blank h
  | cons d cs ih =>
      rw [List.cons_append]
      rcases char_cases d with hd | hd | ⟨hblank, hparting⟩
      · rw [scan_blank hd, scan_blank hd, ih]
      · rw [scan_parting hd, scan_parting hd, ih]
      · rw [scan_word hblank hparting, scan_word hblank hparting, ih]

theorem lexemes_append {c : Char} (h : isParting c = true) (a b : String) :
    lexemes (a ++ String.singleton c ++ b) = lexemes a ++ .separator c :: lexemes b := by
  simp only [lexemes, String.toList_append, String.toList_singleton, List.append_assoc, List.singleton_append,
    scan_append_parting h, behind_append]

theorem padless_lexemes : Padless lexemes where
  cons hc := by simp only [lexemes, String.toList_ofList, scan_blank hc, behind]
  snoc hc := by simp only [lexemes, String.toList_ofList, scan_append_blank hc]

/-! ## What lexemes are made of -/

/-- A word is not empty and free of blanks and separators, and all stand among the characters. -/
def Lexeme.StandsIn (cs : List Char) : Lexeme → Prop
  | .word text => text ≠ "" ∧ ∀ c ∈ text.toList, c ∈ cs ∧ isBlank c = false ∧ isParting c = false
  | .separator c => c ∈ cs ∧ isParting c = true

theorem Lexeme.StandsIn.cons {lexeme : Lexeme} {cs : List Char} (h : lexeme.StandsIn cs) (c : Char) :
    lexeme.StandsIn (c :: cs) := by
  cases lexeme with
  | word text => exact ⟨h.1, fun d hd => ⟨List.mem_cons_of_mem c (h.2 d hd).1, (h.2 d hd).2⟩⟩
  | separator d => exact ⟨List.mem_cons_of_mem c h.1, h.2⟩

theorem standsIn_behind {first cs : List Char} {later : List Lexeme}
    (hfirst : ∀ c ∈ first, c ∈ cs ∧ isBlank c = false ∧ isParting c = false) (hlater : ∀ l ∈ later, l.StandsIn cs) :
    ∀ l ∈ behind first later, l.StandsIn cs := by
  cases first with
  | nil => exact hlater
  | cons c first => exact List.forall_mem_cons.mpr ⟨⟨by simp, by simpa using hfirst⟩, hlater⟩

theorem standsIn_scan (cs : List Char) :
    (∀ c ∈ (scan cs).1, c ∈ cs ∧ isBlank c = false ∧ isParting c = false) ∧ ∀ l ∈ (scan cs).2, l.StandsIn cs := by
  induction cs with
  | nil => simp [scan]
  | cons d cs ih =>
      obtain ⟨hfirst, hlater⟩ := ih
      have hall := fun l hl => (standsIn_behind hfirst hlater l hl).cons d
      rcases char_cases d with hd | hd | ⟨hblank, hparting⟩
      · rw [scan_blank hd]
        exact ⟨by simp, hall⟩
      · rw [scan_parting hd]
        exact ⟨by simp, List.forall_mem_cons.mpr ⟨⟨List.mem_cons_self, hd⟩, hall⟩⟩
      · rw [scan_word hblank hparting]
        refine ⟨List.forall_mem_cons.mpr ⟨⟨List.mem_cons_self, hblank, hparting⟩, fun c hc => ?_⟩,
          fun l hl => (hlater l hl).cons d⟩
        exact ⟨List.mem_cons_of_mem d (hfirst c hc).1, (hfirst c hc).2⟩

theorem standsIn_lexemes (text : String) : ∀ l ∈ lexemes text, l.StandsIn text.toList :=
  standsIn_behind (standsIn_scan text.toList).1 (standsIn_scan text.toList).2

/-! ## Blank texts and single words -/

theorem behind_scan_eq_nil_iff (cs : List Char) :
    behind (scan cs).1 (scan cs).2 = [] ↔ cs.all isBlank = true := by
  induction cs with
  | nil => simp [scan, behind]
  | cons c cs ih =>
      rcases char_cases c with hc | hc | ⟨hblank, hparting⟩
      · rw [scan_blank hc, List.all_cons, hc, Bool.true_and]
        exact ih
      · simp [scan_parting hc, behind, isBlank_of_isParting hc]
      · simp [scan_word hblank hparting, behind, hblank]

theorem lexemes_eq_nil_iff (text : String) : lexemes text = [] ↔ isBlankLine text = true :=
  behind_scan_eq_nil_iff text.toList

theorem scan_eq_word {cs word : List Char} (h : scan cs = (word, [])) :
    ∃ blanks, cs = word ++ blanks ∧ ∀ c ∈ blanks, isBlank c = true := by
  induction cs generalizing word with
  | nil =>
      obtain rfl : [] = word := congrArg Prod.fst h
      exact ⟨[], rfl, by simp⟩
  | cons c cs ih =>
      rcases char_cases c with hc | hc | ⟨hblank, hparting⟩
      · rw [scan_blank hc] at h
        obtain ⟨rfl, hnil⟩ := Prod.mk.inj h
        have hall : ∀ d ∈ cs, isBlank d = true := List.all_eq_true.mp ((behind_scan_eq_nil_iff cs).mp hnil)
        exact ⟨c :: cs, rfl, List.forall_mem_cons.mpr ⟨hc, hall⟩⟩
      · rw [scan_parting hc] at h
        exact absurd (Prod.mk.inj h).2 (by simp)
      · rw [scan_word hblank hparting] at h
        obtain ⟨rfl, hnil⟩ := Prod.mk.inj h
        obtain ⟨blanks, hcs, hblanks⟩ := ih (Prod.ext rfl hnil)
        exact ⟨blanks, by rw [List.cons_append, ← hcs], hblanks⟩

theorem scan_eq_singleton {cs word : List Char} (h : behind (scan cs).1 (scan cs).2 = [.word (String.ofList word)]) :
    ∃ before after, cs = before ++ (word ++ after) ∧ (∀ c ∈ before, isBlank c = true) ∧
      ∀ c ∈ after, isBlank c = true := by
  induction cs with
  | nil => exact absurd h (by simp [scan, behind])
  | cons c cs ih =>
      rcases char_cases c with hc | hc | ⟨hblank, hparting⟩
      · rw [scan_blank hc] at h
        obtain ⟨before, after, rfl, hbefore, hafter⟩ := ih h
        exact ⟨c :: before, after, rfl, List.forall_mem_cons.mpr ⟨hc, hbefore⟩, hafter⟩
      · rw [scan_parting hc] at h
        exact absurd (List.cons.inj h).1 nofun
      · have hscan : scan (c :: cs) = (c :: (scan cs).1, (scan cs).2) := scan_word hblank hparting
        rw [hscan] at h
        obtain ⟨hword, hnil⟩ := List.cons.inj h
        have hword : c :: (scan cs).1 = word := String.ofList_injective (Lexeme.word.inj hword)
        obtain ⟨after, hcs, hafter⟩ := scan_eq_word (hscan.trans (Prod.ext hword hnil))
        exact ⟨[], after, hcs, by simp, hafter⟩

theorem dropWhile_around {p : Char → Bool} {before word : List Char} (hbefore : ∀ c ∈ before, p c = true)
    (hne : word ≠ []) (hword : ∀ c ∈ word, p c = false) (more : List Char) :
    (before ++ (word ++ more)).dropWhile p = word ++ more := by
  obtain ⟨c, cs, rfl⟩ := List.exists_cons_of_ne_nil hne
  rw [List.dropWhile_append_of_pos hbefore, List.cons_append,
    List.dropWhile_cons_of_neg (by simp [hword c List.mem_cons_self])]

theorem strip_of_lexemes {text word : String} (h : lexemes text = [.word word]) : strip text = word := by
  have hstands : Lexeme.StandsIn text.toList (.word word) := standsIn_lexemes text _ (by simp [h])
  have hscan : lexemes text = [.word (String.ofList word.toList)] := by rwa [String.ofList_toList]
  obtain ⟨before, after, htext, hbefore, hafter⟩ := scan_eq_singleton hscan
  have hne : word.toList ≠ [] := by simpa using hstands.1
  have hclean : ∀ c ∈ word.toList, isBlank c = false := fun c hc => (hstands.2 c hc).2.1
  have hstart : text.toList.dropWhile isBlank = word.toList ++ after := by
    rw [htext, dropWhile_around hbefore hne hclean]
  have hend : (word.toList ++ after).reverse.dropWhile isBlank = word.toList.reverse := by
    have hblanks : ∀ c ∈ after.reverse, isBlank c = true := by simpa using hafter
    have hletters : ∀ c ∈ word.toList.reverse, isBlank c = false := by simpa using hclean
    have h := dropWhile_around hblanks (by simpa using hne) hletters []
    simpa using h
  rw [strip, trimChars, hstart, hend, List.reverse_reverse, String.ofList_toList]

/-! ## Texts without separators -/

def wordsOf (pieces : List (List Char)) : List Lexeme :=
  (pieces.filter (!·.isEmpty)).map fun piece => .word (String.ofList piece)

theorem behind_wordsOf (first : List Char) (later : List (List Char)) :
    behind first (wordsOf later) = wordsOf (first :: later) := by
  cases first <;> rfl

theorem scan_eq_wordsOf {cs : List Char} (h : ∀ c ∈ cs, isParting c = false) :
    ∃ later, cutChars isBlank cs = (scan cs).1 :: later ∧ (scan cs).2 = wordsOf later := by
  induction cs with
  | nil => exact ⟨[], rfl, rfl⟩
  | cons c cs ih =>
      obtain ⟨hparting, hcs⟩ := List.forall_mem_cons.mp h
      obtain ⟨later, hcut, hlater⟩ := ih hcs
      cases hblank : isBlank c with
      | true =>
          rw [cutChars_cons, if_pos hblank, scan_blank hblank, hcut, hlater, behind_wordsOf]
          exact ⟨_, rfl, rfl⟩
      | false =>
          rw [cutChars_cons, if_neg (by simp [hblank]), scan_word hblank hparting, hcut, hlater]
          exact ⟨_, rfl, rfl⟩

theorem lexemes_of_not_parting {text : String} (h : ∀ c ∈ text.toList, isParting c = false) :
    lexemes text = (words text).map .word := by
  obtain ⟨later, hcut, hlater⟩ := scan_eq_wordsOf h
  rw [lexemes, hlater, behind_wordsOf, ← hcut, words, runs, wordsOf, List.map_map]
  rfl

/-! ## Pieces between separators -/

theorem lexemes_join {sep : Char} (hsep : isParting sep = true) {pieces : List String} (hne : pieces ≠ []) :
    lexemes (join (String.singleton sep) pieces) = [Lexeme.separator sep].intercalate (pieces.map lexemes) := by
  induction pieces with
  | nil => exact absurd rfl hne
  | cons piece rest ih =>
      cases rest with
      | nil => simp [join]
      | cons next rest =>
          have hjoin := join_append (String.singleton sep) (List.cons_ne_nil piece []) (List.cons_ne_nil next rest)
          rw [List.singleton_append] at hjoin
          rw [hjoin, lexemes_append hsep, ih (List.cons_ne_nil next rest)]
          simp [join, List.intercalate_cons_cons]

/-- Cutting a text and cutting the row of its lexemes come to the same. -/
theorem splitOn_lexemes {sep : Char} (hsep : isParting sep = true) (text : String) :
    (lexemes text).splitOn (.separator sep) = (split sep text).map lexemes := by
  have hfree : ∀ l ∈ (split sep text).map lexemes, Lexeme.separator sep ∉ l := by
    intro l hl hmem
    obtain ⟨piece, hpiece, rfl⟩ := List.mem_map.mp hl
    have hstands : Lexeme.StandsIn piece.toList (.separator sep) := standsIn_lexemes piece _ hmem
    exact (of_mem_split hpiece sep hstands.1).2 rfl
  have htext := lexemes_join hsep (split_ne_nil sep text)
  rw [join_split] at htext
  rw [htext, List.splitOn_intercalate _ hfree (by simp [split_ne_nil])]

theorem mem_of_mem_splitOn {α : Type} [DecidableEq α] {a x : α} {xs piece : List α} (hpiece : piece ∈ xs.splitOn a)
    (hx : x ∈ piece) : x ∈ xs := by
  have hmem : ∀ {pieces : List (List α)}, piece ∈ pieces → x ∈ [a].intercalate pieces := by
    intro pieces
    induction pieces with
    | nil => exact fun h => absurd h List.not_mem_nil
    | cons first rest ih =>
        intro h
        cases rest with
        | nil =>
            obtain rfl := List.mem_singleton.mp h
            simpa using hx
        | cons second rest =>
            rw [List.intercalate_cons_cons]
            rcases List.mem_cons.mp h with rfl | h
            · simp [hx]
            · simp [ih h]
  have hjoin : [a].intercalate (xs.splitOn a) = xs := List.intercalate_splitOn a
  rw [← hjoin]
  exact hmem hpiece

/-! ## What lexemes spell -/

def Lexeme.word? : Lexeme → Option String
  | .word text => some text
  | .separator _ => none

def Stage.ofWords : List String → Stage
  | [] => ⟨"", []⟩
  | name :: args => ⟨name, args⟩

def stagesIn (ls : List Lexeme) : List Stage :=
  (ls.splitOn (.separator '|')).map fun ls => Stage.ofWords (ls.filterMap Lexeme.word?)

def statementsIn (ls : List Lexeme) : List Statement :=
  ((ls.splitOn (.separator ';')).filter (!·.isEmpty)).map fun ls => Statement.ofStages (stagesIn ls)

theorem parse_eq_ofWords {piece : String} (h : ∀ c ∈ piece.toList, isParting c = false) :
    Stage.parse piece = Stage.ofWords ((lexemes piece).filterMap Lexeme.word?) := by
  rw [lexemes_of_not_parting h, List.filterMap_map]
  have hwords : (words piece).filterMap (Lexeme.word? ∘ Lexeme.word) = words piece := List.filterMap_some
  rw [hwords]
  rfl

theorem stagesOf_eq_stagesIn {segment : String} (h : ∀ c ∈ segment.toList, c ≠ ';') :
    stagesOf segment = stagesIn (lexemes segment) := by
  rw [stagesOf, stagesIn, splitOn_lexemes rfl, List.map_map]
  refine List.map_congr_left fun piece hpiece => parse_eq_ofWords fun c hc => ?_
  obtain ⟨hsegment, hpipe⟩ := of_mem_split hpiece c hc
  simp [isParting, h c hsegment, hpipe]

theorem readings_eq_statementsIn (text : String) : readings text = statementsIn (lexemes text) := by
  have hblank : ∀ segment, isBlankLine segment = (lexemes segment).isEmpty := by
    intro segment
    rw [Bool.eq_iff_iff, List.isEmpty_iff, lexemes_eq_nil_iff]
  rw [readings, segments, statementsIn, splitOn_lexemes rfl, List.filter_map, List.map_map]
  simp only [hblank, Function.comp_def]
  refine List.map_congr_left fun segment hsegment => ?_
  have hfree := of_mem_split (List.mem_filter.mp hsegment).1
  rw [Statement.parse_eq_ofStages, stagesOf_eq_stagesIn fun c hc => (hfree c hc).2]

theorem word_mem_lexemes {text word : String} {statement : Statement} (h : statement ∈ readings text) {stage : Stage}
    (hstage : stage ∈ statement.stages) (hword : word ∈ stage.args) : .word word ∈ lexemes text := by
  rw [readings_eq_statementsIn] at h
  obtain ⟨segment, hsegment, rfl⟩ := List.mem_map.mp h
  rw [Statement.stages_ofStages (by simp [stagesIn, List.splitOn_ne_nil])] at hstage
  obtain ⟨piece, hpiece, rfl⟩ := List.mem_map.mp hstage
  have hmem : word ∈ piece.filterMap Lexeme.word? := by
    cases hwords : piece.filterMap Lexeme.word? with
    | nil =>
        rw [hwords] at hword
        exact absurd hword List.not_mem_nil
    | cons name args =>
        rw [hwords] at hword
        exact List.mem_cons_of_mem name hword
  obtain ⟨lexeme, hlexeme, hsome⟩ := List.mem_filterMap.mp hmem
  obtain rfl : lexeme = .word word := by
    cases lexeme with
    | word text => exact congrArg Lexeme.word (Option.some.inj hsome)
    | separator c => exact absurd hsome nofun
  exact mem_of_mem_splitOn (List.mem_filter.mp hsegment).1 (mem_of_mem_splitOn hpiece hlexeme)

end LineShell
