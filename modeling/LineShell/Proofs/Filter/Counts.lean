import LineShell.Filter
import LineShell.Proofs.Text.Pieces

/-!
# Counting lines, words and characters

The three numbers that `wc` prints. A text is counted line by line, and its words are the tokens that a
stage is read from.
-/

namespace LineShell

open Text

/-! ## Tokens -/

/-- The tokens of a stage: its name, if it has one, and its arguments. -/
def Stage.tokens (stage : Stage) : List String :=
  if stage.name = "" then stage.args else stage.name :: stage.args

namespace Text

section

variable {p : Char → Bool}

theorem runs_cons_of_pos {c : Char} (hc : p c = true) (cs : List Char) : runs p (c :: cs) = runs p cs := by
  rw [runs, cutChars_cons, if_pos hc]
  rfl

theorem runs_cons_of_neg {c : Char} (hc : p c = false) (cs : List Char) :
    ∃ first rest, cutChars p cs = first :: rest ∧ runs p (c :: cs) = (c :: first) :: rest.filter (!·.isEmpty) := by
  cases hcut : cutChars p cs with
  | nil => exact absurd hcut (by simp [cutChars_eq_splitOnP])
  | cons first rest =>
      refine ⟨first, rest, rfl, ?_⟩
      rw [runs, cutChars_cons, if_neg (by simp [hc]), hcut]
      rfl

theorem length_runs_le (cs : List Char) : (runs p cs).length ≤ cs.length := by
  induction cs with
  | nil => exact Nat.zero_le _
  | cons c cs ih =>
      cases hc : p c with
      | true =>
          rw [runs_cons_of_pos hc]
          exact ih.trans (Nat.le_succ _)
      | false =>
          obtain ⟨first, rest, hcut, hruns⟩ := runs_cons_of_neg hc cs
          have hrest : (rest.filter (!·.isEmpty)).length ≤ (runs p cs).length := by
            rw [runs, hcut]
            exact ((List.sublist_cons_self first rest).filter _).length_le
          rw [hruns, List.length_cons, List.length_cons]
          exact Nat.succ_le_succ (hrest.trans ih)

theorem runs_eq_nil_iff (cs : List Char) : runs p cs = [] ↔ cs.all p = true := by
  induction cs with
  | nil => exact iff_of_true rfl rfl
  | cons c cs ih =>
      cases hc : p c with
      | true => rw [runs_cons_of_pos hc, ih, List.all_cons, hc, Bool.true_and]
      | false =>
          obtain ⟨first, rest, -, hruns⟩ := runs_cons_of_neg hc cs
          simp [hruns, hc]

end

/-- Cutting at runs of separators leaves the same first piece, and the same other pieces but for empty ones. -/
theorem cutRuns_cutChars (p : Char → Bool) (cs : List Char) :
    ∃ first rest rest', cutRuns p cs = first :: rest ∧ cutChars p cs = first :: rest' ∧
      rest.filter (!·.isEmpty) = rest'.filter (!·.isEmpty) := by
  induction cs with
  | nil => exact ⟨[], [], [], rfl, rfl, rfl⟩
  | cons c cs ih =>
      obtain ⟨first, rest, rest', hruns, hchars, hfilter⟩ := ih
      cases hc : p c with
      | false => exact ⟨c :: first, rest, rest', by simp [cutRuns, hc, hruns, consFirst],
          by simp [cutChars_cons, hc, hchars, consFirst], hfilter⟩
      | true =>
          cases hnext : cs.head?.any p with
          | false => exact ⟨[], first :: rest, first :: rest', by simp [cutRuns, hc, hnext, hruns],
              by simp [cutChars_cons, hc, hchars], by simp [List.filter_cons, hfilter]⟩
          | true =>
              -- the run goes on, so the first piece behind it is empty
              obtain rfl : first = [] := by
                cases cs with
                | nil => cases hnext
                | cons d cs =>
                    have hd : p d = true := by simpa using hnext
                    rw [cutChars_cons, if_pos hd] at hchars
                    exact (List.cons.inj hchars).1.symm
              exact ⟨[], rest, [] :: rest', by simp [cutRuns, hc, hnext, hruns],
                by simp [cutChars_cons, hc, hchars], by simp [hfilter]⟩

theorem filter_cutRuns (p : Char → Bool) (cs : List Char) : (cutRuns p cs).filter (!·.isEmpty) = runs p cs := by
  obtain ⟨first, rest, rest', hruns, hchars, hfilter⟩ := cutRuns_cutChars p cs
  rw [runs, hruns, hchars, List.filter_cons, List.filter_cons, hfilter]

theorem words_eq_nil_iff (s : String) : words s = [] ↔ isBlankLine s = true := by
  rw [words, List.map_eq_nil_iff, runs_eq_nil_iff, isBlankLine]

theorem ne_empty_of_mem_words {s word : String} (h : word ∈ words s) : word ≠ "" := by
  obtain ⟨cs, hcs, rfl⟩ := List.mem_map.mp h
  have hne : cs.isEmpty = false := by simpa using (List.mem_filter.mp hcs).2
  simpa using hne

theorem length_words_le (s : String) : (words s).length ≤ size s := by
  rw [words, List.length_map]
  exact length_runs_le s.toList

theorem words_unlines (ls : List String) : words (unlines ls) = ls.flatMap words := by
  induction ls with
  | nil => rfl
  | cons first rest ih =>
      cases rest with
      | nil => simp
      | cons second rest =>
          have hwhole : unlines (first :: second :: rest) = first ++ "\n" ++ unlines (second :: rest) := by
            rw [← unlines_singleton first, ← unlines_append (by simp) (by simp)]
            simp
          rw [hwhole, List.flatMap_cons, ← ih]
          exact words_append_blank (c := '\n') (by decide) first _

theorem unlines_lines (s : String) : unlines (lines s) = s := join_split '\n' s

theorem words_eq_flatMap_lines (s : String) : words s = (lines s).flatMap words := by
  rw [← words_unlines, unlines_lines]

end Text

theorem Stage.tokens_parse (segment : String) : (Stage.parse segment).tokens = words segment := by
  unfold Stage.parse
  cases hwords : words segment with
  | nil => rfl
  | cons name args =>
      have hname : name ≠ "" := ne_empty_of_mem_words (hwords ▸ List.mem_cons_self)
      exact if_neg hname

/-! ## Numbers that are printed -/

namespace Text

theorem isBlank_of_isDigit {c : Char} (h : c.isDigit = true) : isBlank c = false := by
  obtain ⟨hlow, hhigh⟩ := Char.isDigit_iff_toNat.mp h
  have hzero : '0'.toNat = 48 := rfl
  have hnine : '9'.toNat = 57 := rfl
  simp [isBlank, isSpace, isSeparator]
  omega

theorem words_repr (n : Nat) : words n.repr = [n.repr] := by
  refine words_of_not_blank Nat.repr_ne_empty fun c hc => ?_
  rw [Nat.toList_repr] at hc
  exact isBlank_of_isDigit (Nat.isDigit_of_mem_toDigits (by decide) (by decide) hc)

end Text

namespace Filter

/-! ## Laws of the counts -/

theorem wordCount_eq_length_words (text : String) : wordCount text = (words text).length := by
  rw [wordCount, filter_cutRuns, words, List.length_map]

theorem words_counts (l w c : Nat) : words s!"{l}   {w}   {c}" = [toString l, toString w, toString c] := by
  have hpart : ∀ s t : String, words (s ++ "   " ++ t) = words s ++ words t := by
    intro s t
    have hsplit : s ++ "   " ++ t = s ++ " " ++ "" ++ " " ++ "" ++ " " ++ t := by simp [String.append_assoc]
    have hblank : ∀ s t : String, words (s ++ " " ++ t) = words s ++ words t :=
      fun s t => words_append_blank (c := ' ') (by decide) s t
    have hempty : words "" = [] := rfl
    simp only [hsplit, hblank, hempty, List.append_nil]
  have hprinted : s!"{l}   {w}   {c}" = l.repr ++ "   " ++ w.repr ++ "   " ++ c.repr := rfl
  rw [hprinted, hpart, hpart, words_repr, words_repr, words_repr]
  rfl

theorem lineCount_append_newline (a b : String) : lineCount (a ++ "\n" ++ b) = lineCount a + lineCount b := by
  have hlines : lines (a ++ "\n" ++ b) = lines a ++ lines b := split_append_sep '\n' a b
  rw [lineCount, hlines, List.filter_append, List.length_append]
  rfl

theorem wordCount_append_newline (a b : String) : wordCount (a ++ "\n" ++ b) = wordCount a + wordCount b := by
  have hwords : words (a ++ "\n" ++ b) = words a ++ words b := words_append_blank (c := '\n') (by decide) a b
  rw [wordCount_eq_length_words, hwords, List.length_append, ← wordCount_eq_length_words, ← wordCount_eq_length_words]

theorem lineCount_eq (text : String) : lineCount text = (lines text).countP fun line => words line ≠ [] := by
  rw [lineCount, ← List.countP_eq_length_filter]
  refine List.countP_congr fun line _ => ?_
  simp [words_eq_nil_iff]

theorem countP_words_le (ls : List String) :
    (ls.countP fun line => words line ≠ []) ≤ (ls.flatMap words).length := by
  induction ls with
  | nil => exact Nat.le_refl 0
  | cons line rest ih =>
      rw [List.flatMap_cons, List.length_append]
      by_cases hline : words line = []
      · rw [List.countP_cons_of_neg (by simpa using hline), hline]
        simpa using ih
      · have hpos := List.length_pos_iff.mpr hline
        rw [List.countP_cons_of_pos (by simpa using hline)]
        omega

theorem lineCount_le_wordCount (text : String) : lineCount text ≤ wordCount text := by
  rw [lineCount_eq, wordCount_eq_length_words, words_eq_flatMap_lines]
  exact countP_words_le (lines text)

theorem wordCount_le_size (text : String) : wordCount text ≤ size text := by
  rw [wordCount_eq_length_words]
  exact length_words_le text

theorem lineCount_eq_zero_iff (text : String) : lineCount text = 0 ↔ wordCount text = 0 := by
  rw [lineCount_eq, wordCount_eq_length_words, List.length_eq_zero_iff, words_eq_flatMap_lines,
    List.flatMap_eq_nil_iff, List.countP_eq_zero]
  simp

/-- What `wc` prints are three numbers. With a newline between two texts, lines and words add up, and the characters
do with one more. The words are the tokens that the text spells as a stage, the lines those that hold a token; there
are no more lines than words and no more words than characters, and no line only without a word. -/
theorem wc_counts (args : List String) :
    (∀ text, ∃ printed, wc args text = .ok printed ∧
      words printed = [toString (lineCount text), toString (wordCount text), toString (size text)]) ∧
    (∀ a b, lineCount (a ++ "\n" ++ b) = lineCount a + lineCount b ∧
      wordCount (a ++ "\n" ++ b) = wordCount a + wordCount b ∧
      size (a ++ "\n" ++ b) = size a + size b + 1) ∧
    ∀ text, wordCount text = (Stage.parse text).tokens.length ∧
      lineCount text = ((lines text).countP fun line => (Stage.parse line).tokens ≠ []) ∧
      lineCount text ≤ wordCount text ∧ wordCount text ≤ size text ∧
      (lineCount text = 0 ↔ wordCount text = 0) := by
  refine ⟨fun text => ⟨_, rfl, words_counts _ _ _⟩, fun a b => ?_, fun text => ?_⟩
  · refine ⟨lineCount_append_newline a b, wordCount_append_newline a b, ?_⟩
    simp only [size, String.toList_append, List.length_append]
    exact Nat.add_right_comm _ 1 _
  · simp only [Stage.tokens_parse]
    exact ⟨wordCount_eq_length_words text, lineCount_eq text, lineCount_le_wordCount text, wordCount_le_size text,
      lineCount_eq_zero_iff text⟩

end Filter

end LineShell
