import LineShell.Proofs.Filter.Counts
import Mathlib.Data.List.Infix

/-!
# Choosing lines

`grep`, `head` and `tail` leave some of the lines of a text, in order. Choosing lines from chosen lines is one choice,
whether or not any line is left, so what holds of lists of lines holds of the filters.
-/

namespace LineShell.Filter

open Text

/-! ## Choices -/

/-- What a choice of lines leaves of a text. -/
def choose (choice : List String → List String) (text : String) : String := unlines (choice (lines text))

def IsChoice (choice : List String → List String) : Prop := ∀ ls, (choice ls).Sublist ls

theorem hasChar_of_mem_lines {text line : String} (h : line ∈ lines text) : hasChar '\n' line = false :=
  (hasChar_eq_false_iff '\n' line).mpr fun hnewline => (of_mem_split h '\n' hnewline).2 rfl

theorem lines_unlines {kept : List String} {text : String} (hne : kept ≠ []) (h : kept.Sublist (lines text)) :
    lines (unlines kept) = kept :=
  split_join hne fun _ hline => hasChar_of_mem_lines (h.subset hline)

/-- Lines that were kept can be chosen from again. Where none was kept the text has one line, which is empty. -/
theorem choose_unlines {choice : List String → List String} (hc : IsChoice choice) {kept : List String} {text : String}
    (h : kept.Sublist (lines text)) : choose choice (unlines kept) = unlines (choice kept) := by
  by_cases hne : kept = []
  · subst hne
    have hnone : choice [] = [] := List.sublist_nil.mp (hc [])
    have hempty : choice [""] = [] ∨ choice [""] = [""] := List.sublist_singleton.mp (hc [""])
    change unlines (choice [""]) = _
    rcases hempty with hempty | hempty
    · rw [hempty, hnone]
    · rw [hempty, hnone]
      rfl
  · rw [choose, lines_unlines hne h]

theorem choose_choose {first second : List String → List String} (hf : IsChoice first) (hs : IsChoice second)
    (text : String) : choose second (choose first text) = choose (second ∘ first) text :=
  choose_unlines hs (hf (lines text))

theorem length_lines_pos (text : String) : 0 < (lines text).length :=
  List.length_pos_iff.mpr (split_ne_nil '\n' text)

theorem choose_append {first second : List String → List String} {text : String}
    (hwhole : first (lines text) ++ second (lines text) = lines text) (hf : first (lines text) ≠ [])
    (hs : second (lines text) ≠ []) : choose first text ++ "\n" ++ choose second text = text := by
  rw [choose, choose, ← unlines_append hf hs, hwhole, unlines_lines]

/-! ## Lines at either end -/

theorem isChoice_firstOf (n : Int) : IsChoice (firstOf n) := by
  intro ls
  cases n with
  | ofNat k => exact List.take_sublist k ls
  | negSucc k => exact List.take_sublist _ ls

theorem isChoice_lastOf (n : Int) : IsChoice (lastOf n) := by
  intro ls
  cases n with
  | ofNat k => exact List.drop_sublist _ ls
  | negSucc k => exact List.drop_sublist (k + 1) ls

section

variable {args : List String} {n : Int}

theorem head_of_count (h : count args = .ok n) (text : String) : head args text = .ok (choose (firstOf n) text) := by
  rw [head, h]
  rfl

theorem tail_of_count (h : count args = .ok n) (text : String) : tail args text = .ok (choose (lastOf n) text) := by
  rw [tail, h]
  rfl

end

section

variable {α : Type} {k : Nat} (ls : List α)

theorem firstOf_natCast (k : Nat) : firstOf k ls = ls.take k := rfl

theorem lastOf_natCast (k : Nat) : lastOf k ls = ls.drop (ls.length - k) := rfl

theorem firstOf_neg (hk : 1 ≤ k) : firstOf (-k) ls = ls.take (ls.length - k) := by
  obtain ⟨j, rfl⟩ : ∃ j, k = j + 1 := ⟨k - 1, by omega⟩
  rfl

theorem lastOf_neg (hk : 1 ≤ k) : lastOf (-k) ls = ls.drop k := by
  obtain ⟨j, rfl⟩ : ∃ j, k = j + 1 := ⟨k - 1, by omega⟩
  rfl

theorem firstOf_firstOf (a b : Nat) : firstOf a (firstOf b ls) = firstOf (min a b : Nat) ls := by
  simp only [firstOf_natCast, List.take_take]

theorem lastOf_lastOf (a b : Nat) : lastOf a (lastOf b ls) = lastOf (min a b : Nat) ls := by
  simp only [lastOf_natCast, List.drop_drop, List.length_drop]
  congr 1
  omega

end

section

variable {text : String} {k : Nat}

theorem choose_split (hk : 1 ≤ k) (hlt : k < (lines text).length) :
    choose (firstOf k) text ++ "\n" ++ choose (lastOf (-k)) text = text ∧
    choose (firstOf (-k)) text ++ "\n" ++ choose (lastOf k) text = text := by
  have hne : ∀ {ls : List String}, 0 < ls.length → ls ≠ [] := List.length_pos_iff.mp
  constructor
  · refine choose_append ?_ (hne ?_) (hne ?_)
    · rw [firstOf_natCast, lastOf_neg _ hk, List.take_append_drop]
    · rw [firstOf_natCast, List.length_take]
      omega
    · rw [lastOf_neg _ hk, List.length_drop]
      omega
  · refine choose_append ?_ (hne ?_) (hne ?_)
    · rw [firstOf_neg _ hk, lastOf_natCast, List.take_append_drop]
    · rw [firstOf_neg _ hk, List.length_take]
      omega
    · rw [lastOf_natCast, List.length_drop]
      omega

theorem choose_all (hle : (lines text).length ≤ k) :
    choose (firstOf k) text = text ∧ choose (lastOf k) text = text := by
  constructor
  · rw [choose, firstOf_natCast, List.take_of_length_le hle, unlines_lines]
  · rw [choose, lastOf_natCast, Nat.sub_eq_zero_of_le hle, List.drop_zero, unlines_lines]

theorem choose_none (hle : (lines text).length ≤ k) :
    choose (firstOf (-k)) text = "" ∧ choose (lastOf (-k)) text = "" := by
  have hk : 1 ≤ k := (length_lines_pos text).trans_le hle
  constructor
  · rw [choose, firstOf_neg _ hk, Nat.sub_eq_zero_of_le hle, List.take_zero]
    rfl
  · rw [choose, lastOf_neg _ hk, List.drop_eq_nil_of_le hle]
    rfl

end

/-- The first lines and the others make up the text, as do the last lines and the others; where a text has no more
lines than are asked for, all of them or none are left. No line is asked for with zero. Of the first lines the first
ones are those that the smaller number asks for, and so are the last ones of the last. -/
theorem head_tail_laws (text : String) :
    1 ≤ (lines text).length ∧
    (∀ (k : Nat) (plus minus : List String), 1 ≤ k → count plus = .ok k → count minus = .ok (-k) →
      ∃ first others front last, head plus text = .ok first ∧ tail minus text = .ok others ∧
        head minus text = .ok front ∧ tail plus text = .ok last ∧
        (k < (lines text).length → first ++ "\n" ++ others = text ∧ front ++ "\n" ++ last = text) ∧
        ((lines text).length ≤ k → first = text ∧ last = text ∧ front = "" ∧ others = "")) ∧
    (∀ args, count args = .ok 0 → head args text = .ok "" ∧ tail args text = .ok "") ∧
    (∀ (a b : Nat) (outer inner least : List String),
      count outer = .ok a → count inner = .ok b → count least = .ok (min a b : Nat) →
      (∃ first both, head inner text = .ok first ∧ head outer first = .ok both ∧ head least text = .ok both) ∧
      ∃ last both, tail inner text = .ok last ∧ tail outer last = .ok both ∧ tail least text = .ok both) := by
  refine ⟨length_lines_pos text, fun k plus minus hk hplus hminus => ?ends, fun args hargs => ?zero,
    fun a b outer inner least houter hinner hleast => ⟨?first, ?last⟩⟩
  case ends =>
    refine ⟨_, _, _, _, head_of_count hplus text, tail_of_count hminus text, head_of_count hminus text,
      tail_of_count hplus text, choose_split hk, fun hle => ?_⟩
    obtain ⟨hfirst, hlast⟩ := choose_all hle
    obtain ⟨hfront, hothers⟩ := choose_none hle
    exact ⟨hfirst, hlast, hfront, hothers⟩
  case zero =>
    have hnone : lastOf 0 (lines text) = [] := List.drop_length
    rw [head_of_count hargs, tail_of_count hargs, choose, choose, hnone]
    exact ⟨rfl, rfl⟩
  case first =>
    refine ⟨_, _, head_of_count hinner text, head_of_count houter _, ?_⟩
    rw [head_of_count hleast, choose_choose (isChoice_firstOf b) (isChoice_firstOf a)]
    congr 2
    exact (funext fun ls => firstOf_firstOf ls a b).symm
  case last =>
    refine ⟨_, _, tail_of_count hinner text, tail_of_count houter _, ?_⟩
    rw [tail_of_count hleast, choose_choose (isChoice_lastOf b) (isChoice_lastOf a)]
    congr 2
    exact (funext fun ls => lastOf_lastOf ls a b).symm

theorem head_tail_laws_three :
    let text := "a\nb\n"
    (lines text).length = 3 ∧ count ["2"] = .ok 2 ∧ count ["-2x"] = .ok (-2) ∧ count ["x"] = .ok 0 ∧
      count [] = .ok 10 ∧
      (∃ first others, head ["2"] text = .ok first ∧ tail ["-2x"] text = .ok others ∧ first ++ "\n" ++ others = text) ∧
      head ["x"] text = .ok "" ∧
      ∃ last both, tail [] text = .ok last ∧ tail ["2"] last = .ok both ∧ tail ["2"] text = .ok both := by
  intro text
  have hlength : (lines text).length = 3 := by decide
  have htwo : count ["2"] = .ok 2 := by rfl
  have hminus : count ["-2x"] = .ok (-2) := by rfl
  have hzero : count ["x"] = .ok 0 := by rfl
  have hten : count [] = .ok 10 := by rfl
  obtain ⟨-, hends, hnone, hboth⟩ := head_tail_laws text
  obtain ⟨first, others, _, _, hfirst, hothers, -, -, hsplit, -⟩ := hends 2 ["2"] ["-2x"] (by decide) htwo hminus
  exact ⟨hlength, htwo, hminus, hzero, hten, ⟨first, others, hfirst, hothers, (hsplit (by omega)).1⟩,
    (hnone ["x"] hzero).1, (hboth 2 10 ["2"] [] ["2"] htwo hten htwo).2⟩

/-! ## Lines with a pattern -/

/-- The lines of a text that hold a pattern. -/
def linesWith (pattern text : String) : List String :=
  (lines text).filter fun line => pattern.toList <:+: line.toList

def holding (pattern : String) : List String → List String := List.filter (hasPart pattern)

theorem isChoice_holding (pattern : String) : IsChoice (holding pattern) := fun _ => List.filter_sublist

theorem grep_cons (pattern : String) (more : List String) (text : String) :
    grep (pattern :: more) text = .ok (choose (holding pattern) text) := rfl

theorem holding_lines (pattern text : String) : holding pattern (lines text) = linesWith pattern text := by
  refine List.filter_congr fun line _ => ?_
  rw [Bool.eq_iff_iff, hasPart_iff, decide_eq_true_iff]

theorem choose_holding (pattern text : String) : choose (holding pattern) text = unlines (linesWith pattern text) := by
  rw [choose, holding_lines]

theorem lines_choose_holding {pattern text : String} (hne : linesWith pattern text ≠ []) :
    lines (choose (holding pattern) text) = linesWith pattern text := by
  rw [choose_holding]
  exact lines_unlines hne List.filter_sublist

theorem choose_holding_self (pattern text : String) :
    choose (holding pattern) (choose (holding pattern) text) = choose (holding pattern) text := by
  rw [choose_choose (isChoice_holding pattern) (isChoice_holding pattern)]
  congr 1
  funext ls
  simp [holding]

theorem choose_holding_comm (p q text : String) :
    choose (holding p) (choose (holding q) text) = choose (holding q) (choose (holding p) text) := by
  rw [choose_choose (isChoice_holding q) (isChoice_holding p), choose_choose (isChoice_holding p) (isChoice_holding q)]
  congr 1
  funext ls
  exact List.filter_comm (hasPart p) (hasPart q) ls

section

variable {pattern text : String}

/-- Nothing is left exactly if no line holds the pattern, as an empty line does not. -/
theorem choose_holding_eq_empty_iff (hne : pattern ≠ "") :
    choose (holding pattern) text = "" ↔ linesWith pattern text = [] := by
  constructor
  · intro hempty
    by_contra hsome
    have hlines : linesWith pattern text = [""] := by
      rw [← lines_choose_holding hsome, hempty]
      rfl
    have hheld : pattern.toList <:+: "".toList := by
      have hmem : "" ∈ linesWith pattern text := hlines ▸ List.mem_cons_self
      simpa using (List.mem_filter.mp hmem).2
    exact hne (by simpa using hheld)
  · intro hnone
    rw [choose_holding, hnone]
    rfl

theorem linesWith_eq (hne : pattern ≠ "") :
    linesWith pattern text =
      if choose (holding pattern) text = "" then [] else lines (choose (holding pattern) text) := by
  split
  · exact (choose_holding_eq_empty_iff hne).mp ‹_›
  · exact (lines_choose_holding (mt (choose_holding_eq_empty_iff hne).mpr ‹_›)).symm

theorem lineCount_choose_holding (hvisible : isBlankLine pattern = false) :
    lineCount (choose (holding pattern) text) = (linesWith pattern text).length := by
  by_cases hnone : linesWith pattern text = []
  · rw [choose_holding, hnone]
    rfl
  · rw [lineCount, lines_choose_holding hnone, List.filter_eq_self.mpr]
    intro line hline
    have hheld : pattern.toList <:+: line.toList := by simpa using (List.mem_filter.mp hline).2
    obtain ⟨c, hc, hblank⟩ := List.all_eq_false.mp hvisible
    simpa [isBlankLine] using ⟨c, hheld.subset hc, by simpa using hblank⟩

end

/-- Looking for a pattern again changes nothing, and of two patterns either may be looked for first. What is left of a
text are the lines that hold the pattern, none where nothing is left, and if the pattern is not blank `wc` counts them
all. -/
theorem grep_laws (p q : String) (more more' : List String) (text : String) :
    ∃ kept, grep (p :: more) text = .ok kept ∧ grep (p :: more') kept = .ok kept ∧
      (∃ other both, grep (q :: more') text = .ok other ∧
        grep (p :: more) other = .ok both ∧ grep (q :: more') kept = .ok both) ∧
      (p ≠ "" → linesWith p text = if kept = "" then [] else lines kept) ∧
      ((∃ c ∈ p.toList, isBlank c = false) → ∀ args, ∃ printed, wc args kept = .ok printed ∧
        (words printed).head? = some (toString (linesWith p text).length)) := by
  refine ⟨_, grep_cons p more text, ?again, ⟨_, _, grep_cons q more' text, grep_cons p more _, ?other⟩, linesWith_eq,
    fun hvisible args => ⟨_, rfl, ?count⟩⟩
  case again => rw [grep_cons, choose_holding_self]
  case other => rw [grep_cons, choose_holding_comm]
  case count =>
    have hblank : isBlankLine p = false := by simpa [isBlankLine] using hvisible
    rw [words_counts, List.head?_cons, lineCount_choose_holding hblank]

theorem grep_laws_twice :
    let text := "a b\n\na b\nb"
    "a" ≠ "" ∧ (∃ c ∈ "a".toList, isBlank c = false) ∧ linesWith "a" text = ["a b", "a b"] ∧
      ∃ kept printed, grep ["a"] text = .ok kept ∧ lines kept = ["a b", "a b"] ∧ wc [] kept = .ok printed ∧
        (words printed).head? = some "2" := by
  intro text
  have hne : "a" ≠ "" := by decide
  have hvisible : ∃ c ∈ "a".toList, isBlank c = false := ⟨'a', by decide, by decide⟩
  have hlines : linesWith "a" text = ["a b", "a b"] := by decide +kernel
  obtain ⟨kept, hkept, -, -, hheld, hcount⟩ := grep_laws "a" "b" [] [] text
  obtain ⟨printed, hprinted, hhead⟩ := hcount hvisible []
  have hheld' := hheld hne
  rw [hlines] at hheld' hhead
  refine ⟨hne, hvisible, hlines, kept, printed, hkept, ?_, hprinted, hhead⟩
  split at hheld'
  · cases hheld'
  · exact hheld'.symm

end LineShell.Filter
