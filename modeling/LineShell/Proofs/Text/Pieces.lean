import LineShell.Text.Cut
import Mathlib.Data.List.DropRight

/-!
# Pieces of a text

Cutting is the splitting of the library, so cutting and joining undo each other. What is read from the
pieces and words of a text does not depend on blanks at its ends.
-/

namespace LineShell.Text

/-! ## Cutting -/

theorem cutChars_cons (p : Char → Bool) (c : Char) (cs : List Char) :
    cutChars p (c :: cs) = if p c then [] :: cutChars p cs else consFirst c (cutChars p cs) := rfl

theorem cutChars_eq_splitOnP (p : Char → Bool) (cs : List Char) : cutChars p cs = cs.splitOnP p := by
  induction cs with
  | nil => rfl
  | cons c cs ih =>
      rw [cutChars_cons, ih, List.splitOnP_cons_eq_if_modifyHead]
      cases h : cs.splitOnP p with
      | nil => exact absurd h (List.splitOnP_ne_nil p cs)
      | cons piece pieces => simp [consFirst]

theorem split_eq_splitOn (sep : Char) (s : String) :
    split sep s = (s.toList.splitOn sep).map String.ofList := by
  rw [split, cutChars_eq_splitOnP, List.splitOn_eq_splitOnP]

theorem split_ne_nil (sep : Char) (s : String) : split sep s ≠ [] := by simp [split_eq_splitOn]

theorem hasChar_eq_false_iff (c : Char) (s : String) : hasChar c s = false ↔ c ∉ s.toList := by
  rw [hasChar, List.any_beq', List.contains_eq_mem, decide_eq_false_iff_not]

theorem hasChar_append (c : Char) (s t : String) : hasChar c (s ++ t) = (hasChar c s || hasChar c t) := by
  simp [hasChar]

theorem split_of_not_hasChar {sep : Char} {s : String} (h : hasChar sep s = false) : split sep s = [s] := by
  rw [split_eq_splitOn, List.splitOn_eq_singleton ((hasChar_eq_false_iff sep s).mp h)]
  simp

theorem split_append_sep (sep : Char) (s t : String) :
    split sep (s ++ String.singleton sep ++ t) = split sep s ++ split sep t := by
  simp only [split_eq_splitOn, String.toList_append, String.toList_singleton, List.append_assoc,
    List.singleton_append, List.splitOn_append_cons_self, List.map_append]

theorem exists_split_of_hasChar {sep : Char} {s : String} (h : hasChar sep s = true) :
    ∃ first second rest, split sep s = first :: second :: rest := by
  obtain ⟨c, hc, hcs⟩ := List.any_eq_true.mp h
  obtain rfl : c = sep := by simpa using hcs
  obtain ⟨xs, ys, hxy⟩ := List.append_of_mem hc
  have hs : s = String.ofList xs ++ String.singleton c ++ String.ofList ys := by
    apply String.toList_inj.mp
    simp [hxy]
  rw [hs, split_append_sep]
  cases hx : split c (String.ofList xs) with
  | nil => exact absurd hx (split_ne_nil c _)
  | cons first xs =>
      cases hy : split c (String.ofList ys) with
      | nil => exact absurd hy (split_ne_nil c _)
      | cons second ys => cases xs <;> exact ⟨_, _, _, rfl⟩

/-! ## What stands in a piece -/

theorem of_mem_cutChars {p : Char → Bool} {cs piece : List Char} (h : piece ∈ cutChars p cs) :
    ∀ c ∈ piece, c ∈ cs ∧ p c = false := by
  induction cs generalizing piece with
  | nil =>
      obtain rfl : piece = [] := List.mem_singleton.mp h
      simp
  | cons d cs ih =>
      have hlater : ∀ {later}, later ∈ cutChars p cs → ∀ c ∈ later, c ∈ d :: cs ∧ p c = false := fun hmem c hc =>
        ⟨List.mem_cons_of_mem d (ih hmem c hc).1, (ih hmem c hc).2⟩
      rw [cutChars_cons] at h
      cases hd : p d with
      | true =>
          rw [if_pos hd] at h
          rcases List.mem_cons.mp h with rfl | h
          · simp
          · exact hlater h
      | false =>
          have hd' : d ∈ d :: cs ∧ p d = false := ⟨List.mem_cons_self, hd⟩
          rw [if_neg (by simp [hd])] at h
          -- the character goes to the front of the first piece
          cases hcut : cutChars p cs with
          | nil =>
              rw [hcut] at h
              obtain rfl : piece = [d] := List.mem_singleton.mp h
              simpa using hd
          | cons first rest =>
              rw [hcut] at h hlater
              rcases List.mem_cons.mp h with rfl | h
              · exact List.forall_mem_cons.mpr ⟨hd', hlater List.mem_cons_self⟩
              · exact hlater (List.mem_cons_of_mem first h)

theorem of_mem_split {sep : Char} {s piece : String} (h : piece ∈ split sep s) :
    ∀ c ∈ piece.toList, c ∈ s.toList ∧ c ≠ sep := by
  obtain ⟨cs, hcs, rfl⟩ := List.mem_map.mp h
  simpa using of_mem_cutChars hcs

theorem of_mem_words {s word : String} (h : word ∈ words s) :
    ∀ c ∈ word.toList, c ∈ s.toList ∧ isBlank c = false := by
  obtain ⟨cs, hcs, rfl⟩ := List.mem_map.mp h
  simpa using of_mem_cutChars (List.mem_filter.mp hcs).1

/-! ## Parts -/

theorem occursIn_eq_true_iff (part cs : List Char) : occursIn part cs = true ↔ part <:+: cs := by
  induction cs with
  | nil => simp [occursIn]
  | cons c cs ih => rw [occursIn, Bool.or_eq_true, ih, List.isPrefixOf_iff_prefix, List.infix_cons_iff]

theorem hasPart_iff (part s : String) : hasPart part s = true ↔ part.toList <:+: s.toList :=
  occursIn_eq_true_iff part.toList s.toList

/-! ## Joining -/

theorem join_eq_intercalate (sep : String) (pieces : List String) : join sep pieces = sep.intercalate pieces := by
  rw [join, ← String.toList_intercalate, String.ofList_toList]

theorem join_append (sep : String) {xs ys : List String} (hx : xs ≠ []) (hy : ys ≠ []) :
    join sep (xs ++ ys) = join sep xs ++ sep ++ join sep ys := by
  simp only [join_eq_intercalate, String.intercalate_append_of_ne_nil hx hy]

theorem unlines_append {xs ys : List String} (hx : xs ≠ []) (hy : ys ≠ []) :
    unlines (xs ++ ys) = unlines xs ++ "\n" ++ unlines ys :=
  join_append "\n" hx hy

theorem toList_join_singleton (sep : Char) (pieces : List String) :
    (join (String.singleton sep) pieces).toList = [sep].intercalate (pieces.map String.toList) := by
  simp [join]

theorem join_split (sep : Char) (s : String) : join (String.singleton sep) (split sep s) = s := by
  apply String.toList_inj.mp
  rw [toList_join_singleton, split_eq_splitOn, List.map_map]
  simp [Function.comp_def, List.intercalate_splitOn]

theorem split_join {sep : Char} {pieces : List String} (hne : pieces ≠ [])
    (h : ∀ piece ∈ pieces, hasChar sep piece = false) :
    split sep (join (String.singleton sep) pieces) = pieces := by
  have hclean : ∀ l ∈ pieces.map String.toList, sep ∉ l := by simpa [hasChar_eq_false_iff] using h
  have hsplit := List.splitOn_intercalate sep hclean (by simpa using hne)
  rw [split_eq_splitOn, toList_join_singleton, hsplit]
  simp

@[simp] theorem unlines_singleton (s : String) : unlines [s] = s := by
  rw [unlines, join_eq_intercalate, String.intercalate_singleton]

theorem toList_join_empty (pieces : List String) : (join "" pieces).toList = pieces.flatMap String.toList := by
  induction pieces with
  | nil => rfl
  | cons first rest ih =>
      rw [List.flatMap_cons, ← ih]
      cases rest with
      | nil => simp [join]
      | cons second rest => simp [join, List.intercalate_cons_cons]

/-! ## Blanks at the ends -/

/-- A reading of a text that passes over blanks at its ends. -/
structure Padless (f : String → α) : Prop where
  cons : ∀ {c cs}, isBlank c = true → f (String.ofList (c :: cs)) = f (String.ofList cs)
  snoc : ∀ {c cs}, isBlank c = true → f (String.ofList (cs ++ [c])) = f (String.ofList cs)

namespace Padless

variable {f : String → α}

theorem map (g : α → β) (hf : Padless f) : Padless fun s => g (f s) where
  cons hc := congrArg g (hf.cons hc)
  snoc hc := congrArg g (hf.snoc hc)

theorem pair {f' : String → β} (hf : Padless f) (hf' : Padless f') : Padless fun s => (f s, f' s) where
  cons hc := by rw [hf.cons hc, hf'.cons hc]
  snoc hc := by rw [hf.snoc hc, hf'.snoc hc]

theorem strip (hf : Padless f) (s : String) : f (strip s) = f s := by
  have hstart : ∀ cs, f (String.ofList (cs.dropWhile isBlank)) = f (String.ofList cs) := by
    intro cs
    induction cs with
    | nil => rfl
    | cons c cs ih =>
        cases hc : isBlank c with
        | true => rw [List.dropWhile_cons_of_pos hc, ih, hf.cons hc]
        | false => rw [List.dropWhile_cons_of_neg (by simp [hc])]
  have hend : ∀ cs, f (String.ofList (cs.rdropWhile isBlank)) = f (String.ofList cs) := by
    intro cs
    induction cs using List.reverseRecOn with
    | nil => rfl
    | append_singleton cs c ih =>
        cases hc : isBlank c with
        | true => rw [List.rdropWhile_concat_pos _ _ _ hc, ih, hf.snoc hc]
        | false => rw [List.rdropWhile_concat_neg _ _ _ (by simp [hc])]
  calc f (Text.strip s) = f (String.ofList (s.toList.dropWhile isBlank)) := hend _
    _ = f (String.ofList s.toList) := hstart _
    _ = f s := by rw [String.ofList_toList]

end Padless

theorem padless_isBlankLine : Padless isBlankLine where
  cons hc := by simp [isBlankLine, hc]
  snoc hc := by simp [isBlankLine, hc]

theorem padless_words : Padless words where
  cons hc := by simp [words, runs, cutChars_eq_splitOnP, List.splitOnP_cons_eq_if_modifyHead, hc]
  snoc {c cs} hc := by simp [words, runs, cutChars_eq_splitOnP, List.splitOnP_append_cons cs [] hc]

theorem words_append_blank {c : Char} (hc : isBlank c = true) (s t : String) :
    words (s ++ String.singleton c ++ t) = words s ++ words t := by
  simp only [words, runs, cutChars_eq_splitOnP, String.toList_append, String.toList_singleton, List.append_assoc,
    List.singleton_append, List.splitOnP_append_cons _ _ hc, List.filter_append, List.map_append]

theorem words_of_not_blank {s : String} (hne : s ≠ "") (h : ∀ c ∈ s.toList, isBlank c = false) : words s = [s] := by
  have hne' : s.toList ≠ [] := by simpa using hne
  simp [words, runs, cutChars_eq_splitOnP, List.splitOnP_eq_singleton h, hne']

/-- A character at the end that is no separator goes to the last piece. -/
theorem cutChars_snoc {p : Char → Bool} {c : Char} (hc : p c = false) (cs : List Char) :
    ∃ init last, cutChars p cs = init ++ [last] ∧ cutChars p (cs ++ [c]) = init ++ [last ++ [c]] := by
  simp only [cutChars_eq_splitOnP]
  induction cs with
  | nil => exact ⟨[], [], rfl, by simp [List.splitOnP_cons_eq_if_modifyHead, hc]⟩
  | cons d cs ih =>
      obtain ⟨init, last, h, h'⟩ := ih
      simp only [List.cons_append, List.splitOnP_cons_eq_if_modifyHead, h, h']
      cases p d with
      | true => exact ⟨[] :: init, last, rfl, rfl⟩
      | false =>
          cases init with
          | nil => exact ⟨[], d :: last, rfl, rfl⟩
          | cons piece init => exact ⟨(d :: piece) :: init, last, rfl, rfl⟩

/-- What is read from the pieces passes over blanks at the ends of the whole, if the reading of a piece does. -/
theorem Padless.pieces {f : String → α} {sep : Char} (hf : Padless f) (hsep : isBlank sep = false) :
    Padless fun s => (split sep s).map f := by
  have hne : ∀ {c}, isBlank c = true → (c == sep) = false := by
    intro c hc
    rw [beq_eq_false_iff_ne]
    rintro rfl
    simp [hsep] at hc
  constructor
  · intro c cs hc
    simp only [split, String.toList_ofList, cutChars_eq_splitOnP, List.splitOnP_cons_eq_if_modifyHead, hne hc]
    cases cs.splitOnP (· == sep) with
    | nil => rfl
    | cons piece pieces => simpa using hf.cons hc
  · intro c cs hc
    obtain ⟨init, last, h, h'⟩ := cutChars_snoc (p := (· == sep)) (hne hc) cs
    simp only [split, String.toList_ofList, h, h']
    simpa using hf.snoc hc

theorem strip_eq_self {s : String} (hfirst : ∀ c ∈ s.toList.head?, isBlank c = false)
    (hlast : ∀ c ∈ s.toList.getLast?, isBlank c = false) : strip s = s := by
  have hstart : s.toList.dropWhile isBlank = s.toList := by
    rw [List.dropWhile_eq_self_iff]
    intro h
    simp [hfirst _ (List.head?_eq_getElem? ▸ List.getElem?_eq_getElem h)]
  have hend : s.toList.rdropWhile isBlank = s.toList := by
    rw [List.rdropWhile_eq_self_iff]
    intro h
    simp [hlast _ (List.getLast?_eq_some_getLast h)]
  calc strip s = String.ofList ((s.toList.dropWhile isBlank).rdropWhile isBlank) := rfl
    _ = s := by rw [hstart, hend, String.ofList_toList]

theorem strip_eq_empty_iff (s : String) : strip s = "" ↔ isBlankLine s = true := by
  constructor
  · intro h
    rw [← padless_isBlankLine.strip, h]
    rfl
  · intro h
    have hall : ∀ c ∈ s.toList, isBlank c = true := by simpa [isBlankLine] using h
    rw [strip, trimChars, List.dropWhile_eq_nil_iff.mpr hall]
    rfl

end LineShell.Text
