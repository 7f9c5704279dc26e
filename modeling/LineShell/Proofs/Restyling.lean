import LineShell.Proofs.Stretches
import LineShell.Proofs.Tokens

/-!
# Restyling a line

A rendered line is the text between the tokens with what is shown for each token in its place, and the stretches of
the line are what was shown for tokens.
-/

namespace LineShell

open Text

/-! ## Parts one behind the other -/

def Parts.shown (parts : Parts) : List Char :=
  (parts.tokens.flatMap fun (gap, token) => gap ++ token.shown.1) ++ parts.last

/-- The stretches of what is shown: one for each token for which anything is shown, behind all that stands before. -/
def Parts.spans (parts : Parts) : List Span :=
  parts.tokens.zipIdx.flatMap fun ((gap, token), i) =>
    let front := printed (shown ⟨parts.tokens.take i, gap⟩)
    if token.shown.1 = [] then [] else
      [⟨front.length, front.length + (printed token.shown.1).length, token.shown.2⟩]

/-- A token behind the text before it, in its style. -/
def Token.behind (gap : List Char) (token : Token) : StyledText :=
  (StyledText.append gap none {}).append token.shown.1 (some token.shown.2)

theorem printed_append (first second : List Char) : printed (first ++ second) = printed first ++ printed second :=
  List.filter_append _ _

section

variable (gap : List Char) (token : Token)

theorem plain_behind : (token.behind gap).plain = String.ofList (printed (gap ++ token.shown.1)) := by
  rw [Token.behind, StyledText.append_none, printed_append]
  cases h : token.shown.1 with
  | nil => simp [printed]
  | cons c cs => simp [StyledText.append]

theorem spans_behind : (token.behind gap).spans = if token.shown.1 = [] then [] else
    [⟨(printed gap).length, (printed gap).length + (printed token.shown.1).length, token.shown.2⟩] := by
  rw [Token.behind, StyledText.append_none]
  cases h : token.shown.1 with
  | nil => simp
  | cons c cs => simp [StyledText.append, size]

theorem orderly_behind : (token.behind gap).Orderly := (StyledText.orderly_piece gap none).append _ _

theorem covered_behind : (token.behind gap).covered =
    if token.shown.1 = [] then [] else [(printed token.shown.1, token.shown.2)] := by
  have hgap : (StyledText.append gap none {}).covered = [] :=
    StyledText.covered_append_none StyledText.orderly_empty gap
  rw [Token.behind]
  split
  · rename_i hpiece
    rw [hpiece, StyledText.append_nil, hgap]
  · rename_i hpiece
    rw [StyledText.covered_append_some (StyledText.orderly_piece gap none) hpiece, hgap, List.nil_append]

end

def Parts.texts (parts : Parts) : List StyledText :=
  (parts.tokens.map fun (gap, token) => token.behind gap) ++ [StyledText.append parts.last none {}]

theorem Parts.onto_eq (parts : Parts) : parts.onto {} = StyledText.concat parts.texts := by
  have htoken : ∀ (text : StyledText) (found : List Char × Token),
      (text.append found.1 none).append found.2.shown.1 (some found.2.shown.2) =
        text.followedBy (found.2.behind found.1) := by
    intro text found
    calc (text.append found.1 none).append found.2.shown.1 (some found.2.shown.2)
      _ = (text.followedBy (StyledText.append found.1 none {})).followedBy
            (StyledText.append found.2.shown.1 (some found.2.shown.2) {}) := by
        rw [StyledText.append_eq_followedBy, StyledText.append_eq_followedBy found.1]
      _ = text.followedBy (found.2.behind found.1) := by
        rw [StyledText.followedBy_assoc, ← StyledText.append_eq_followedBy, Token.behind]
  rw [texts, StyledText.concat_snoc, ← StyledText.append_eq_followedBy, StyledText.concat, List.foldl_map, Parts.onto]
  simp only [htoken]

/-- A rendered line is the texts of its parts. -/
theorem renderLine_eq_concat (line : String) : renderLine line = StyledText.concat (partsOf line).texts :=
  (partsOf line).onto_eq

/-! ## What is shown, and where -/

section

variable (parts : Parts)

theorem plain_concat_behind (tokens : List (List Char × Token)) :
    (StyledText.concat (tokens.map fun (gap, token) => token.behind gap)).plain =
      String.ofList (printed (tokens.flatMap fun (gap, token) => gap ++ token.shown.1)) := by
  apply String.toList_inj.mp
  rw [StyledText.plain_concat, toList_join_empty]
  simp [List.flatMap_map, plain_behind, printed, List.filter_flatMap]

theorem plain_texts : (StyledText.concat parts.texts).plain = String.ofList (printed parts.shown) := by
  rw [Parts.texts, StyledText.concat_snoc, ← StyledText.append_eq_followedBy, StyledText.append_none,
    plain_concat_behind, Parts.shown, printed_append, String.ofList_append]

theorem spans_texts : (StyledText.concat parts.texts).spans = parts.spans := by
  have hlast : (StyledText.append parts.last none {}).spans = [] := by rw [StyledText.append_none]
  rw [Parts.texts, StyledText.concat_snoc, StyledText.followedBy, hlast, List.map_nil, List.append_nil,
    StyledText.spans_concat, List.zipIdx_map, List.flatMap_map]
  refine List.flatMap_congr fun found _ => ?_
  simp only [Prod.map, id, spans_behind, ← List.map_take, plain_concat_behind]
  split
  · rfl
  · simp [Span.shift, size, Parts.shown, printed_append, Nat.add_assoc]

theorem orderly_of_mem_texts : ∀ text ∈ parts.texts, text.Orderly := by
  intro text htext
  rcases List.mem_append.mp htext with htext | htext
  · obtain ⟨⟨gap, token⟩, -, rfl⟩ := List.mem_map.mp htext
    exact orderly_behind gap token
  · rw [List.mem_singleton.mp htext]
    exact StyledText.orderly_piece _ _

theorem covered_texts :
    (StyledText.concat parts.texts).covered = parts.tokens.flatMap fun (gap, token) => (token.behind gap).covered := by
  have hlast : (StyledText.append parts.last none {}).covered = [] :=
    StyledText.covered_append_none StyledText.orderly_empty parts.last
  rw [(StyledText.covered_concat _ (orderly_of_mem_texts parts)).2, Parts.texts, List.flatMap_append,
    List.flatMap_singleton, hlast, List.append_nil, List.flatMap_map]

theorem covered_texts_eq_map : (StyledText.concat parts.texts).covered =
    ((parts.tokens.map fun (_, token) => token.shown).filter (·.1 ≠ [])).map fun (piece, style) =>
      (printed piece, style) := by
  rw [covered_texts]
  simp only [covered_behind]
  induction parts.tokens with
  | nil => rfl
  | cons found tokens ih =>
      rw [List.flatMap_cons, ih, List.map_cons, List.filter_cons]
      by_cases hpiece : found.2.shown.1 = [] <;> simp [hpiece]

end

/-! ## Lines -/

theorem gap_of_isParted {cs : List Char} {parts : Parts} (h : IsParted cs parts) {gap : List Char}
    (hgap : gap ∈ parts.last :: parts.tokens.map Prod.fst) {token : Token} (hwhole : token.IsWhole) :
    ¬token.spelling <:+: gap := by
  induction h with
  | last hnone =>
      obtain rfl : gap = _ := List.mem_singleton.mp hgap
      exact hnone.absent hwhole
  | token hnone _ _ ih =>
      simp only [List.map_cons, List.mem_cons] at hgap
      rcases hgap with hlast | hfirst | hlater
      · exact ih (List.mem_cons.mpr (.inl hlast))
      · rw [hfirst]
        exact hnone.absent hwhole
      · exact ih (List.mem_cons.mpr (.inr hlater))

theorem renderLine_of_none {line : String} (h : ∀ token : Token, token.IsWhole → ¬token.spelling <:+: line.toList) :
    renderLine line = { plain := String.ofList (printed line.toList) } := by
  have hparts : partsOf line = ⟨[], line.toList⟩ := (IsParted.last (noneBegins_end_iff.mpr h)).partsFrom_eq
  rw [renderLine_eq_concat, hparts, Parts.texts, StyledText.concat_snoc, ← StyledText.append_eq_followedBy]
  exact StyledText.append_none _ _

theorem orderly_renderLine (line : String) : (renderLine line).Orderly := by
  rw [renderLine_eq_concat]
  exact (StyledText.covered_concat _ (orderly_of_mem_texts _)).1

theorem renderLine_concat {c : Char} (hclosing : c ≠ ']') (hcode : c ≠ 'm') (line : String) :
    renderLine (line ++ String.singleton c) = (renderLine line).append [c] none := by
  have hparts := (isParted_iff.mpr rfl : IsParted line.toList (partsOf line)).concat hclosing hcode
  rw [renderLine_eq, renderLine_eq, renderFrom, String.toList_append, String.toList_singleton, hparts.partsFrom_eq]
  exact (StyledText.append_append _ _ _).symm

/-- A line falls into tokens and the text between them in one way, and that text holds no token. The rendered line is
that text with what is shown for each token, and has a stretch for each token for which anything is shown, exactly
there and in the style of the token. The stretches follow one another. A line without a token is left as it is. What no
console prints is left out. -/
theorem renderLine_restyles (line : String) :
    let parts := partsOf line
    let text := renderLine line
    (∀ other, IsParted line.toList other ↔ other = parts) ∧
    (∀ gap ∈ parts.last :: parts.tokens.map Prod.fst, ∀ token : Token, token.IsWhole → ¬token.spelling <:+: gap) ∧
    text.plain = String.ofList (printed parts.shown) ∧ text.style = "" ∧
    text.spans = parts.spans ∧
    (text.covered = ((parts.tokens.map fun (_, token) => token.shown).filter (·.1 ≠ [])).map fun (piece, style) =>
      (printed piece, style)) ∧
    text.Orderly ∧
    ((∀ token : Token, token.IsWhole → ¬token.spelling <:+: line.toList) →
      text = { plain := String.ofList (printed line.toList) }) := by
  intro parts text
  have htext : text = StyledText.concat parts.texts := renderLine_eq_concat line
  refine ⟨fun other => isParted_iff, fun gap hgap token => gap_of_isParted (isParted_iff.mpr rfl) hgap, ?plain,
    style_renderLine line, ?spans, ?covered, orderly_renderLine line, renderLine_of_none⟩
  case plain => rw [htext, plain_texts]
  case spans => rw [htext, spans_texts]
  case covered => rw [htext, covered_texts_eq_map]

/-- A directive ends at the first reset, also where an opening or the start of a control stands in it. -/
example : renderLine "\x1b[1;32ma\x1b[1;31m[utilizza:\x1b[0mb][utilizza:c]\x1b[2;37m" =
    { plain := "a\x1b[1;31m[utilizza:b][:use c]\x1b[2;37m"
      spans := [⟨0, 18, "ansi.green"⟩, ⟨20, 28, "entity.control"⟩] } := by
  decide +kernel

end LineShell
