import LineShell.Proofs.Controls

/-!
# Rendering a line

A line is rendered from the left: for a token stands what is shown for it, and every other character stands for
itself. The whole has no style of its own.
-/

namespace LineShell

/-! ## Pieces -/

namespace StyledText

variable {text : StyledText}

@[simp] theorem style_append (piece : List Char) (style : Option String) :
    (text.append piece style).style = text.style := by
  unfold append
  split
  · rfl
  · rfl

@[simp] theorem append_nil (style : Option String) : text.append [] style = text := rfl

theorem append_none (piece : List Char) (text : StyledText) :
    text.append piece none = { text with plain := text.plain ++ String.ofList (printed piece) } := by
  cases piece with
  | nil => simp [append, printed]
  | cons c cs => rfl

theorem append_some {piece : List Char} (h : piece ≠ []) (style : String) (text : StyledText) :
    text.append piece (some style) = { text with
      plain := text.plain ++ String.ofList (printed piece)
      spans := text.spans ++ [⟨Text.size text.plain, Text.size text.plain + (printed piece).length, style⟩] } := by
  cases piece with
  | nil => exact absurd rfl h
  | cons c cs => rfl

theorem append_append (first second : List Char) (text : StyledText) :
    (text.append first none).append second none = text.append (first ++ second) none := by
  simp [append_none, printed, String.append_assoc]

end StyledText

/-! ## The scan -/

def Parts.onto (text : StyledText) (parts : Parts) : StyledText :=
  (parts.tokens.foldl (fun (text : StyledText) (gap, token) =>
    (text.append gap none).append token.shown.1 (some token.shown.2)) text).append parts.last none

def renderFrom (text : StyledText) (cs : List Char) : StyledText := (partsFrom [] cs).onto text

theorem renderLine_eq (line : String) : renderLine line = renderFrom {} line.toList := rfl

theorem partsFrom_of_some {gap cs after : List Char} {token : Token} (h : token? cs = some (token, after)) :
    partsFrom gap cs =
      { partsFrom [] after with tokens := (gap.reverse, token) :: (partsFrom [] after).tokens } := by
  rw [partsFrom]
  split
  · rename_i hfound
    obtain ⟨rfl, rfl⟩ : token = _ ∧ after = _ := by simpa [h] using hfound
    rfl
  · rename_i hnone
    cases h.symm.trans hnone

theorem partsFrom_nil (gap : List Char) : partsFrom gap [] = ⟨[], gap.reverse⟩ := by
  rw [partsFrom]
  split
  · rename_i hfound
    cases hfound
  · rfl

theorem partsFrom_of_none {gap cs : List Char} {c : Char} (h : token? (c :: cs) = none) :
    partsFrom gap (c :: cs) = partsFrom (c :: gap) cs := by
  rw [partsFrom]
  split
  · rename_i hfound
    cases h.symm.trans hfound
  · rfl

/-- Plain text in front of the parts goes to the text before them. -/
theorem onto_partsFrom (gap cs : List Char) (text : StyledText) :
    (partsFrom gap cs).onto text = renderFrom (text.append gap.reverse none) cs := by
  induction cs generalizing gap text with
  | nil =>
      rw [renderFrom, partsFrom_nil, partsFrom_nil]
      simp [Parts.onto]
  | cons c cs ih =>
      cases h : token? (c :: cs) with
      | some found =>
          obtain ⟨token, after⟩ := found
          rw [renderFrom, partsFrom_of_some h, partsFrom_of_some h]
          simp [Parts.onto]
      | none =>
          rw [renderFrom, partsFrom_of_none h, partsFrom_of_none h, ih, ih, StyledText.append_append,
            List.reverse_cons]
          rfl

section

variable {cs after : List Char} {token : Token} (text : StyledText)

@[simp] theorem renderFrom_nil : renderFrom text [] = text := by
  rw [renderFrom, partsFrom_nil]
  rfl

theorem renderFrom_of_some (h : token? cs = some (token, after)) :
    renderFrom text cs = renderFrom (text.append token.shown.1 (some token.shown.2)) after := by
  rw [renderFrom, partsFrom_of_some h]
  rfl

end

theorem Parts.style_onto (text : StyledText) (parts : Parts) : (parts.onto text).style = text.style := by
  obtain ⟨tokens, last⟩ := parts
  induction tokens generalizing text with
  | nil => exact StyledText.style_append last none
  | cons found rest ih =>
      obtain ⟨gap, token⟩ := found
      calc (Parts.onto text ⟨(gap, token) :: rest, last⟩).style
        _ = (Parts.onto ((text.append gap none).append token.shown.1 (some token.shown.2)) ⟨rest, last⟩).style := rfl
        _ = text.style := by rw [ih, StyledText.style_append, StyledText.style_append]

theorem style_renderLine (line : String) : (renderLine line).style = "" := (partsOf line).style_onto {}

end LineShell
