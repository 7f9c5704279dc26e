import LineShell.Proofs.Rendering
import LineShell.Proofs.Text.Pieces

/-!
# Stretches of styled text

Styled texts are put one behind the other. The stretches of a later one move on by what stands before it, so they
cover what they covered, and stretches that follow one another inside each text do so in the whole.
-/

namespace LineShell

open Text

theorem Text.size_append (s t : String) : size (s ++ t) = size s + size t := by simp [size]

/-! ## One stretch -/

namespace Span

def shift (n : Nat) (span : Span) : Span := { span with start := n + span.start, stop := n + span.stop }

/-- What a stretch covers of a text. -/
def covered (cs : List Char) (span : Span) : List Char := (cs.drop span.start).take (span.stop - span.start)

variable {front later : List Char} {span : Span}

theorem shift_shift (m n : Nat) (span : Span) : (span.shift n).shift m = span.shift (m + n) := by
  simp [shift, Nat.add_assoc]

theorem covered_append (h : span.start ≤ span.stop ∧ span.stop ≤ front.length) :
    span.covered (front ++ later) = span.covered front := by
  obtain ⟨hstart, hstop⟩ := h
  rw [covered, List.drop_append_of_le_length (by omega),
    List.take_append_of_le_length (by rw [List.length_drop]; omega)]
  rfl

theorem covered_shift (front later : List Char) (span : Span) :
    (span.shift front.length).covered (front ++ later) = span.covered later := by
  simp [covered, shift, Nat.add_sub_add_left]

end Span

/-! ## Two texts -/

namespace StyledText

def followedBy (text later : StyledText) : StyledText := { text with
  plain := text.plain ++ later.plain
  spans := text.spans ++ later.spans.map (Span.shift (size text.plain)) }

/-- What the stretches of a text cover, with their styles. -/
def covered (text : StyledText) : List (List Char × String) :=
  text.spans.map fun span => (span.covered text.plain.toList, span.style)

/-- The stretches lie in the text, one after the other. -/
structure Orderly (text : StyledText) : Prop where
  within : ∀ span ∈ text.spans, span.start ≤ span.stop ∧ span.stop ≤ size text.plain
  apart : text.spans.Pairwise fun first second => first.stop ≤ second.start

variable {text later : StyledText}

theorem followedBy_assoc (first second third : StyledText) :
    (first.followedBy second).followedBy third = first.followedBy (second.followedBy third) := by
  have hshift : Span.shift (size first.plain) ∘ Span.shift (size second.plain) =
      Span.shift (size first.plain + size second.plain) :=
    funext fun span => span.shift_shift _ _
  simp [followedBy, String.append_assoc, size_append, hshift]

theorem append_eq_followedBy (piece : List Char) (style : Option String) (text : StyledText) :
    text.append piece style = text.followedBy (append piece style {}) := by
  cases piece with
  | nil => simp [followedBy]
  | cons c cs => cases style <;> simp [append, followedBy, Span.shift, size]

theorem followedBy_append (piece : List Char) (style : Option String) (text later : StyledText) :
    text.followedBy (later.append piece style) = (text.followedBy later).append piece style := by
  rw [append_eq_followedBy piece style later, append_eq_followedBy piece style (text.followedBy later),
    followedBy_assoc]

@[simp] theorem followedBy_empty (text : StyledText) : text.followedBy {} = text := by simp [followedBy]

theorem covered_followedBy (h : text.Orderly) : (text.followedBy later).covered = text.covered ++ later.covered := by
  rw [covered, followedBy, List.map_append, List.map_map, String.toList_append]
  congr 1
  · refine List.map_congr_left fun span hspan => ?_
    rw [Span.covered_append (h.within span hspan)]
  · refine List.map_congr_left fun span _ => ?_
    rw [Function.comp_apply, size, Span.covered_shift]
    rfl

theorem Orderly.followedBy (h : text.Orderly) (hlater : later.Orderly) : (text.followedBy later).Orderly where
  within := by
    intro span hspan
    rw [StyledText.followedBy, size_append]
    rcases List.mem_append.mp hspan with hspan | hspan
    · have := h.within span hspan
      omega
    · obtain ⟨moved, hmoved, rfl⟩ := List.mem_map.mp hspan
      have := hlater.within moved hmoved
      simp only [Span.shift]
      omega
  apart := by
    refine List.pairwise_append.mpr ⟨h.apart, ?_, fun first hfirst second hsecond => ?_⟩
    · refine List.pairwise_map.mpr (hlater.apart.imp fun hle => ?_)
      simpa [Span.shift] using hle
    · obtain ⟨second, -, rfl⟩ := List.mem_map.mp hsecond
      exact (h.within first hfirst).2.trans (Nat.le_add_right _ _)

/-! ## Pieces -/

theorem orderly_empty : ({} : StyledText).Orderly := ⟨by simp, by simp⟩

theorem orderly_piece (piece : List Char) (style : Option String) : (append piece style {}).Orderly := by
  cases piece with
  | nil => exact orderly_empty
  | cons c cs => cases style <;> exact ⟨by simp [append, size], by simp [append]⟩

theorem Orderly.append (h : text.Orderly) (piece : List Char) (style : Option String) :
    (text.append piece style).Orderly := by
  rw [append_eq_followedBy]
  exact h.followedBy (orderly_piece piece style)

theorem covered_append_none (h : text.Orderly) (piece : List Char) :
    (text.append piece none).covered = text.covered := by
  have hpiece : (StyledText.append piece none {}).covered = [] := by
    rw [append_none]
    rfl
  rw [append_eq_followedBy, covered_followedBy h, hpiece, List.append_nil]

theorem covered_append_some (h : text.Orderly) {piece : List Char} (hne : piece ≠ []) (style : String) :
    (text.append piece (some style)).covered = text.covered ++ [(printed piece, style)] := by
  have hpiece : (StyledText.append piece (some style) {}).covered = [(printed piece, style)] := by
    rw [append_some hne]
    simp [covered, Span.covered, size]
  rw [append_eq_followedBy, covered_followedBy h, hpiece]

/-! ## Many texts -/

def concat (texts : List StyledText) : StyledText := texts.foldl followedBy {}

section

variable (texts : List StyledText)

theorem concat_snoc (last : StyledText) : concat (texts ++ [last]) = (concat texts).followedBy last := by
  simp [concat]

theorem plain_concat : (concat texts).plain = join "" (texts.map plain) := by
  apply String.toList_inj.mp
  rw [toList_join_empty]
  induction texts using List.reverseRecOn with
  | nil => rfl
  | append_singleton texts last ih => simp [concat_snoc, followedBy, ih]

/-- The stretches of a text move on by the texts before it. -/
theorem spans_concat : (concat texts).spans = texts.zipIdx.flatMap fun (text, i) =>
    text.spans.map (Span.shift (size (concat (texts.take i)).plain)) := by
  induction texts using List.reverseRecOn with
  | nil => rfl
  | append_singleton texts last ih =>
      have hearlier : ∀ found ∈ texts.zipIdx, (texts ++ [last]).take found.2 = texts.take found.2 := fun found hfound =>
        List.take_append_of_le_length (List.snd_lt_of_mem_zipIdx hfound).le
      calc (concat (texts ++ [last])).spans
        _ = (concat texts).spans ++ last.spans.map (Span.shift (size (concat texts).plain)) := by
          rw [concat_snoc]
          rfl
        _ = _ := by
          rw [ih, List.zipIdx_append, List.flatMap_append]
          congr 1
          · exact List.flatMap_congr fun found hfound => by simp only [hearlier found hfound]
          · simp

theorem covered_concat (h : ∀ text ∈ texts, text.Orderly) :
    (concat texts).Orderly ∧ (concat texts).covered = texts.flatMap covered := by
  induction texts using List.reverseRecOn with
  | nil => exact ⟨⟨by simp [concat], by simp [concat]⟩, rfl⟩
  | append_singleton texts last ih =>
      obtain ⟨horderly, hcovered⟩ := ih fun text htext => h text (by simp [htext])
      rw [concat_snoc, covered_followedBy horderly, hcovered]
      exact ⟨horderly.followedBy (h last (by simp)), by simp⟩

end

end StyledText

end LineShell
