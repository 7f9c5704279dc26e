import LineShell.Text.Cut

/-!
# Prompt

The prompt as markup for the console, and how a text is escaped so that none of it counts as a tag.
-/

namespace LineShell.Prompt

open Text

/-! ## Tags -/

def opensTag (c : Char) : Bool := ('a' ≤ c && c ≤ 'z') || c == '#' || c == '/' || c == '@'

/-- The part of a text up to the first `]`, and the text after it, if no `[` stands before. -/
def tagBody? : List Char → Option (List Char × List Char)
  | [] => none
  | ']' :: cs => some ([']'], cs)
  | '[' :: _ => none
  | c :: cs => (tagBody? cs).map fun (body, after) => (c :: body, after)

def tag? : List Char → Option (List Char × List Char)
  | '[' :: c :: cs =>
    if opensTag c then (tagBody? cs).map fun (body, after) => ('[' :: c :: body, after) else none
  | _ => none

theorem tagBody?_length {cs body after : List Char} (h : tagBody? cs = some (body, after)) :
    after.length < cs.length := by
  fun_induction tagBody? cs generalizing body with
  | case1 => simp at h
  | case2 cs =>
    simp only [Option.some.injEq, Prod.mk.injEq] at h
    simp [← h.2]
  | case3 => simp at h
  | case4 c cs _ _ ih =>
    simp only [Option.map_eq_some_iff, Prod.mk.injEq, Prod.exists] at h
    obtain ⟨b, a, hba, _, rfl⟩ := h
    exact Nat.lt_succ_of_lt (ih hba)

theorem tag?_length {cs tag after : List Char} (h : tag? cs = some (tag, after)) :
    after.length < cs.length := by
  unfold tag? at h
  split at h
  · split at h
    · simp only [Option.map_eq_some_iff, Prod.mk.injEq, Prod.exists] at h
      obtain ⟨b, a, hba, _, rfl⟩ := h
      have := tagBody?_length hba
      simp only [List.length_cons]
      omega
    · simp at h
  · simp at h

/-! ## Escaping -/

/-- Escapes a text from the left; `slashes` counts the backslashes directly in front. In front of a
tag they are doubled and one more is put. -/
def escapeFrom (slashes : Nat) (cs : List Char) : List Char :=
  match h : tag? cs with
  | some (tag, after) =>
    have := tag?_length h
    List.replicate (2 * slashes + 1) '\\' ++ tag ++ escapeFrom 0 after
  | none =>
    match cs with
    | [] => List.replicate slashes '\\'
    | c :: cs =>
      if c == '\\' then escapeFrom (slashes + 1) cs
      else List.replicate slashes '\\' ++ c :: escapeFrom 0 cs
termination_by cs.length

def closeEscape (cs : List Char) : List Char :=
  match cs.reverse with
  | '\\' :: '\\' :: _ => cs
  | '\\' :: _ => cs ++ ['\\']
  | _ => cs

def escaped (text : String) : String := String.ofList (closeEscape (escapeFrom 0 text.toList))

def markup (prompt : String) : String := s!"[prompt]{escaped prompt}[/prompt] "

end LineShell.Prompt
