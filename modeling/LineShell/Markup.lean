import LineShell.Text.Cut

/-!
# Markup of transcript lines

A line carries colour directives, from an opening code to the next reset, and entity controls. Both
become styled text: the inner text of a directive, and a hint how to use the entity.
-/

namespace LineShell

open Text

/-! ## Styled text -/

structure Span where
  start : Nat
  stop : Nat
  style : String
deriving Repr, DecidableEq

structure StyledText where
  plain : String := ""
  style : String := ""
  spans : List Span := []
deriving Repr, DecidableEq

def isDropped (c : Char) : Bool := [0x07, 0x08, 0x0B, 0x0C, 0x0D].contains c.toNat

def printed (cs : List Char) : List Char := cs.filter (!isDropped ·)

namespace StyledText

def ofStyle (style text : String) : StyledText :=
  { plain := String.ofList (printed text.toList), style }

/-- Adds a piece at the end. A piece with a style leaves a stretch, unless it is empty as given. -/
def append (piece : List Char) (style : Option String) (text : StyledText) : StyledText :=
  if piece.isEmpty then text else
    let start := size text.plain
    let shown := printed piece
    let spans := match style with
      | none => text.spans
      | some style => text.spans ++ [⟨start, start + shown.length, style⟩]
    { text with plain := text.plain ++ String.ofList shown, spans }

end StyledText

/-! ## Tokens -/

inductive Colour
  | green
  | grey
  | red
deriving Repr, DecidableEq

namespace Colour

def opening : Colour → List Char
  | green => "\x1b[1;32m".toList
  | grey => "\x1b[2;37m".toList
  | red => "\x1b[1;31m".toList

def style : Colour → String
  | green => "ansi.green"
  | grey => "ansi.gray"
  | red => "ansi.red"

/-- The colours, in the order in which openings are tried. -/
def all : List Colour := [green, grey, red]

end Colour

def reset : List Char := "\x1b[0m".toList

def controlOpening : List Char := "[utilizza:".toList

inductive Token
  | coloured (colour : Colour) (inner : List Char)
  | control (name : List Char)
deriving Repr, DecidableEq

/-- The text before the first occurrence of a mark and the text after it. -/
def around? (mark : List Char) : List Char → Option (List Char × List Char)
  | [] => if mark.isEmpty then some ([], []) else none
  | c :: cs =>
    if mark.isPrefixOf (c :: cs) then some ([], (c :: cs).drop mark.length)
    else (around? mark cs).map fun (before, after) => (c :: before, after)

def coloured? (cs : List Char) (colour : Colour) : Option (Token × List Char) :=
  if colour.opening.isPrefixOf cs then
    (around? reset (cs.drop colour.opening.length)).map fun (inner, after) => (.coloured colour inner, after)
  else none

def inName (c : Char) : Bool := !(c == ']' || isBlank c)

def control? (cs : List Char) : Option (List Char × List Char) :=
  if controlOpening.isPrefixOf cs then
    let rest := cs.drop controlOpening.length
    match rest.dropWhile inName with
    | ']' :: after => if (rest.takeWhile inName).isEmpty then none else some (rest.takeWhile inName, after)
    | _ => none
  else none

def token? (cs : List Char) : Option (Token × List Char) :=
  -- A control inside a coloured stretch is no token of its own: the colour takes it along.
  (Colour.all.findSome? (coloured? cs)).or ((control? cs).map fun (name, after) => (.control name, after))

/-! ## Progress -/

theorem around?_length {mark cs before after : List Char} (h : around? mark cs = some (before, after)) :
    after.length ≤ cs.length := by
  induction cs generalizing before after with
  | nil =>
    simp only [around?] at h
    split at h
    · simp only [Option.some.injEq, Prod.mk.injEq] at h
      simp [← h.2]
    · simp at h
  | cons c cs ih =>
    simp only [around?] at h
    split at h
    · simp only [Option.some.injEq, Prod.mk.injEq] at h
      rw [← h.2, List.length_drop]
      omega
    · simp only [Option.map_eq_some_iff, Prod.mk.injEq, Prod.exists] at h
      obtain ⟨b, a, hba, _, rfl⟩ := h
      have := ih hba
      simp only [List.length_cons]
      omega

theorem coloured?_length {cs after : List Char} {colour : Colour} {token : Token}
    (h : coloured? cs colour = some (token, after)) : after.length < cs.length := by
  simp only [coloured?] at h
  split at h
  · next hp =>
    simp only [Option.map_eq_some_iff, Prod.mk.injEq, Prod.exists] at h
    obtain ⟨inner, a, hr, _, rfl⟩ := h
    have hle := around?_length hr
    have hpre := (List.isPrefixOf_iff_prefix.mp hp).length_le
    rw [List.length_drop] at hle
    have : 0 < colour.opening.length := by cases colour <;> decide
    omega
  · simp at h

theorem control?_length {cs name after : List Char} (h : control? cs = some (name, after)) :
    after.length < cs.length := by
  simp only [control?] at h
  split at h
  · next hp =>
    split at h
    · next heq =>
      split at h
      · simp at h
      · simp only [Option.some.injEq, Prod.mk.injEq] at h
        obtain ⟨_, rfl⟩ := h
        have hsuffix := (List.dropWhile_suffix (l := cs.drop controlOpening.length) inName).length_le
        rw [heq, List.length_drop, List.length_cons] at hsuffix
        omega
    · simp at h
  · simp at h

theorem token?_length {cs after : List Char} {token : Token} (h : token? cs = some (token, after)) :
    after.length < cs.length := by
  simp only [token?, Option.or_eq_some_iff] at h
  rcases h with h | ⟨_, h⟩
  · obtain ⟨colour, _, hc⟩ := List.exists_of_findSome?_eq_some h
    exact coloured?_length hc
  · simp only [Option.map_eq_some_iff, Prod.mk.injEq, Prod.exists] at h
    obtain ⟨name, a, hc, _, rfl⟩ := h
    exact control?_length hc

/-! ## Lines -/

/-- A line in parts: each token with the plain text before it, and the plain text at the end. -/
structure Parts where
  tokens : List (List Char × Token)
  last : List Char
deriving Repr, DecidableEq

/-- Takes a text apart from the left; `gap` is the plain text since the last token, in reverse. -/
def partsFrom (gap cs : List Char) : Parts :=
  match h : token? cs with
  | some (token, after) =>
    have := token?_length h
    let parts := partsFrom [] after
    { parts with tokens := (gap.reverse, token) :: parts.tokens }
  | none =>
    match cs with
    | [] => ⟨[], gap.reverse⟩
    | c :: cs => partsFrom (c :: gap) cs
termination_by cs.length

def partsOf (line : String) : Parts := partsFrom [] line.toList

def controlsFrom (cs : List Char) : List (List Char) :=
  match h : control? cs with
  | some (name, after) =>
    have := control?_length h
    name :: controlsFrom after
  -- On by one character only: a control may open inside one that came to nothing.
  | none =>
    match cs with
    | [] => []
    | _ :: cs => controlsFrom cs
termination_by cs.length

def entityControls (text : String) : List String := (controlsFrom text.toList).map String.ofList

def Token.shown : Token → List Char × String
  | .coloured colour inner => (inner, colour.style)
  | .control name => ("[:use ".toList ++ name ++ [']'], "entity.control")

def renderLine (line : String) : StyledText :=
  let parts := partsOf line
  let text := parts.tokens.foldl (fun (text : StyledText) (gap, token) =>
    let (piece, style) := token.shown
    (text.append gap none).append piece (some style)) {}
  text.append parts.last none

end LineShell
