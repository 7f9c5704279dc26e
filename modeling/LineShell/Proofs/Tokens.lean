import LineShell.Proofs.Rendering

/-!
# Tokens of a line

A line falls into parts in one way only: every token begins at the first place where one can, a directive ends at
the first reset behind its opening, and no token stands in the text between tokens.
-/

namespace LineShell

/-! ## Whole tokens -/

namespace Token

def spelling : Token → List Char
  | .coloured colour inner => colour.opening ++ (inner ++ reset)
  | .control name => controlOpening ++ (name ++ [']'])

/-- Whether a token can be read where its spelling stands: a directive ends at the first reset, a control has a
name. -/
def IsWhole : Token → Prop
  | .coloured _ inner => ¬reset <:+: inner
  | .control name => IsEntityName name

theorem spelling_ne_nil (token : Token) : token.spelling ≠ [] := by
  cases token with
  | coloured colour inner => exact List.append_ne_nil_of_left_ne_nil (by cases colour <;> decide) _
  | control name => exact List.append_ne_nil_of_left_ne_nil (by decide) _

theorem shown_coloured (colour : Colour) (inner : List Char) : (coloured colour inner).shown = (inner, colour.style) :=
  rfl

theorem shown_control (name : List Char) :
    (control name).shown = ("[:use ".toList ++ name ++ [']'], "entity.control") := rfl

end Token

theorem controlOpening_eq : controlOpening = '[' :: "utilizza:".toList := by decide

/-! ## One token -/

section

variable {cs before after : List Char}

theorem prefix_of_prefix_append_cons {c : Char} {mark : List Char} (hc : c ∉ mark)
    (h : mark <+: before ++ c :: after) : mark <+: before := by
  rcases List.prefix_or_prefix_of_prefix h (List.prefix_append before _) with hmark | ⟨rest, hrest⟩
  · exact hmark
  · rw [← hrest, List.prefix_append_right_inj] at h
    cases rest with
    | nil => exact ⟨[], by simpa using hrest.symm⟩
    | cons d rest =>
        obtain ⟨rfl, -⟩ := List.cons_prefix_cons.mp h
        exact absurd (hrest ▸ by simp) hc

/-- A mark that begins in a text before another one stands in that text, if its first character does not come again
in it. -/
theorem eq_nil_of_mark_begins {c : Char} {tail : List Char} (hc : c ∉ tail) (hnone : ¬(c :: tail) <:+: before)
    (hfront : (c :: tail) <+: before ++ (c :: tail ++ after)) : before = [] := by
  cases before with
  | nil => rfl
  | cons d before =>
      obtain ⟨rfl, htail⟩ := List.cons_prefix_cons.mp hfront
      exact absurd (List.cons_prefix_cons.mpr ⟨rfl, prefix_of_prefix_append_cons hc htail⟩).isInfix hnone

theorem around?_eq_some_iff {c : Char} {tail : List Char} (hc : c ∉ tail) :
    around? (c :: tail) cs = some (before, after) ↔
      ¬(c :: tail) <:+: before ∧ cs = before ++ (c :: tail ++ after) := by
  induction cs generalizing before with
  | nil => simp [around?]
  | cons d cs ih =>
      -- the mark begins here or later; it cannot overlap itself, as its first character stands in it once
      by_cases hbegins : (c :: tail) <+: d :: cs
      · obtain ⟨rest, hrest⟩ := hbegins
        rw [around?, if_pos (List.isPrefixOf_iff_prefix.mpr ⟨rest, hrest⟩), ← hrest, List.drop_left]
        constructor
        · intro h
          obtain ⟨rfl, rfl⟩ : [] = before ∧ rest = after := by simpa using h
          exact ⟨by simp, rfl⟩
        · rintro ⟨hnone, htext⟩
          obtain rfl : before = [] := eq_nil_of_mark_begins hc hnone (htext ▸ List.prefix_append _ _)
          obtain rfl : rest = after := List.append_cancel_left htext
          rfl
      · have hlater : ∀ {start}, start <+: cs → (¬(c :: tail) <:+: d :: start ↔ ¬(c :: tail) <:+: start) := by
          intro start hstart
          rw [List.infix_cons_iff, or_iff_right]
          exact fun hmark => hbegins (hmark.trans (List.cons_prefix_cons.mpr ⟨rfl, hstart⟩))
        rw [around?, if_neg (mt List.isPrefixOf_iff_prefix.mp hbegins)]
        simp only [Option.map_eq_some_iff, Prod.exists, Prod.mk.injEq]
        constructor
        · rintro ⟨start, rest, hfound, rfl, rfl⟩
          obtain ⟨hnone, htext⟩ := ih.mp hfound
          exact ⟨(hlater ⟨_, htext.symm⟩).mpr hnone, by rw [htext]; rfl⟩
        · rintro ⟨hnone, htext⟩
          cases before with
          | nil => exact absurd ⟨after, htext.symm⟩ hbegins
          | cons e start =>
              obtain ⟨rfl, hcs⟩ := List.cons.inj htext
              exact ⟨start, after, ih.mpr ⟨(hlater ⟨_, hcs.symm⟩).mp hnone, hcs⟩, rfl, rfl⟩

theorem reset_around?_iff :
    around? reset cs = some (before, after) ↔ ¬reset <:+: before ∧ cs = before ++ (reset ++ after) :=
  around?_eq_some_iff (by decide)

variable {colour : Colour} {token : Token}

theorem coloured?_eq_some_iff : coloured? cs colour = some (token, after) ↔
    ∃ inner, token = .coloured colour inner ∧ token.IsWhole ∧ cs = token.spelling ++ after := by
  simp only [coloured?]
  split
  · rename_i hopening
    obtain ⟨rest, rfl⟩ := List.isPrefixOf_iff_prefix.mp hopening
    simp only [List.drop_left, Option.map_eq_some_iff, Prod.exists, Prod.mk.injEq, reset_around?_iff]
    constructor
    · rintro ⟨inner, _, ⟨hinner, hrest⟩, rfl, rfl⟩
      exact ⟨inner, rfl, hinner, by simp [Token.spelling, hrest]⟩
    · rintro ⟨inner, rfl, hinner, htext⟩
      refine ⟨inner, after, ⟨hinner, ?_⟩, rfl, rfl⟩
      simpa [Token.spelling] using htext
  · rename_i hopening
    constructor
    · intro h
      cases h
    · rintro ⟨inner, rfl, -, rfl⟩
      have hbegins : colour.opening <+: (Token.coloured colour inner).spelling ++ after := by
        rw [Token.spelling, List.append_assoc]
        exact List.prefix_append _ _
      exact absurd (List.isPrefixOf_iff_prefix.mpr hbegins) hopening

theorem coloured?_of_ne {other : Colour} (h : other ≠ colour) (rest : List Char) :
    coloured? (colour.opening ++ rest) other = none := by
  cases colour <;> cases other <;> first | rfl | exact absurd rfl h

theorem coloured?_eq_none (h : cs.head? ≠ some '\x1b') (colour : Colour) : coloured? cs colour = none := by
  rw [coloured?, if_neg]
  intro hopening
  obtain ⟨rest, rfl⟩ := List.isPrefixOf_iff_prefix.mp hopening
  exact h (by cases colour <;> rfl)

/-- A token is found at the start of a text exactly if the text starts with its spelling. -/
theorem token?_eq_some_iff : token? cs = some (token, after) ↔ token.IsWhole ∧ cs = token.spelling ++ after := by
  constructor
  · intro h
    rw [token?, Option.or_eq_some_iff] at h
    rcases h with h | ⟨-, h⟩
    · obtain ⟨colour, -, hcolour⟩ := List.exists_of_findSome?_eq_some h
      obtain ⟨inner, rfl, hwhole, htext⟩ := coloured?_eq_some_iff.mp hcolour
      exact ⟨hwhole, htext⟩
    · simp only [Option.map_eq_some_iff, Prod.exists, Prod.mk.injEq] at h
      obtain ⟨name, _, hfound, rfl, rfl⟩ := h
      obtain ⟨hname, htext⟩ := control?_eq_some_iff.mp hfound
      exact ⟨hname, by simp [Token.spelling, htext]⟩
  · rintro ⟨hwhole, rfl⟩
    cases token with
    | coloured colour inner =>
        have hfound : coloured? ((Token.coloured colour inner).spelling ++ after) colour =
            some (.coloured colour inner, after) := coloured?_eq_some_iff.mpr ⟨inner, rfl, hwhole, rfl⟩
        have hothers : ∀ other, other ≠ colour →
            coloured? ((Token.coloured colour inner).spelling ++ after) other = none := fun other hother => by
          rw [Token.spelling, List.append_assoc]
          exact coloured?_of_ne hother _
        have hfirst : Colour.all.findSome? (coloured? ((Token.coloured colour inner).spelling ++ after)) =
            some (.coloured colour inner, after) := by
          cases colour <;> simp [Colour.all, hfound, hothers]
        rw [token?, hfirst, Option.some_or]
    | control name =>
        have hbracket : ((Token.control name).spelling ++ after).head? ≠ some '\x1b' := by
          simp only [Token.spelling, controlOpening_eq, List.cons_append, List.head?_cons]
          decide
        have hcolours : Colour.all.findSome? (coloured? ((Token.control name).spelling ++ after)) = none :=
          List.findSome?_eq_none_iff.mpr fun colour _ => coloured?_eq_none hbracket colour
        have hfound : control? ((Token.control name).spelling ++ after) = some (name, after) :=
          control?_eq_some_iff.mpr ⟨hwhole, by simp [Token.spelling]⟩
        rw [token?, hcolours, Option.none_or, hfound]
        rfl

theorem token?_eq_none_iff : token? cs = none ↔ ∀ token : Token, token.IsWhole → ¬token.spelling <+: cs := by
  rw [Option.eq_none_iff_forall_ne_some]
  constructor
  · rintro h token hwhole ⟨after, htext⟩
    exact h (token, after) (token?_eq_some_iff.mpr ⟨hwhole, htext.symm⟩)
  · rintro h ⟨token, after⟩ hfound
    obtain ⟨hwhole, htext⟩ := token?_eq_some_iff.mp hfound
    exact h token hwhole ⟨after, htext.symm⟩

end

/-! ## Text between tokens -/

/-- No token begins in a text that another one follows. -/
def NoneBegins (gap rest : List Char) : Prop :=
  ∀ back, back ≠ [] → back <:+ gap → ∀ token : Token, token.IsWhole → ¬token.spelling <+: back ++ rest

section

variable {gap rest : List Char} {c : Char}

theorem noneBegins_nil (rest : List Char) : NoneBegins [] rest :=
  fun _ hne hback => absurd (List.suffix_nil.mp hback) hne

theorem noneBegins_cons : NoneBegins (c :: gap) rest ↔ token? (c :: (gap ++ rest)) = none ∧ NoneBegins gap rest := by
  rw [token?_eq_none_iff]
  constructor
  · intro h
    exact ⟨h (c :: gap) (by simp) List.suffix_rfl,
      fun back hne hback => h back hne (hback.trans (List.suffix_cons c gap))⟩
  · rintro ⟨hfirst, hlater⟩ back hne hback
    rcases List.suffix_cons_iff.mp hback with rfl | hback
    · exact hfirst
    · exact hlater back hne hback

theorem NoneBegins.absent (h : NoneBegins gap rest) {token : Token} (hwhole : token.IsWhole) :
    ¬token.spelling <:+: gap := by
  rintro ⟨front, back, rfl⟩
  refine h (token.spelling ++ back) (List.append_ne_nil_of_left_ne_nil token.spelling_ne_nil back)
    ⟨front, by rw [List.append_assoc]⟩ token hwhole ?_
  rw [List.append_assoc]
  exact List.prefix_append _ _

theorem noneBegins_end_iff : NoneBegins gap [] ↔ ∀ token : Token, token.IsWhole → ¬token.spelling <:+: gap := by
  refine ⟨fun h token => h.absent, fun h back _ hback token hwhole hbegins => h token hwhole ?_⟩
  rw [List.append_nil] at hbegins
  exact hbegins.isInfix.trans hback.isInfix

theorem noneBegins_of_control? (hescape : '\x1b' ∉ gap)
    (hcontrols : ∀ back, back ≠ [] → back <:+ gap → control? (back ++ rest) = none) : NoneBegins gap rest := by
  intro back hne hback token hwhole hbegins
  cases token with
  | coloured colour inner =>
      have hhead : (colour.opening ++ (inner ++ reset)).head? = some '\x1b' := by cases colour <;> rfl
      cases back with
      | nil => exact hne rfl
      | cons c back =>
          obtain rfl : c = '\x1b' := by
            obtain ⟨after, hafter⟩ := hbegins
            have hsame := congrArg List.head? hafter
            rw [Token.spelling, List.head?_append, hhead] at hsame
            simpa using hsame.symm
          exact hescape (hback.subset List.mem_cons_self)
  | control name =>
      obtain ⟨after, hafter⟩ := hbegins
      have hfound : control? (back ++ rest) = some (name, after) :=
        control?_eq_some_iff.mpr ⟨hwhole, by rw [← hafter]; simp [Token.spelling]⟩
      rw [hcontrols back hne hback] at hfound
      cases hfound

theorem noneBegins_plain (hescape : '\x1b' ∉ gap) (hcontrols : controlsFrom gap = []) : NoneBegins gap [] :=
  noneBegins_of_control? hescape fun back _ hback => by
    rw [List.append_nil]
    exact control?_of_suffix hcontrols hback

theorem noneBegins_plain_blank (hescape : '\x1b' ∉ gap) (hcontrols : controlsFrom gap = [])
    (hc : Text.isBlank c = true) (rest : List Char) : NoneBegins (gap ++ [c]) rest := by
  refine noneBegins_of_control? ?_ fun back hne hback => ?_
  · rw [List.mem_append, List.mem_singleton, not_or]
    refine ⟨hescape, ?_⟩
    rintro rfl
    exact absurd hc (by decide)
  · rcases List.suffix_concat_iff.mp hback with rfl | ⟨front, rfl, hfront⟩
    · exact absurd rfl hne
    · rw [List.append_assoc, List.singleton_append, control?_append_blank hc, control?_of_suffix hcontrols hfront]
      rfl

theorem partsFrom_append (h : NoneBegins gap rest) (back : List Char) :
    partsFrom back (gap ++ rest) = partsFrom (gap.reverse ++ back) rest := by
  induction gap generalizing back with
  | nil => rfl
  | cons c gap ih =>
      obtain ⟨hfirst, hlater⟩ := noneBegins_cons.mp h
      rw [List.cons_append, partsFrom_of_none hfirst, ih hlater]
      simp

theorem renderFrom_append (h : NoneBegins gap rest) (text : StyledText) :
    renderFrom text (gap ++ rest) = renderFrom (text.append gap none) rest := by
  rw [renderFrom, partsFrom_append h, onto_partsFrom, List.append_nil, List.reverse_reverse]

theorem renderFrom_token {token : Token} (h : token.IsWhole) (after : List Char) (text : StyledText) :
    renderFrom text (token.spelling ++ after) = renderFrom (text.append token.shown.1 (some token.shown.2)) after :=
  renderFrom_of_some text (token?_eq_some_iff.mpr ⟨h, rfl⟩)

end

/-! ## Parts -/

/-- How a text falls into parts: each token begins where the first one can. -/
inductive IsParted : List Char → Parts → Prop
  | last {gap : List Char} : NoneBegins gap [] → IsParted gap ⟨[], gap⟩
  | token {gap rest last : List Char} {token : Token} {tokens : List (List Char × Token)} :
      NoneBegins gap (token.spelling ++ rest) → token.IsWhole → IsParted rest ⟨tokens, last⟩ →
      IsParted (gap ++ (token.spelling ++ rest)) ⟨(gap, token) :: tokens, last⟩

namespace IsParted

variable {cs : List Char} {parts : Parts}

theorem partsFrom_eq (h : IsParted cs parts) : partsFrom [] cs = parts := by
  induction h with
  | @last gap hnone =>
      rw [← List.append_nil gap, partsFrom_append hnone, partsFrom_nil]
      simp
  | token hnone hwhole _ ih =>
      rw [partsFrom_append hnone, partsFrom_of_some (token?_eq_some_iff.mpr ⟨hwhole, rfl⟩), ih]
      simp

theorem exists_first (cs : List Char) : NoneBegins cs [] ∨ ∃ (gap : List Char) (token : Token) (rest : List Char),
    token.IsWhole ∧ NoneBegins gap (token.spelling ++ rest) ∧ cs = gap ++ (token.spelling ++ rest) := by
  induction cs with
  | nil => exact .inl (noneBegins_nil [])
  | cons c cs ih =>
      cases hfirst : token? (c :: cs) with
      | some found =>
          obtain ⟨token, rest⟩ := found
          obtain ⟨hwhole, htext⟩ := token?_eq_some_iff.mp hfirst
          exact .inr ⟨[], token, rest, hwhole, noneBegins_nil _, htext⟩
      | none =>
          rcases ih with hnone | ⟨gap, token, rest, hwhole, hnone, rfl⟩
          · exact .inl (noneBegins_cons.mpr ⟨by rw [List.append_nil, hfirst], hnone⟩)
          · exact .inr ⟨c :: gap, token, rest, hwhole, noneBegins_cons.mpr ⟨hfirst, hnone⟩, rfl⟩

theorem exists_parts (cs : List Char) : ∃ parts, IsParted cs parts := by
  induction hlength : cs.length using Nat.strongRecOn generalizing cs with
  | _ n ih =>
      rcases exists_first cs with hnone | ⟨gap, token, rest, hwhole, hnone, rfl⟩
      · exact ⟨_, .last hnone⟩
      · have hshorter : rest.length < n := by
          have htoken := List.length_pos_iff.mpr token.spelling_ne_nil
          simp only [List.length_append] at hlength
          omega
        obtain ⟨⟨tokens, last⟩, hrest⟩ := ih _ hshorter rest rfl
        exact ⟨_, .token hnone hwhole hrest⟩

end IsParted

/-- A text falls into parts in one way. -/
theorem isParted_iff {cs : List Char} {parts : Parts} : IsParted cs parts ↔ parts = partsFrom [] cs := by
  constructor
  · intro h
    exact h.partsFrom_eq.symm
  · rintro rfl
    obtain ⟨parts, hparts⟩ := IsParted.exists_parts cs
    rwa [hparts.partsFrom_eq]

/-! ## One more character -/

section

variable {cs gap rest : List Char} {c : Char}

theorem Token.getLast?_spelling (token : Token) :
    token.spelling.getLast? = some ']' ∨ token.spelling.getLast? = some 'm' := by
  cases token with
  | coloured colour inner =>
      right
      rw [spelling, List.getLast?_append, List.getLast?_append]
      rfl
  | control name => simp [spelling]

theorem Token.spelling_ne_concat (hclosing : c ≠ ']') (hcode : c ≠ 'm') (token : Token) (cs : List Char) :
    token.spelling ≠ cs ++ [c] := by
  intro h
  have hlast := token.getLast?_spelling
  rw [h, List.getLast?_concat] at hlast
  rcases hlast with hlast | hlast
  · exact hclosing (Option.some.inj hlast)
  · exact hcode (Option.some.inj hlast)

theorem NoneBegins.concat (hclosing : c ≠ ']') (hcode : c ≠ 'm') (h : NoneBegins gap rest) :
    NoneBegins gap (rest ++ [c]) := by
  intro back hne hback token hwhole hbegins
  rw [← List.append_assoc] at hbegins
  rcases List.prefix_concat_iff.mp hbegins with heq | hbegins
  · exact token.spelling_ne_concat hclosing hcode _ heq
  · exact h back hne hback token hwhole hbegins

theorem NoneBegins.concat_end (hclosing : c ≠ ']') (hcode : c ≠ 'm') (h : NoneBegins gap []) :
    NoneBegins (gap ++ [c]) [] := by
  refine noneBegins_end_iff.mpr fun token hwhole hwithin => ?_
  rcases List.infix_concat_iff.mp hwithin with hsuffix | hwithin
  · rcases List.suffix_concat_iff.mp hsuffix with heq | ⟨front, heq, -⟩
    · exact token.spelling_ne_nil heq
    · exact token.spelling_ne_concat hclosing hcode _ heq
  · exact h.absent hwhole hwithin

theorem IsParted.concat (hclosing : c ≠ ']') (hcode : c ≠ 'm') {parts : Parts} (h : IsParted cs parts) :
    IsParted (cs ++ [c]) { parts with last := parts.last ++ [c] } := by
  induction h with
  | last hnone => exact .last (hnone.concat_end hclosing hcode)
  | @token gap rest last token tokens hnone hwhole _ ih =>
      have hnone' := hnone.concat hclosing hcode
      rw [List.append_assoc] at hnone' ⊢
      rw [List.append_assoc]
      exact .token hnone' hwhole ih

end

end LineShell
