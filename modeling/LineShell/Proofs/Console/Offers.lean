import LineShell.Console.Shell
import LineShell.Proofs.EntityListing
import LineShell.Proofs.Restyling

/-!
# Entities on offer

The console offers the names of the controls in the transcript. It does not look for directives there, so a control
inside one is offered although the directive is shown as it stands; where no directive holds the start of a control,
what is offered is what is shown.
-/

namespace LineShell

open Text

/-! ## Text that is passed over -/

section

variable {cs front rest : List Char} {c : Char}

theorem control?_of_not_opening (h : ¬controlOpening <+: cs) : control? cs = none := by
  refine Option.eq_none_iff_forall_ne_some.mpr fun (name, after) hfound => h ?_
  rw [(control?_eq_some_iff.mp hfound).2]
  exact List.prefix_append _ _

theorem control?_of_token? (h : token? cs = none) : control? cs = none := by
  refine Option.eq_none_iff_forall_ne_some.mpr fun (name, after) hfound => ?_
  obtain ⟨hname, htext⟩ := control?_eq_some_iff.mp hfound
  have htoken : token? cs = some (.control name, after) :=
    token?_eq_some_iff.mpr ⟨hname, by simp [htext, Token.spelling]⟩
  rw [h] at htoken
  cases htoken

theorem controlsFrom_gap (h : NoneBegins front rest) : controlsFrom (front ++ rest) = controlsFrom rest := by
  induction front with
  | nil => rfl
  | cons c front ih =>
      obtain ⟨hfirst, hlater⟩ := noneBegins_cons.mp h
      rw [List.cons_append, controlsFrom_of_none (control?_of_token? hfirst), ih hlater]

theorem controlsFrom_of_ne (hc : c ≠ '[') : controlsFrom (c :: cs) = controlsFrom cs := by
  refine controlsFrom_of_none (control?_of_not_opening fun hbegins => ?_)
  rw [controlOpening_eq, List.cons_prefix_cons] at hbegins
  exact hc hbegins.1.symm

theorem controlsFrom_no_bracket (h : '[' ∉ front) : controlsFrom (front ++ rest) = controlsFrom rest := by
  induction front with
  | nil => rfl
  | cons c front ih =>
      rw [List.mem_cons, not_or] at h
      rw [List.cons_append, controlsFrom_of_ne (Ne.symm h.1), ih h.2]

theorem controlsFrom_code {c : Char} {code : List Char} (hc : c ≠ 'u') (hcode : '[' ∉ c :: code)
    (rest : List Char) : controlsFrom ('\x1b' :: '[' :: (c :: code ++ rest)) = controlsFrom rest := by
  have hbracket : control? ('[' :: (c :: code ++ rest)) = none := by
    refine control?_of_not_opening fun hbegins => hc ?_
    rw [controlOpening_eq, List.cons_prefix_cons] at hbegins
    exact (List.cons_prefix_cons.mp hbegins.2).1.symm
  rw [controlsFrom_of_ne (by decide), controlsFrom_of_none hbracket, controlsFrom_no_bracket hcode]

theorem controlsFrom_opening (colour : Colour) (rest : List Char) :
    controlsFrom (colour.opening ++ rest) = controlsFrom rest := by
  cases colour with
  | green => exact controlsFrom_code (by decide) (by decide : '[' ∉ "1;32m".toList) rest
  | grey => exact controlsFrom_code (by decide) (by decide : '[' ∉ "2;37m".toList) rest
  | red => exact controlsFrom_code (by decide) (by decide : '[' ∉ "1;31m".toList) rest

theorem controlsFrom_reset (rest : List Char) : controlsFrom (reset ++ rest) = controlsFrom rest :=
  controlsFrom_code (by decide) (by decide : '[' ∉ "0m".toList) rest

theorem controlsFrom_inner (h : ¬controlOpening <:+: front) :
    controlsFrom (front ++ (reset ++ rest)) = controlsFrom rest := by
  induction front with
  | nil => exact controlsFrom_reset rest
  | cons c front ih =>
      rw [List.infix_cons_iff, not_or] at h
      have hnone : ¬controlOpening <+: c :: (front ++ (reset ++ rest)) := fun hbegins =>
        h.1 (prefix_of_prefix_append_cons (by decide : '\x1b' ∉ controlOpening) hbegins)
      rw [List.cons_append, controlsFrom_of_none (control?_of_not_opening hnone), ih h.2]

end

/-! ## Controls that are shown -/

def Token.name? : Token → Option (List Char)
  | .coloured _ _ => none
  | .control name => some name

/-- Whether a token is no directive that holds the start of a control. -/
def Token.Apart : Token → Prop
  | .coloured _ inner => ¬controlOpening <:+: inner
  | .control _ => True

instance : DecidablePred Token.Apart
  | .coloured _ inner => inferInstanceAs (Decidable ¬controlOpening <:+: inner)
  | .control _ => .isTrue trivial

def Parts.Apart (parts : Parts) : Prop := ∀ found ∈ parts.tokens, found.2.Apart

instance (parts : Parts) : Decidable parts.Apart := inferInstanceAs (Decidable (∀ found ∈ parts.tokens, found.2.Apart))

def Parts.names (parts : Parts) : List (List Char) := parts.tokens.filterMap (·.2.name?)

theorem controlsFrom_of_isParted {cs : List Char} {parts : Parts} (h : IsParted cs parts) (hapart : parts.Apart) :
    controlsFrom cs = parts.names := by
  induction h with
  | @last gap hnone =>
      rw [← List.append_nil gap, controlsFrom_gap hnone]
      exact controlsFrom_nil
  | @token gap rest last token tokens hnone hwhole _ ih =>
      obtain ⟨hfirst, hrest⟩ := List.forall_mem_cons.mp hapart
      have hlater := ih hrest
      rw [controlsFrom_gap hnone]
      cases token with
      | coloured colour inner =>
          rw [Token.spelling, List.append_assoc, List.append_assoc, controlsFrom_opening,
            controlsFrom_inner hfirst, hlater]
          rfl
      | control name =>
          have hfound : control? ((Token.control name).spelling ++ rest) = some (name, rest) :=
            control?_eq_some_iff.mpr ⟨hwhole, by simp [Token.spelling]⟩
          rw [controlsFrom_of_some hfound, hlater]
          rfl

/-- The names of the controls that are shown in place of a line. -/
def namesShown (line : String) : List String := (partsOf line).names.map String.ofList

theorem entityControls_of_apart {line : String} (h : (partsOf line).Apart) : entityControls line = namesShown line := by
  rw [entityControls, controlsFrom_of_isParted (isParted_iff.mpr rfl) h]
  rfl

/-- The hints of a rendered line, with what a console prints of them. -/
def hints (line : String) : List (List Char) :=
  ((renderLine line).covered.filter (·.2 = "entity.control")).map Prod.fst

theorem hints_behind (gap : List Char) (token : Token) :
    ((token.behind gap).covered.filter (·.2 = "entity.control")).map Prod.fst =
      token.name?.toList.map fun name => printed (useHint (String.ofList name)).toList := by
  rw [covered_behind]
  cases token with
  | coloured colour inner =>
      have hstyle : decide (colour.style = "entity.control") = false := by cases colour <;> decide
      split
      · rfl
      · rw [List.filter_cons, Token.shown_coloured, hstyle]
        rfl
  | control name =>
      have hpiece : (Token.control name).shown.1 = (useHint (String.ofList name)).toList := by
        rw [Token.shown_control, toList_useHint]
        exact congrArg (fun cs => "[:use ".toList ++ cs ++ [']']) String.toList_ofList.symm
      have hne : (useHint (String.ofList name)).toList ≠ [] := by
        rw [toList_useHint]
        exact List.append_ne_nil_of_right_ne_nil _ (by simp)
      rw [hpiece, if_neg hne]
      rfl

/-- The hints of a rendered line are those for the names that are shown. -/
theorem hints_eq (line : String) : hints line = (namesShown line).map fun name => printed (useHint name).toList := by
  rw [hints, renderLine_eq_concat, covered_texts, namesShown, Parts.names, List.filterMap_eq_flatMap_toList,
    List.filter_flatMap, List.map_flatMap, List.map_flatMap, List.map_flatMap]
  refine List.flatMap_congr fun (gap, token) _ => ?_
  rw [hints_behind, List.map_map]
  rfl

/-! ## What is offered -/

theorem usable_of_apart {transcript : List String} (h : ∀ line ∈ transcript, (partsOf line).Apart) :
    Shell.usable transcript = (transcript.flatMap namesShown).eraseDups := by
  rw [Shell.usable, entityControls_unlines, List.flatMap_congr fun line hline => entityControls_of_apart (h line hline)]

namespace Shell

def offer (names : List String) (s : Shell) : Shell :=
  if names = [] then s.say "ansi.gray" "Nessuna entità da utilizzare" else s.say "entity.control" (join ", " names)

theorem respond_use (s : Shell) :
    s.respond (.line ":use") = some (s.offer (usable s.workplace.terminal.session.transcript)) := by
  have hparse : ShellLine.parse ":use" = .console ":use" .controls := by decide
  simp only [respond, hparse, runConsoleLine, offer]
  cases usable s.workplace.terminal.session.transcript with
  | nil => rfl
  | cons name names => rfl

/-- While no directive of the transcript holds the start of a control, `:use` offers the names of the controls that
are shown as hints, each once and in order. -/
theorem use_offers_names_shown {s : Shell}
    (h : ∀ line ∈ s.workplace.terminal.session.transcript, (partsOf line).Apart) :
    s.respond (.line ":use") =
      some (s.offer (s.workplace.terminal.session.transcript.flatMap namesShown).eraseDups) ∧
    ∀ line, hints line = (namesShown line).map fun name => printed (useHint name).toList := by
  rw [respond_use, usable_of_apart h]
  exact ⟨rfl, hints_eq⟩

theorem use_offers_names_shown_twice :
    let t : Terminal := { session := { transcript := ["[utilizza:b]", "\x1b[1;32mx\x1b[0m [utilizza:a][utilizza:b]"] } }
    let s : Shell := ⟨⟨.standard [] ⟨"/api", "/entities", "here"⟩, t, "/api"⟩, .dark, {}, []⟩
    (∀ line ∈ t.session.transcript, (partsOf line).Apart) ∧
      s.respond (.line ":use") = some (s.say "entity.control" "b, a") ∧
      hints "\x1b[1;32mx\x1b[0m [utilizza:a][utilizza:b]" = ["[:use a]".toList, "[:use b]".toList] := by
  intro t s
  have hapart : ∀ line ∈ t.session.transcript, (partsOf line).Apart := by decide +kernel
  have hnames : (t.session.transcript.flatMap namesShown).eraseDups = ["b", "a"] := by decide +kernel
  obtain ⟨hoffer, hhints⟩ := use_offers_names_shown (s := s) hapart
  rw [show s.workplace.terminal.session.transcript = t.session.transcript from rfl, hnames] at hoffer
  refine ⟨hapart, hoffer, ?_⟩
  rw [hhints]
  decide +kernel

/-- A control in a directive is offered, but the directive is shown as it stands. -/
theorem use_offers_name_in_directive :
    let t : Terminal := { session := { transcript := ["\x1b[1;32m[utilizza:a]\x1b[0m"] } }
    let s : Shell := ⟨⟨.standard [] ⟨"/api", "/entities", "here"⟩, t, "/api"⟩, .dark, {}, []⟩
    s.respond (.line ":use") = some (s.say "entity.control" "a") ∧ t.session.transcript.flatMap namesShown = [] ∧
      t.session.transcript.map renderLine = [{ plain := "[utilizza:a]", spans := [⟨0, 12, "ansi.green"⟩] }] := by
  intro t s
  have husable : usable t.session.transcript = ["a"] := by decide +kernel
  refine ⟨?_, by decide +kernel, by decide +kernel⟩
  rw [respond_use, show s.workplace.terminal.session.transcript = t.session.transcript from rfl, husable]
  rfl

end Shell

end LineShell
