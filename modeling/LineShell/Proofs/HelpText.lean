import LineShell.Proofs.Restyling
import LineShell.Registry
import LineShell.Builtin

/-!
# The help on a console

The help writes a row for each command, and one for its usage if there is any. A console shows the same rows without
the directives: the names are green, the usages grey, and nothing else has a style.
-/

namespace LineShell

open Text

/-! ## Rows -/

/-- Lines of which each ends with a newline. -/
def endedLines (ls : List String) : String := join "" (ls.map (· ++ "\n"))

theorem toList_endedLines (ls : List String) :
    (endedLines ls).toList = ls.flatMap fun line => line.toList ++ ['\n'] := by
  rw [endedLines, toList_join_empty, List.flatMap_map]
  exact List.flatMap_congr fun line _ => by simp

@[simp] theorem endedLines_nil : endedLines [] = "" := rfl

theorem endedLines_append (first second : List String) :
    endedLines (first ++ second) = endedLines first ++ endedLines second := by
  apply String.toList_inj.mp
  simp only [String.toList_append, toList_endedLines, List.flatMap_append]

@[simp] theorem endedLines_cons (line : String) (ls : List String) :
    endedLines (line :: ls) = line ++ "\n" ++ endedLines ls := by
  apply String.toList_inj.mp
  simp [toList_endedLines]

theorem endedLines_eq {ls : List String} (hne : ls ≠ []) : endedLines ls = unlines ls ++ "\n" := by
  induction ls with
  | nil => exact absurd rfl hne
  | cons line ls ih =>
      by_cases hls : ls = []
      · rw [hls, endedLines_cons, endedLines_nil, unlines_singleton, String.append_empty]
      · rw [endedLines_cons, ih hls, ← List.singleton_append, unlines_append (List.cons_ne_nil line []) hls,
          unlines_singleton, String.append_assoc, String.append_assoc, String.append_assoc]

namespace Summary

variable (summary : Summary)

def paddedName : String := padRight Builtin.nameWidth summary.name

def usage? : Option String := summary.usage.filter (· ≠ "")

def usageText (usage : String) : String := "Usage: " ++ usage

def line : String := Builtin.green ++ summary.paddedName ++ Builtin.plain ++ " - " ++ summary.description

def rows : List String :=
  summary.line :: summary.usage?.toList.map fun usage => "    " ++ Builtin.grey ++ usageText usage ++ Builtin.plain

def shownRow : String := summary.paddedName ++ " - " ++ summary.description

def shownRows : List String := summary.shownRow :: summary.usage?.toList.map fun usage => "    " ++ usageText usage

theorem usage?_eq : (summary.usage = none ∨ summary.usage = some "") ∧ summary.usage? = none ∨
    ∃ usage, usage ≠ "" ∧ summary.usage = some usage ∧ summary.usage? = some usage := by
  cases h : summary.usage with
  | none => exact .inl ⟨.inl rfl, by rw [usage?, h]; rfl⟩
  | some usage =>
      by_cases hne : usage = ""
      · exact .inl ⟨.inr (by rw [hne]), by rw [usage?, h, hne]; rfl⟩
      · exact .inr ⟨usage, hne, rfl, by rw [usage?, h, Option.filter_some, if_pos (by simpa using hne)]⟩

theorem helpEntry_eq : Builtin.helpEntry summary = unlines summary.rows := by
  have hpair : ∀ first second, unlines [first, second] = first ++ "\n" ++ second := fun first second => by
    rw [← List.singleton_append, unlines_append (List.cons_ne_nil first []) (List.cons_ne_nil second []),
      unlines_singleton, unlines_singleton]
  rw [Builtin.helpEntry, rows]
  rcases summary.usage?_eq with ⟨hnone | hempty, hsome⟩ | ⟨usage, hne, husage, hsome⟩
  · rw [hsome, hnone, Option.toList_none, List.map_nil, unlines_singleton]
    rfl
  · rw [hsome, hempty, Option.toList_none, List.map_nil, unlines_singleton]
    rfl
  · have hrow : "\n    " = "\n" ++ "    " := by decide
    rw [hsome, husage, Option.toList_some, List.map_singleton, hpair]
    split
    · rename_i h
      cases h
    · rename_i h
      exact absurd (Option.some.inj h) hne
    · rename_i usage' _ h
      obtain rfl := Option.some.inj h
      change summary.line ++ "\n    " ++ Builtin.grey ++ "Usage: " ++ usage ++ Builtin.plain =
        summary.line ++ "\n" ++ ("    " ++ Builtin.grey ++ ("Usage: " ++ usage) ++ Builtin.plain)
      rw [hrow]
      simp only [String.append_assoc]

end Summary

theorem endedLines_flatMap (f : Summary → List String) (known : List Summary) :
    endedLines (known.flatMap f) = join "" (known.map fun summary => endedLines (f summary)) := by
  apply String.toList_inj.mp
  rw [toList_endedLines, toList_join_empty, List.flatMap_assoc, List.flatMap_map]
  exact List.flatMap_congr fun summary _ => (toList_endedLines (f summary)).symm

theorem helpText_eq (known : List Summary) : Builtin.helpText known = unlines (known.flatMap Summary.rows) := by
  by_cases hne : known = []
  · rw [hne]
    rfl
  · have hentries : endedLines (known.map Builtin.helpEntry) = endedLines (known.flatMap Summary.rows) := by
      rw [endedLines_flatMap, endedLines, List.map_map]
      refine congrArg (join "") (List.map_congr_left fun summary _ => ?_)
      rw [Function.comp_apply, summary.helpEntry_eq]
      exact (endedLines_eq (by simp [Summary.rows])).symm
    have hrows : known.flatMap Summary.rows ≠ [] := by
      obtain ⟨summary, rest, rfl⟩ := List.exists_cons_of_ne_nil hne
      simp [Summary.rows]
    rw [endedLines_eq hrows, endedLines_eq (by simpa using hne)] at hentries
    exact (String.append_left_inj "\n").mp hentries

/-! ## Text of a row -/

/-- Text that a console shows on a row as it stands, without a directive. -/
def IsRowText (text : String) : Prop := ∀ c ∈ text.toList, c ≠ '\n' ∧ c ≠ '\x1b' ∧ isDropped c = false

-- named, as another instance would go through all characters there are
instance (text : String) : Decidable (IsRowText text) := List.decidableBAll _ text.toList

namespace IsRowText

variable {text more : String}

theorem append (h : IsRowText text) (hmore : IsRowText more) : IsRowText (text ++ more) := by
  intro c hc
  rw [String.toList_append] at hc
  rcases List.mem_append.mp hc with hc | hc
  · exact h c hc
  · exact hmore c hc

theorem padRight (h : IsRowText text) (width : Nat) : IsRowText (padRight width text) := by
  refine h.append fun c hc => ?_
  rw [String.toList_ofList] at hc
  rw [List.eq_of_mem_replicate hc]
  decide

theorem printed_eq (h : IsRowText text) : printed text.toList = text.toList :=
  List.filter_eq_self.mpr fun c hc => by rw [(h c hc).2.2]; rfl

theorem escape_not_mem (h : IsRowText text) : '\x1b' ∉ text.toList := fun hc => (h _ hc).2.1 rfl

theorem not_hasChar (h : IsRowText text) : hasChar '\n' text = false :=
  (hasChar_eq_false_iff '\n' text).mpr fun hc => (h _ hc).1 rfl

theorem isWhole (h : IsRowText text) (colour : Colour) : (Token.coloured colour text.toList).IsWhole :=
  fun hreset => h.escape_not_mem (hreset.subset (by decide))

end IsRowText

namespace Summary

variable {summary : Summary}

/-- A command of which the help shows the texts as they stand. -/
structure IsPlain (summary : Summary) : Prop where
  name : IsRowText summary.name
  description : IsRowText summary.description
  usage : ∀ usage ∈ summary.usage, IsRowText usage
  controls : entityControls summary.description = []

instance (summary : Summary) : Decidable summary.IsPlain :=
  decidable_of_iff (IsRowText summary.name ∧ IsRowText summary.description ∧
      (∀ usage ∈ summary.usage, IsRowText usage) ∧ entityControls summary.description = [])
    ⟨fun ⟨hname, hdescription, husage, hcontrols⟩ => ⟨hname, hdescription, husage, hcontrols⟩,
      fun ⟨hname, hdescription, husage, hcontrols⟩ => ⟨hname, hdescription, husage, hcontrols⟩⟩

namespace IsPlain

theorem paddedName (h : summary.IsPlain) : IsRowText summary.paddedName := h.name.padRight _

theorem about (h : summary.IsPlain) : IsRowText (" - " ++ summary.description) :=
  IsRowText.append (by decide) h.description

theorem usageText (h : summary.IsPlain) {usage : String} (husage : usage ∈ summary.usage?) :
    IsRowText (usageText usage) :=
  IsRowText.append (by decide) (h.usage usage (Option.filter_eq_some_iff.mp husage).1)

theorem controlsFrom_about (h : summary.IsPlain) : controlsFrom (" - " ++ summary.description).toList = [] := by
  have hsplit : (" - " ++ summary.description).toList = " -".toList ++ ' ' :: summary.description.toList := by
    rw [String.toList_append]
    rfl
  rw [hsplit, controlsFrom_append_blank (by decide), controlsFrom_of_not_mem (by decide),
    List.map_eq_nil_iff.mp h.controls, List.append_nil]

theorem rows_newline (h : summary.IsPlain) : ∀ row ∈ summary.rows, hasChar '\n' row = false := by
  have hcode : hasChar '\n' Builtin.green = false ∧ hasChar '\n' Builtin.grey = false ∧
      hasChar '\n' Builtin.plain = false ∧ hasChar '\n' " - " = false ∧ hasChar '\n' "    " = false := by decide
  refine List.forall_mem_cons.mpr ⟨?_, List.forall_mem_map.mpr fun usage husage => ?_⟩
  · simp only [line, hasChar_append, h.paddedName.not_hasChar, h.description.not_hasChar, hcode, Bool.or_self]
  · simp only [hasChar_append, (h.usageText (Option.mem_toList.mp husage)).not_hasChar, hcode, Bool.or_self]

theorem shownRows_newline (h : summary.IsPlain) : ∀ row ∈ summary.shownRows, hasChar '\n' row = false := by
  have hindent : hasChar '\n' "    " = false := by decide
  refine List.forall_mem_cons.mpr ⟨?_, List.forall_mem_map.mpr fun usage husage => ?_⟩
  · rw [shownRow, String.append_assoc, hasChar_append, h.paddedName.not_hasChar, h.about.not_hasChar, Bool.or_self]
  · rw [hasChar_append, hindent, (h.usageText (Option.mem_toList.mp husage)).not_hasChar, Bool.or_self]

end IsPlain

/-! ## Rows on a console -/

/-- The rows of a command on a console, each with its newline. -/
def styled (summary : Summary) : StyledText :=
  let text := (StyledText.append summary.paddedName.toList (some "ansi.green") {}).append
    (" - " ++ summary.description).toList none
  match summary.usage? with
  | none => text.append ['\n'] none
  | some usage =>
    ((text.append "\n    ".toList none).append (usageText usage).toList (some "ansi.gray")).append ['\n'] none

theorem toList_line (summary : Summary) : summary.line.toList =
    (Token.coloured .green summary.paddedName.toList).spelling ++ (" - " ++ summary.description).toList := by
  simp only [line, Token.spelling, String.toList_append, List.append_assoc]
  rfl

theorem toList_usageRow (usage : String) : ("    " ++ Builtin.grey ++ usageText usage ++ Builtin.plain).toList =
    "    ".toList ++ (Token.coloured .grey (usageText usage).toList).spelling := by
  simp only [Token.spelling, String.toList_append, List.append_assoc]
  rfl

theorem renderFrom_rows (h : summary.IsPlain) (rest : List Char) (text : StyledText) :
    renderFrom text ((endedLines summary.rows).toList ++ rest) = renderFrom (text.followedBy summary.styled) rest := by
  have hescape := h.about.escape_not_mem
  have hcontrols := h.controlsFrom_about
  have hname := h.paddedName.isWhole .green
  rcases husage : summary.usage? with _ | usage
  · have hrows : (endedLines summary.rows).toList ++ rest =
        (Token.coloured .green summary.paddedName.toList).spelling ++
          ((" - " ++ summary.description).toList ++ ['\n'] ++ rest) := by
      rw [toList_endedLines, rows, husage, Option.toList_none, List.map_nil, List.flatMap_singleton, toList_line]
      simp only [List.append_assoc]
    rw [hrows, renderFrom_token hname, renderFrom_append (noneBegins_plain_blank hescape hcontrols (by decide) rest),
      styled, husage]
    simp only [StyledText.followedBy_append, StyledText.followedBy_empty, StyledText.append_append]
    rfl
  · -- no token reaches from the description over the indent to the usage
    have hgap : '\x1b' ∉ (" - " ++ summary.description).toList ++ '\n' :: "   ".toList := by
      rw [List.mem_append, not_or]
      exact ⟨hescape, by decide⟩
    have hnone : controlsFrom ((" - " ++ summary.description).toList ++ '\n' :: "   ".toList) = [] := by
      rw [controlsFrom_append_blank (by decide), hcontrols, controlsFrom_of_not_mem (by decide)]
      rfl
    have hrows : (endedLines summary.rows).toList ++ rest =
        (Token.coloured .green summary.paddedName.toList).spelling ++
          ((" - " ++ summary.description).toList ++ '\n' :: "   ".toList ++ [' '] ++
            ((Token.coloured .grey (usageText usage).toList).spelling ++ (['\n'] ++ rest))) := by
      rw [toList_endedLines, rows, husage, Option.toList_some, List.map_singleton, List.flatMap_cons,
        List.flatMap_singleton, toList_line, toList_usageRow]
      simp only [List.append_assoc]
      rfl
    have hend : NoneBegins ['\n'] rest :=
      noneBegins_plain_blank (List.not_mem_nil : '\x1b' ∉ []) controlsFrom_nil (by decide) rest
    rw [hrows, renderFrom_token hname, renderFrom_append (noneBegins_plain_blank hgap hnone (by decide) _),
      renderFrom_token ((h.usageText husage).isWhole .grey), renderFrom_append hend, styled, husage]
    simp only [StyledText.followedBy_append, StyledText.followedBy_empty, StyledText.append_append]
    rw [List.append_assoc]
    rfl

theorem paddedName_ne_nil (summary : Summary) : summary.paddedName.toList ≠ [] := by
  intro hnil
  have hlength : summary.paddedName.toList.length = 0 := by rw [hnil, List.length_nil]
  simp only [paddedName, padRight, size, String.toList_append, String.toList_ofList, List.length_append,
    List.length_replicate, Builtin.nameWidth] at hlength
  omega

theorem usageText_ne_nil (usage : String) : (usageText usage).toList ≠ [] := by
  rw [usageText, String.toList_append]
  exact List.append_ne_nil_of_left_ne_nil (by decide) _

theorem styled_eq (h : summary.IsPlain) : summary.styled = {
    plain := endedLines summary.shownRows
    spans := ⟨0, size summary.paddedName, "ansi.green"⟩ :: summary.usage?.toList.map fun usage =>
      let start := size (summary.shownRow ++ "\n    ")
      ⟨start, start + size (usageText usage), "ansi.gray"⟩ } := by
  have hfront : "" ++ summary.paddedName ++ (" - " ++ summary.description) = summary.shownRow := by
    simp only [shownRow, String.empty_append, String.append_assoc]
  have hempty : size "" = 0 := rfl
  have hprinted : printed ['\n'] = "\n".toList ∧ printed "\n    ".toList = "\n    ".toList := by decide
  rcases husage : summary.usage? with _ | usage
  · rw [styled, shownRows, husage]
    simp only [StyledText.append_some summary.paddedName_ne_nil, StyledText.append_none, h.paddedName.printed_eq,
      h.about.printed_eq, hprinted, String.ofList_toList, hfront, hempty, Nat.zero_add, Option.toList_none,
      List.map_nil, endedLines_cons, endedLines_nil, String.append_empty]
    rfl
  · have hbreak : "\n    " = "\n" ++ "    " := by decide
    have hplain : summary.shownRow ++ "\n    " ++ usageText usage ++ "\n" =
        endedLines [summary.shownRow, "    " ++ usageText usage] := by
      simp only [hbreak, endedLines_cons, endedLines_nil, String.append_empty, String.append_assoc]
    rw [styled, shownRows, husage, Option.toList_some, List.map_singleton, List.map_singleton, ← hplain]
    simp only [StyledText.append_some summary.paddedName_ne_nil, StyledText.append_some (usageText_ne_nil usage),
      StyledText.append_none, h.paddedName.printed_eq, h.about.printed_eq, (h.usageText husage).printed_eq, hprinted,
      String.ofList_toList, hfront, hempty, Nat.zero_add]
    rfl

theorem covered_styled (h : summary.IsPlain) : summary.styled.Orderly ∧ summary.styled.covered =
    (summary.paddedName.toList, "ansi.green") :: summary.usage?.toList.map fun usage =>
      ((usageText usage).toList, "ansi.gray") := by
  have hname := StyledText.orderly_piece summary.paddedName.toList (some "ansi.green")
  have hrow := hname.append (" - " ++ summary.description).toList none
  have hcovered : (StyledText.append summary.paddedName.toList (some "ansi.green") {}).covered =
      [(summary.paddedName.toList, "ansi.green")] := by
    rw [StyledText.covered_append_some StyledText.orderly_empty summary.paddedName_ne_nil, h.paddedName.printed_eq]
    rfl
  rcases husage : summary.usage? with _ | usage
  · rw [styled, husage]
    refine ⟨hrow.append _ _, ?_⟩
    rw [StyledText.covered_append_none hrow, StyledText.covered_append_none hname, hcovered]
    rfl
  · have hindent := hrow.append "\n    ".toList none
    have husageRow := hindent.append (usageText usage).toList (some "ansi.gray")
    rw [styled, husage]
    refine ⟨husageRow.append _ _, ?_⟩
    rw [StyledText.covered_append_none husageRow, StyledText.covered_append_some hindent (usageText_ne_nil usage),
      StyledText.covered_append_none hrow, StyledText.covered_append_none hname, hcovered,
      (h.usageText husage).printed_eq]
    rfl

end Summary

/-! ## The whole help -/

section

variable {known : List Summary}

theorem renderFrom_help (h : ∀ summary ∈ known, summary.IsPlain) (text : StyledText) :
    renderFrom text (endedLines (known.flatMap Summary.rows)).toList =
      (known.map Summary.styled).foldl StyledText.followedBy text := by
  induction known generalizing text with
  | nil => exact renderFrom_nil text
  | cons summary known ih =>
      obtain ⟨hsummary, hknown⟩ := List.forall_mem_cons.mp h
      rw [List.flatMap_cons, endedLines_append, String.toList_append, Summary.renderFrom_rows hsummary, ih hknown,
        List.map_cons, List.foldl_cons]

theorem renderLine_helpText (h : ∀ summary ∈ known, summary.IsPlain) (hne : known ≠ []) :
    (renderLine (Builtin.helpText known)).append ['\n'] none = StyledText.concat (known.map Summary.styled) := by
  have hrows : known.flatMap Summary.rows ≠ [] := by
    obtain ⟨summary, rest, rfl⟩ := List.exists_cons_of_ne_nil hne
    simp [Summary.rows]
  rw [← renderLine_concat (by decide) (by decide), helpText_eq, show String.singleton '\n' = "\n" from rfl,
    ← endedLines_eq hrows, renderLine_eq, renderFrom_help h, StyledText.concat]

theorem plain_concat_styled (h : ∀ summary ∈ known, summary.IsPlain) :
    (StyledText.concat (known.map Summary.styled)).plain = endedLines (known.flatMap Summary.shownRows) := by
  rw [StyledText.plain_concat, endedLines_flatMap, List.map_map]
  refine congrArg (join "") (List.map_congr_left fun summary hsummary => ?_)
  rw [Function.comp_apply, Summary.styled_eq (h summary hsummary)]

/-- The stretches of a command stand behind the rows before it. -/
theorem spans_concat_styled (h : ∀ summary ∈ known, summary.IsPlain) :
    (StyledText.concat (known.map Summary.styled)).spans = known.zipIdx.flatMap fun (summary, i) =>
      let front := size (endedLines ((known.take i).flatMap Summary.shownRows))
      ⟨front, front + size summary.paddedName, "ansi.green"⟩ :: summary.usage?.toList.map fun usage =>
        let start := front + size (summary.shownRow ++ "\n    ")
        ⟨start, start + size (Summary.usageText usage), "ansi.gray"⟩ := by
  rw [StyledText.spans_concat, List.zipIdx_map, List.flatMap_map]
  refine List.flatMap_congr fun (summary, i) hmem => ?_
  have hfront : (StyledText.concat ((known.take i).map Summary.styled)).plain =
      endedLines ((known.take i).flatMap Summary.shownRows) :=
    plain_concat_styled fun summary hsummary => h summary (List.mem_of_mem_take hsummary)
  simp only [Prod.map, id, ← List.map_take, hfront, Summary.styled_eq (h summary (List.fst_mem_of_mem_zipIdx hmem))]
  simp [Span.shift, Function.comp_def, Nat.add_assoc]

theorem covered_concat_styled (h : ∀ summary ∈ known, summary.IsPlain) :
    (StyledText.concat (known.map Summary.styled)).Orderly ∧
    (StyledText.concat (known.map Summary.styled)).covered = known.flatMap fun summary =>
      (summary.paddedName.toList, "ansi.green") :: summary.usage?.toList.map fun usage =>
        ((Summary.usageText usage).toList, "ansi.gray") := by
  have hstyled : ∀ text ∈ known.map Summary.styled, text.Orderly := by
    intro text htext
    obtain ⟨summary, hsummary, rfl⟩ := List.mem_map.mp htext
    exact (Summary.covered_styled (h summary hsummary)).1
  obtain ⟨horderly, hcovered⟩ := StyledText.covered_concat _ hstyled
  refine ⟨horderly, ?_⟩
  rw [hcovered, List.flatMap_map]
  exact List.flatMap_congr fun summary hsummary => (Summary.covered_styled (h summary hsummary)).2

theorem lines_unlines_flatMap {f : Summary → List String} (hne : known.flatMap f ≠ [])
    (h : ∀ summary ∈ known, ∀ row ∈ f summary, hasChar '\n' row = false) :
    lines (unlines (known.flatMap f)) = known.flatMap f := by
  refine split_join hne fun row hrow => ?_
  obtain ⟨summary, hsummary, hrow⟩ := List.mem_flatMap.mp hrow
  exact h summary hsummary row hrow

end

/-- The help has a row for each command in order, and behind it one for the usage if it says anything. On a console the
rows stand without their directives, the padded names green and the usages grey, and nothing else has a style. -/
theorem help_shows_rows {r : Registry} (h : ∀ summary ∈ r.summaries, summary.IsPlain) (args : List String)
    (t : Terminal) :
    ∃ out, Builtin.help ⟨args, r.summaries⟩ t = (.ok (some out), t) ∧
      out = unlines (r.summaries.flatMap Summary.rows) ∧
      (renderLine out).plain = unlines (r.summaries.flatMap Summary.shownRows) ∧
      (r.commands ≠ [] → lines out = r.summaries.flatMap Summary.rows ∧
        lines (renderLine out).plain = r.summaries.flatMap Summary.shownRows) ∧
      (renderLine out).style = "" ∧
      ((renderLine out).spans = r.summaries.zipIdx.flatMap fun (summary, i) =>
        let front := size (endedLines ((r.summaries.take i).flatMap Summary.shownRows))
        ⟨front, front + size summary.paddedName, "ansi.green"⟩ :: summary.usage?.toList.map fun usage =>
          let start := front + size (summary.shownRow ++ "\n    ")
          ⟨start, start + size (Summary.usageText usage), "ansi.gray"⟩) ∧
      (renderLine out).covered = r.summaries.flatMap fun summary =>
        (summary.paddedName.toList, "ansi.green") :: summary.usage?.toList.map fun usage =>
          ((Summary.usageText usage).toList, "ansi.gray") := by
  refine ⟨Builtin.helpText r.summaries, rfl, helpText_eq _, ?_⟩
  by_cases hne : r.summaries = []
  · have hempty : renderLine (Builtin.helpText []) = {} := renderFrom_nil {}
    rw [hne, hempty]
    refine ⟨rfl, fun hcommands => absurd (List.map_eq_nil_iff.mp hne) hcommands, rfl, rfl, rfl⟩
  · have hrows : ∀ f : Summary → List String, (∀ summary, f summary ≠ []) → r.summaries.flatMap f ≠ [] := by
      intro f hf hnil
      obtain ⟨summary, hsummary⟩ := List.exists_mem_of_ne_nil _ hne
      exact hf summary (List.flatMap_eq_nil_iff.mp hnil summary hsummary)
    have hwritten := hrows Summary.rows fun summary => List.cons_ne_nil _ _
    have hshown := hrows Summary.shownRows fun summary => List.cons_ne_nil _ _
    have hwhole := renderLine_helpText h hne
    have hplain : (renderLine (Builtin.helpText r.summaries)).plain =
        unlines (r.summaries.flatMap Summary.shownRows) := by
      have hnewline : String.ofList (printed ['\n']) = "\n" := by decide
      -- rows are rendered with their newlines; the help itself ends without one
      have hended := congrArg StyledText.plain hwhole
      rw [StyledText.append_none, hnewline, plain_concat_styled h, endedLines_eq hshown] at hended
      exact (String.append_left_inj "\n").mp hended
    refine ⟨hplain, fun _ => ⟨?_, ?_⟩, style_renderLine _, ?spans, ?covered⟩
    · rw [helpText_eq]
      exact lines_unlines_flatMap hwritten fun summary hsummary => (h summary hsummary).rows_newline
    · rw [hplain]
      exact lines_unlines_flatMap hshown fun summary hsummary => (h summary hsummary).shownRows_newline
    case spans =>
      rw [← spans_concat_styled h, ← hwhole, StyledText.append_none]
    case covered =>
      rw [← (covered_concat_styled h).2, ← hwhole, StyledText.covered_append_none (orderly_renderLine _)]

theorem help_shows_rows_two :
    let r : Registry := ⟨[⟨⟨"a", "d [utilizza:x", some "[utilizza:z]"⟩, Builtin.help, none⟩,
      ⟨⟨"long name here", "", some ""⟩, Builtin.pwd, none⟩]⟩
    (∀ summary ∈ r.summaries, summary.IsPlain) ∧
      ∃ out, Builtin.help ⟨[], r.summaries⟩ {} = (.ok (some out), {}) ∧
        lines (renderLine out).plain =
          ["a            - d [utilizza:x", "    Usage: [utilizza:z]", "long name here - "] ∧
        (renderLine out).spans = [⟨0, 12, "ansi.green"⟩, ⟨33, 52, "ansi.gray"⟩, ⟨53, 67, "ansi.green"⟩] := by
  intro r
  have hplain : ∀ summary ∈ r.summaries, summary.IsPlain := by decide +kernel
  obtain ⟨out, hout, -, -, hlines, -, hspans, -⟩ := help_shows_rows hplain [] {}
  refine ⟨hplain, out, hout, (hlines (by decide)).2.trans ?_, hspans.trans ?_⟩
  · decide
  · decide

end LineShell
