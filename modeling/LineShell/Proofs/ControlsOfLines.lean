import LineShell.Entities
import LineShell.Proofs.Controls
import LineShell.Proofs.Text.Pieces

/-!
# Controls of lines

Where a blank stands, a text can be looked through for controls in two parts, so the controls of joined lines are those
of each line. Every name that is found stands in the text, in a control of its own and in the order of the names.
-/

namespace LineShell

open Text

/-! ## Parts of a text -/

theorem entityControls_append_blank {c : Char} (hc : isBlank c = true) (a b : String) :
    entityControls (a ++ c.toString ++ b) = entityControls a ++ entityControls b := by
  have htext : (a ++ c.toString ++ b).toList = a.toList ++ c :: b.toList := by
    simp [String.toList_append, Char.toString]
  rw [entityControls, htext, controlsFrom_append_blank hc, List.map_append]
  rfl

theorem entityControls_unlines (ls : List String) : entityControls (unlines ls) = ls.flatMap entityControls := by
  induction ls with
  | nil =>
      rw [entityControls, show (unlines []).toList = [] from rfl, controlsFrom_nil]
      rfl
  | cons line ls ih =>
      by_cases hls : ls = []
      · simp [hls]
      · have hlines : unlines (line :: ls) = line ++ '\n'.toString ++ unlines ls := by
          rw [← List.singleton_append, unlines_append (List.cons_ne_nil line []) hls, unlines_singleton]
          rfl
        rw [List.flatMap_cons, ← ih, hlines, entityControls_append_blank (by decide)]

/-! ## Places -/

/-- The names that are found stand in the text one behind the other, each in a control and with some text before it. -/
theorem exists_places_controlsFrom (cs : List Char) : ∃ (places : List (List Char × List Char)) (last : List Char),
    places.map Prod.snd = controlsFrom cs ∧
      cs = (places.flatMap fun (gap, name) => gap ++ controlOpening ++ name ++ [']']) ++ last := by
  induction cs using controlsFrom.induct with
  | case1 cs name after h _ ih =>
      obtain ⟨places, last, hnames, hafter⟩ := ih
      refine ⟨([], name) :: places, last, ?_, ?_⟩
      · rw [List.map_cons, hnames, controlsFrom_of_some h]
      · rw [(control?_eq_some_iff.mp h).2, hafter]
        simp
  | case2 => exact ⟨[], [], by rw [controlsFrom_nil]; rfl, rfl⟩
  | case3 c cs h ih =>
      obtain ⟨places, last, hnames, hcs⟩ := ih
      rw [controlsFrom_of_none h]
      cases places with
      | nil => exact ⟨[], c :: last, hnames, by rw [hcs]; rfl⟩
      | cons place places => exact ⟨(c :: place.1, place.2) :: places, last, hnames, by rw [hcs]; simp⟩

theorem toList_entityControl (name : String) :
    (entityControl name).toList = controlOpening ++ (name.toList ++ [']']) := by
  change ("[utilizza:" ++ name ++ "]").toList = "[utilizza:".toList ++ (name.toList ++ [']'])
  simp only [String.toList_append, List.append_assoc]
  rfl

theorem exists_places (text : String) : ∃ (places : List (String × String)) (last : String),
    places.map Prod.snd = entityControls text ∧
      text = join "" (places.map fun (gap, name) => gap ++ entityControl name) ++ last := by
  obtain ⟨places, last, hnames, htext⟩ := exists_places_controlsFrom text.toList
  refine ⟨places.map fun place => (String.ofList place.1, String.ofList place.2), String.ofList last, ?_, ?_⟩
  · rw [entityControls, ← hnames, List.map_map, List.map_map]
    rfl
  · apply String.toList_inj.mp
    rw [htext, String.toList_append, toList_join_empty, String.toList_ofList, List.map_map, List.flatMap_map]
    congr 1
    refine List.flatMap_congr fun place _ => ?_
    simp [toList_entityControl]

/-! ## Controls are local -/

/-- A text falls apart at every blank: what stands before it gives its controls and what stands behind it gives its
own, so joined lines give what each of them gives. The names that are found are words without a closing bracket, and
they stand in the text as controls, one behind the other. -/
theorem controls_local {c : Char} (hc : isBlank c = true) (a b : String) (ls : List String) (text : String) :
    entityControls (a ++ c.toString ++ b) = entityControls a ++ entityControls b ∧
    entityControls (unlines ls) = ls.flatMap entityControls ∧
    (∀ name ∈ entityControls text, name ≠ "" ∧ ∀ d ∈ name.toList, d ≠ ']' ∧ isBlank d = false) ∧
    ∃ (places : List (String × String)) (last : String), places.map Prod.snd = entityControls text ∧
      text = join "" (places.map fun (gap, name) => gap ++ entityControl name) ++ last :=
  ⟨entityControls_append_blank hc a b, entityControls_unlines ls,
    fun name hname => (exists_mem_entityControls_iff name).mp ⟨text, hname⟩, exists_places text⟩

theorem controls_local_nested :
    isBlank '\u2003' = true ∧
      entityControls ("[utilizza:a" ++ '\u2003'.toString ++ "b][utilizza:[utilizza:c]]") = ["[utilizza:c"] := by
  have hblank : isBlank '\u2003' = true := by decide
  have hfirst : entityControls "[utilizza:a" = [] := by decide +kernel
  have hsecond : entityControls "b][utilizza:[utilizza:c]]" = ["[utilizza:c"] := by decide +kernel
  refine ⟨hblank, ?_⟩
  rw [(controls_local hblank "[utilizza:a" "b][utilizza:[utilizza:c]]" [] "").1, hfirst, hsecond]
  rfl

end LineShell
