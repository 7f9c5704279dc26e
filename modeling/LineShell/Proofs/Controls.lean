import LineShell.Markup

/-!
# Controls in a text

What a control is, and which names the scan of a text for controls can give: the words without a closing
bracket, and no others.
-/

namespace LineShell

/-! ## Names -/

/-- A name that a control can hold: not empty, and of characters that may stand in it. -/
def IsEntityName (name : List Char) : Prop := name ≠ [] ∧ ∀ c ∈ name, inName c = true

theorem inName_iff (c : Char) : inName c = true ↔ c ≠ ']' ∧ Text.isBlank c = false := by simp [inName]

theorem isEntityName_of_takeWhile {cs : List Char} (h : cs.takeWhile inName ≠ []) :
    IsEntityName (cs.takeWhile inName) :=
  ⟨h, List.all_eq_true.mp List.all_takeWhile⟩

/-! ## One control -/

theorem control?_eq_some_iff {cs name after : List Char} :
    control? cs = some (name, after) ↔ IsEntityName name ∧ cs = controlOpening ++ (name ++ ']' :: after) := by
  constructor
  · intro h
    simp only [control?] at h
    split at h
    · rename_i hopening
      obtain ⟨rest, rfl⟩ := List.isPrefixOf_iff_prefix.mp hopening
      rw [List.drop_left] at h
      split at h
      · rename_i after' hrest
        split at h
        · cases h
        · rename_i hname
          obtain ⟨rfl, rfl⟩ : rest.takeWhile inName = name ∧ after' = after := by simpa using h
          refine ⟨isEntityName_of_takeWhile (by simpa using hname), ?_⟩
          rw [← hrest, List.takeWhile_append_dropWhile]
      · cases h
    · cases h
  · rintro ⟨⟨hne, hname⟩, rfl⟩
    have hclosing : inName ']' = false := by decide
    have htake : (name ++ ']' :: after).takeWhile inName = name := by
      rw [List.takeWhile_append_of_pos hname, List.takeWhile_cons_of_neg (by simp [hclosing]), List.append_nil]
    have hdrop : (name ++ ']' :: after).dropWhile inName = ']' :: after := by
      rw [List.dropWhile_append_of_pos hname, List.dropWhile_cons_of_neg (by simp [hclosing])]
    have hopening : controlOpening.isPrefixOf (controlOpening ++ (name ++ ']' :: after)) = true :=
      List.isPrefixOf_iff_prefix.mpr (List.prefix_append _ _)
    simp only [control?, if_pos hopening, List.drop_left, htake, hdrop]
    simp [hne]

/-! ## The controls of a text -/

theorem controlsFrom_of_some {cs name after : List Char} (h : control? cs = some (name, after)) :
    controlsFrom cs = name :: controlsFrom after := by
  rw [controlsFrom]
  split
  · rename_i hfound
    obtain ⟨rfl, rfl⟩ : name = _ ∧ after = _ := by simpa [h] using hfound
    rfl
  · rename_i hnone
    cases h.symm.trans hnone

theorem controlsFrom_nil : controlsFrom [] = [] := by
  rw [controlsFrom]
  split
  · rename_i hfound
    cases hfound
  · rfl

theorem controlsFrom_of_none {c : Char} {cs : List Char} (h : control? (c :: cs) = none) :
    controlsFrom (c :: cs) = controlsFrom cs := by
  rw [controlsFrom]
  split
  · rename_i hfound
    cases h.symm.trans hfound
  · rfl

theorem control?_of_suffix {cs back : List Char} (h : controlsFrom cs = []) (hback : back <:+ cs) :
    control? back = none := by
  induction cs with
  | nil =>
      rw [List.suffix_nil.mp hback]
      rfl
  | cons c cs ih =>
      cases hfirst : control? (c :: cs) with
      | some found =>
          rw [controlsFrom_of_some hfirst] at h
          cases h
      | none =>
          rw [controlsFrom_of_none hfirst] at h
          rcases List.suffix_cons_iff.mp hback with rfl | hback
          · exact hfirst
          · exact ih h hback

/-! ## Blanks part a text -/

/-- A control does not reach over a blank. -/
theorem control?_append_blank {c : Char} (hc : Text.isBlank c = true) (a b : List Char) :
    control? (a ++ c :: b) = (control? a).map fun (name, after) => (name, after ++ c :: b) := by
  have hclosing : c ≠ ']' := by
    rintro rfl
    exact absurd hc (by decide)
  cases ha : control? a with
  | some found =>
      obtain ⟨name, after⟩ := found
      obtain ⟨hname, rfl⟩ := control?_eq_some_iff.mp ha
      exact control?_eq_some_iff.mpr ⟨hname, by simp⟩
  | none =>
      refine Option.eq_none_iff_forall_ne_some.mpr fun (name, after) hfound => ?_
      obtain ⟨hname, htext⟩ := control?_eq_some_iff.mp hfound
      have hword : c ∉ controlOpening ++ name := by
        intro hmem
        have hin : inName c = true := by
          rcases List.mem_append.mp hmem with h | h
          · exact List.all_eq_true.mp (by decide : controlOpening.all inName = true) c h
          · exact hname.2 c h
        rw [((inName_iff c).mp hin).2] at hc
        cases hc
      rw [← List.append_assoc] at htext
      -- the blank stands before the end of the control, at it, or behind it
      rcases List.append_eq_append_iff.mp htext with ⟨between, hleft, hright⟩ | ⟨between, hleft, hright⟩
      · cases between with
        | nil => exact hclosing (List.cons.inj hright).1
        | cons d between =>
            obtain ⟨rfl, -⟩ := List.cons.inj hright
            exact hword (hleft ▸ by simp)
      · cases between with
        | nil => exact hclosing (List.cons.inj hright).1.symm
        | cons d between =>
            obtain ⟨rfl, -⟩ := List.cons.inj hright
            have hsome : control? a = some (name, between) :=
              control?_eq_some_iff.mpr ⟨hname, by rw [hleft, List.append_assoc]⟩
            cases ha.symm.trans hsome

theorem controlsFrom_append_blank {c : Char} (hc : Text.isBlank c = true) (a b : List Char) :
    controlsFrom (a ++ c :: b) = controlsFrom a ++ controlsFrom b := by
  induction a using controlsFrom.induct with
  | case1 a name after h _ ih =>
      have happend : control? (a ++ c :: b) = some (name, after ++ c :: b) := by
        rw [control?_append_blank hc, h]
        rfl
      rw [controlsFrom_of_some h, controlsFrom_of_some happend, ih, List.cons_append]
  | case2 h =>
      have hblank : control? (c :: b) = none := by
        rw [← List.nil_append (c :: b), control?_append_blank hc, h]
        rfl
      rw [List.nil_append, controlsFrom_of_none hblank, controlsFrom_nil, List.nil_append]
  | case3 d a h ih =>
      have happend : control? (d :: (a ++ c :: b)) = none := by
        rw [← List.cons_append, control?_append_blank hc, h]
        rfl
      rw [List.cons_append, controlsFrom_of_none happend, controlsFrom_of_none h, ih]

theorem control?_of_not_mem {cs : List Char} (h : ']' ∉ cs) : control? cs = none := by
  refine Option.eq_none_iff_forall_ne_some.mpr fun (name, after) hfound => h ?_
  rw [(control?_eq_some_iff.mp hfound).2]
  simp

theorem controlsFrom_of_not_mem {cs : List Char} (h : ']' ∉ cs) : controlsFrom cs = [] := by
  induction cs with
  | nil => exact controlsFrom_nil
  | cons c cs ih =>
      rw [controlsFrom_of_none (control?_of_not_mem h)]
      exact ih fun hmem => h (List.mem_cons_of_mem c hmem)

/-! ## Names that texts give -/

theorem isEntityName_of_mem_controlsFrom {cs name : List Char} (h : name ∈ controlsFrom cs) : IsEntityName name := by
  induction cs using controlsFrom.induct with
  | case1 cs found after hfound _ ih =>
      rw [controlsFrom_of_some hfound] at h
      rcases List.mem_cons.mp h with rfl | h
      · exact (control?_eq_some_iff.mp hfound).1
      · exact ih h
  | case2 => simp [controlsFrom_nil] at h
  | case3 c cs hnone ih =>
      rw [controlsFrom_of_none hnone] at h
      exact ih h

theorem isEntityName_of_mem {text name : String} (h : name ∈ entityControls text) : IsEntityName name.toList := by
  obtain ⟨cs, hcs, rfl⟩ := List.mem_map.mp h
  rw [String.toList_ofList]
  exact isEntityName_of_mem_controlsFrom hcs

theorem mem_entityControls_control {name : String} (h : IsEntityName name.toList) :
    name ∈ entityControls (String.ofList (controlOpening ++ (name.toList ++ [']']))) := by
  have hfound := controlsFrom_of_some (control?_eq_some_iff.mpr ⟨h, rfl⟩ : control? _ = some (name.toList, []))
  rw [entityControls, String.toList_ofList, hfound]
  simp

/-- The names that some text gives are the words without a closing bracket. -/
theorem exists_mem_entityControls_iff (name : String) :
    (∃ text, name ∈ entityControls text) ↔
      name ≠ "" ∧ ∀ c ∈ name.toList, c ≠ ']' ∧ Text.isBlank c = false := by
  have hspelled : IsEntityName name.toList ↔ name ≠ "" ∧ ∀ c ∈ name.toList, c ≠ ']' ∧ Text.isBlank c = false := by
    simp only [IsEntityName, inName_iff, ne_eq, String.toList_eq_nil_iff]
  rw [← hspelled]
  exact ⟨fun ⟨_, h⟩ => isEntityName_of_mem h, fun h => ⟨_, mem_entityControls_control h⟩⟩

end LineShell
