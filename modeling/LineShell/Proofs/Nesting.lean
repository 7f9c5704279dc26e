import LineShell.Json.Reader

/-!
# Nesting

How deep arrays and objects may be nested in a text that is read: what opens no more than may be open is never
refused for its depth, and what opens more before anything else always is.
-/

namespace LineShell

namespace Json

open Text

/-! ## What reading leaves -/

theorem skipGap_suffix (gs : List Glyph) : skipGap gs <:+ gs := List.dropWhile_suffix _

theorem suffix_of_readText {read pieces : List Piece} {gs rest : List Glyph}
    (h : readText read gs = some (pieces, rest)) : rest <:+ gs := by
  fun_induction readText read gs with
  | case1 => cases h
  | case2 read gs =>
      cases h
      exact List.suffix_cons ..
  | case3 read a b c d gs code hcode ih =>
      exact (ih h).trans (List.suffix_append [Glyph.char '\\', Glyph.char 'u', a, b, c, d] gs)
  | case4 => cases h
  | case5 read e gs hnot c hescape ih => exact (ih h).trans (List.suffix_append [Glyph.char '\\', e] gs)
  | case6 => cases h
  | case7 => cases h
  | case8 read g gs hquote hcode hescape hlow ih => exact (ih h).trans (List.suffix_cons ..)

theorem suffix_of_afterWord? {word : String} {gs rest : List Glyph} (h : afterWord? word gs = some rest) :
    rest <:+ gs := by
  unfold afterWord? at h
  split at h
  · cases h
    exact List.drop_suffix ..
  · cases h

theorem takeDigits_suffix (gs : List Glyph) : (takeDigits gs).2 <:+ gs := List.dropWhile_suffix _

theorem takePlaces_suffix (gs : List Glyph) : (takePlaces gs).2 <:+ gs := by
  unfold takePlaces
  split
  · split
    · exact List.suffix_rfl
    · rename_i h
      exact (h ▸ takeDigits_suffix _).trans (List.suffix_cons ..)
  · exact List.suffix_rfl

theorem takeSign_suffix (gs : List Glyph) : (takeSign gs).2 <:+ gs := by
  unfold takeSign
  split
  · exact List.suffix_cons ..
  · exact List.suffix_cons ..
  · exact List.suffix_rfl

theorem takeExponent_suffix (gs : List Glyph) : (takeExponent gs).2 <:+ gs := by
  unfold takeExponent
  split
  · split
    · dsimp only
      split
      · exact List.suffix_rfl
      · rename_i h
        exact (h ▸ takeDigits_suffix _).trans ((takeSign_suffix _).trans (List.suffix_cons ..))
    · exact List.suffix_rfl
  · exact List.suffix_rfl

/-! ## Depth -/

def opens (g : Glyph) : Bool := g == .char '[' || g == .char '\x7b'

def openings (gs : List Glyph) : Nat := gs.countP opens

theorem openings_cons {g : Glyph} (h : opens g = true) (gs : List Glyph) : openings (g :: gs) = openings gs + 1 :=
  List.countP_cons_of_pos h

/-- A reading leaves an end of the text, and is stopped for its depth only where more is opened than may be. -/
def Within (depth : Nat) (gs : List Glyph) : Except JsonError (Json × List Glyph) → Prop
  | .ok (_, rest) => rest <:+ gs
  | .error (.nesting _) => depth < openings gs
  | .error _ => True

theorem within_readNumber (depth : Nat) (negative : Bool) (gs : List Glyph) :
    Within depth gs (readNumber negative gs) := by
  unfold readNumber
  split
  rename_i whole rest heq
  have hwhole : rest <:+ gs := by
    split at heq
    · cases heq
      exact List.suffix_cons ..
    · simpa only [heq] using takeDigits_suffix gs
  split
  · trivial
  · split
    rename_i places after hplaces
    split
    rename_i exponent last hexponent
    have hlast : last <:+ gs := by
      have h1 := takePlaces_suffix rest
      have h2 := takeExponent_suffix after
      rw [hplaces] at h1
      rw [hexponent] at h2
      exact h2.trans (h1.trans hwhole)
    split
    · split
      · exact hlast
      · trivial
    · exact hlast

theorem Within.mono {depth : Nat} {gs hs : List Glyph} {outcome : Except JsonError (Json × List Glyph)}
    (h : Within depth gs outcome) (hgs : gs <:+ hs) : Within depth hs outcome := by
  match outcome, h with
  | .ok (_, rest), h => exact List.IsSuffix.trans h hgs
  | .error (.nesting _), h => exact Nat.lt_of_lt_of_le h hgs.sublist.countP_le
  | .error .syntactic, _ | .error .encoding, _ | .error (.numeral _), _ => trivial

theorem Within.opening {depth : Nat} {g : Glyph} {gs : List Glyph} {outcome : Except JsonError (Json × List Glyph)}
    (h : Within depth gs outcome) (hg : opens g = true) : Within (depth + 1) (g :: gs) outcome := by
  match outcome, h with
  | .ok (_, rest), h => exact List.IsSuffix.trans h (List.suffix_cons ..)
  | .error (.nesting _), h => exact Nat.lt_of_lt_of_eq (Nat.succ_lt_succ h) (openings_cons hg gs).symm
  | .error .syntactic, _ | .error .encoding, _ | .error (.numeral _), _ => trivial

section

variable {fuel : Nat}
  (hvalue : ∀ depth gs, Within depth gs (readValue fuel depth gs))
  (hitems : ∀ depth items gs, Within depth gs (readItems fuel depth items gs))
  (hfields : ∀ depth fields gs, Within depth gs (readFields fuel depth fields gs))

include hitems hfields in
theorem within_readValue (depth : Nat) (gs : List Glyph) : Within depth gs (readValue (fuel + 1) depth gs) := by
  unfold readValue
  split
  · -- a text
    split
    · rename_i h
      exact (suffix_of_readText h).trans (List.suffix_cons ..)
    · trivial
  · -- an array
    split
    · exact Nat.lt_of_lt_of_eq (Nat.zero_lt_succ _) (openings_cons rfl _).symm
    · rename_i h
      exact (List.suffix_cons ..).trans ((h ▸ skipGap_suffix _).trans (List.suffix_cons ..))
    · exact ((hitems _ _ _).mono (skipGap_suffix _)).opening rfl
  · -- an object
    split
    · exact Nat.lt_of_lt_of_eq (Nat.zero_lt_succ _) (openings_cons rfl _).symm
    · rename_i h
      exact (List.suffix_cons ..).trans ((h ▸ skipGap_suffix _).trans (List.suffix_cons ..))
    · exact ((hfields _ _ _).mono (skipGap_suffix _)).opening rfl
  · -- a minus sign
    split
    · rename_i h
      exact (suffix_of_afterWord? h).trans (List.suffix_cons ..)
    · exact (within_readNumber _ _ _).mono (List.suffix_cons ..)
  · -- a word, or a number
    split
    all_goals first
      | exact within_readNumber _ _ _
      | exact suffix_of_afterWord? ‹_›

include hvalue hitems in
theorem within_readItems (depth : Nat) (items : List Json) (gs : List Glyph) :
    Within depth gs (readItems (fuel + 1) depth items gs) := by
  -- what is read behind the value is an end of the text, so `mono` carries it over to the whole
  have hitem := hvalue depth gs
  unfold readItems
  split <;> rename_i h <;> rw [h] at hitem
  · exact hitem
  · rename_i item rest
    have hrest : skipGap rest <:+ gs := (skipGap_suffix rest).trans hitem
    split
    · rename_i more hmore
      exact (hitems _ _ _).mono ((skipGap_suffix more).trans ((List.suffix_cons ..).trans (hmore ▸ hrest)))
    · rename_i more hmore
      exact (List.suffix_cons ..).trans (hmore ▸ hrest)
    · trivial

include hvalue hfields in
theorem within_readFields (depth : Nat) (fields : List (List Glyph × Json)) (gs : List Glyph) :
    Within depth gs (readFields (fuel + 1) depth fields gs) := by
  unfold readFields
  split
  · split
    · trivial
    · rename_i gs _ pieces rest htext
      have hrest : skipGap rest <:+ .char '"' :: gs :=
        (skipGap_suffix rest).trans ((suffix_of_readText htext).trans (List.suffix_cons ..))
      dsimp only
      split
      · rename_i body hcolon
        have hbody : skipGap body <:+ .char '"' :: gs :=
          (skipGap_suffix body).trans ((List.suffix_cons ..).trans (hcolon ▸ hrest))
        have hfield := (hvalue depth (skipGap body)).mono hbody
        split <;> rename_i h <;> rw [h] at hfield
        · exact hfield
        · rename_i value after
          have hafter : skipGap after <:+ .char '"' :: gs := (skipGap_suffix after).trans hfield
          split
          · rename_i more hmore
            exact (hfields _ _ _).mono ((skipGap_suffix more).trans ((List.suffix_cons ..).trans (hmore ▸ hafter)))
          · rename_i more hmore
            exact (List.suffix_cons ..).trans (hmore ▸ hafter)
          · trivial
      · trivial
  · trivial

end

/-- The three readers go within a text together, as each calls the others with less fuel. -/
theorem within_read (fuel : Nat) :
    (∀ depth gs, Within depth gs (readValue fuel depth gs)) ∧
    (∀ depth items gs, Within depth gs (readItems fuel depth items gs)) ∧
    ∀ depth fields gs, Within depth gs (readFields fuel depth fields gs) := by
  induction fuel with
  | zero =>
      refine ⟨fun depth gs => ?_, fun depth items gs => ?_, fun depth fields gs => ?_⟩
      · unfold readValue
        trivial
      · unfold readItems
        trivial
      · unfold readFields
        trivial
  | succ fuel ih =>
      obtain ⟨hvalue, hitems, hfields⟩ := ih
      exact ⟨within_readValue hitems hfields, within_readItems hvalue hitems, within_readFields hvalue hfields⟩

/-- A text is refused for its depth only where it opens more arrays and objects than may be open. -/
theorem depth_lt_openings {gs : List Glyph} {depth : Nat} {inObject : Bool}
    (h : ofText gs depth = .error (.nesting inObject)) : depth < openings gs := by
  have hread := ((within_read (2 * gs.length + 2)).1 depth (skipGap gs)).mono (skipGap_suffix gs)
  unfold ofText at h
  split at h <;> rename_i hvalue <;> rw [hvalue] at hread
  · cases h
    exact hread
  · split at h <;> cases h

/-! ## Openings alone -/

theorem readValue_open (fuel : Nat) (gs : List Glyph) :
    readValue (fuel + 1) 0 (.char '[' :: gs) = .error (.nesting false) := by
  simp [readValue]

theorem readValue_open_open (fuel depth : Nat) (gs : List Glyph) :
    readValue (fuel + 1) (depth + 1) (.char '[' :: .char '[' :: gs) = readItems fuel depth [] (.char '[' :: gs) := by
  simp [readValue, skipGap, isGap]

theorem readItems_error {fuel depth : Nat} {items : List Json} {gs : List Glyph} {e : JsonError}
    (h : readValue fuel depth gs = .error e) : readItems (fuel + 1) depth items gs = .error e := by
  simp [readItems, h]

theorem readValue_openings (depth fuel : Nat) (gs : List Glyph) (hfuel : 2 * depth < fuel) :
    readValue fuel depth (List.replicate (depth + 1) (.char '[') ++ gs) = .error (.nesting false) := by
  induction depth generalizing fuel with
  | zero =>
      obtain ⟨fuel, rfl⟩ := Nat.exists_eq_add_one.2 hfuel
      exact readValue_open fuel gs
  | succ depth ih =>
      obtain ⟨fuel, rfl⟩ : ∃ n, fuel = n + 2 := ⟨fuel - 2, by omega⟩
      exact (readValue_open_open (fuel + 1) depth _).trans (readItems_error (ih fuel (by omega)))

theorem ofText_openings {depth n : Nat} (hn : depth < n) (gs : List Glyph) :
    ofText (List.replicate n (.char '[') ++ gs) depth = .error (.nesting false) := by
  obtain ⟨more, rfl⟩ := Nat.exists_eq_add_of_lt hn
  have hsplit : List.replicate (depth + more + 1) (Glyph.char '[') ++ gs =
      List.replicate (depth + 1) (.char '[') ++ (List.replicate more (.char '[') ++ gs) := by
    rw [← List.append_assoc, List.replicate_append_replicate, Nat.add_right_comm]
  have hgap : skipGap (List.replicate (depth + more + 1) (.char '[') ++ gs) =
      List.replicate (depth + more + 1) (.char '[') ++ gs := rfl
  have hfuel : 2 * depth < 2 * (List.replicate (depth + more + 1) (Glyph.char '[') ++ gs).length + 2 := by
    simp only [List.length_append, List.length_replicate]
    omega
  rw [ofText, hgap]
  generalize 2 * (List.replicate (depth + more + 1) (Glyph.char '[') ++ gs).length + 2 = fuel at hfuel
  rw [hsplit, readValue_openings depth fuel _ hfuel]

end Json

namespace Text

theorem utf8From_replicate (read : List Glyph) (n : Nat) :
    utf8From read (List.replicate n 91) = some (read.reverse ++ List.replicate n (.char '[')) := by
  induction n generalizing read with
  | zero => simp [utf8From]
  | succ n ih =>
      have hstep : utf8From read (91 :: List.replicate n 91) = utf8From (.char '[' :: read) (List.replicate n 91) := by
        rw [utf8From.eq_def read]
        exact if_pos (by decide)
      rw [List.replicate_succ, hstep, ih]
      simp [List.replicate_succ]

theorem detect_replicate (n : Nat) : Encoding.detect (List.replicate n 91) = (.utf8, List.replicate n 91) := by
  match n with
  | 0 | 1 | 2 | 3 => rfl
  | n + 4 => rfl

end Text

theorem Json.ofBytes_replicate {depth n : Nat} (hn : depth < n) :
    ofBytes (List.replicate n 91) depth = .error (.nesting false) := by
  have hcodes : (List.replicate n (91 : UInt8)).map UInt8.toNat = List.replicate n 91 := List.map_replicate ..
  have hglyphs : Text.ofBytes? (List.replicate n 91) = some (List.replicate n (.char '[')) := by
    rw [Text.ofBytes?, hcodes, Text.detect_replicate]
    exact Text.utf8From_replicate [] n
  rw [ofBytes, hglyphs]
  exact List.append_nil (List.replicate n (Text.Glyph.char '[')) ▸ ofText_openings hn []

end LineShell
