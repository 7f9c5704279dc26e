import LineShell.Proofs.Filter.Selections

/-!
# Reading a line count

How many lines an argument asks for: the number that its first digits spell, in any script and with any zeros in front,
behind blanks and a sign. What follows the digits does not matter, an argument without digits there asks for no line,
and only too many digits are refused.
-/

namespace LineShell

/-! ## Digits -/

namespace Text

def IsDigit (c : Char) (value : Nat) : Prop := ∃ start ∈ digitZeros, c.toNat = start + value ∧ value < 10

theorem digitZeros_apart : ∀ start ∈ digitZeros, ∀ start' ∈ digitZeros,
    start = start' ∨ start + 10 ≤ start' ∨ start' + 10 ≤ start := by decide +kernel

theorem digitValue?_eq_some_iff (c : Char) (value : Nat) : digitValue? c = some value ↔ IsDigit c value := by
  rw [digitValue?, Option.map_eq_some_iff]
  constructor
  · rintro ⟨start, hfound, rfl⟩
    have hblock : start ≤ c.toNat ∧ c.toNat < start + 10 := by simpa using List.find?_some hfound
    exact ⟨start, List.mem_of_find?_eq_some hfound, by omega, by omega⟩
  · rintro ⟨start, hstart, hvalue, hlt⟩
    obtain ⟨start', hfound⟩ : ∃ start', digitZeros.find? (fun z => z ≤ c.toNat && c.toNat < z + 10) = some start' :=
      Option.isSome_iff_exists.mp (List.find?_isSome.mpr ⟨start, hstart, by
        simp only [Bool.and_eq_true, decide_eq_true_iff]
        omega⟩)
    have hblock : start' ≤ c.toNat ∧ c.toNat < start' + 10 := by simpa using List.find?_some hfound
    refine ⟨start', hfound, ?_⟩
    -- the character stands in both blocks, and blocks do not overlap
    rcases digitZeros_apart start hstart start' (List.mem_of_find?_eq_some hfound) with rfl | h | h
    · omega
    · omega
    · omega

theorem isDecimal_iff (c : Char) : isDecimal c = true ↔ ∃ value, IsDigit c value := by
  simp only [isDecimal, Option.isSome_iff_exists, digitValue?_eq_some_iff]

theorem isBlank_of_isDecimal {c : Char} (h : isDecimal c = true) : isBlank c = false := by
  have hdigits : ∀ start ∈ digitZeros, ∀ value < 10, isBlank (Char.ofNat (start + value)) = false := by decide +kernel
  obtain ⟨value, start, hstart, hvalue, hlt⟩ := (isDecimal_iff c).mp h
  rw [← Char.ofNat_toNat c, hvalue]
  exact hdigits start hstart value hlt

/-- Digits of any scripts spell the number, the most significant first. -/
inductive Spells : List Char → Nat → Prop
  | digit {c : Char} {value : Nat} (h : IsDigit c value) : Spells [c] value
  | snoc {cs : List Char} {n : Nat} {c : Char} {value : Nat} (hcs : Spells cs n) (h : IsDigit c value) :
      Spells (cs ++ [c]) (10 * n + value)

theorem spelled_concat (digits : List Nat) (value : Nat) :
    spelled (digits ++ [value]) = 10 * spelled digits + value := by
  rw [spelled, List.foldl_append]
  rfl

namespace Spells

variable {cs : List Char} {n : Nat}

theorem ne_nil (h : Spells cs n) : cs ≠ [] := by
  cases h with
  | digit => simp
  | snoc => simp

theorem isDecimal (h : Spells cs n) : ∀ c ∈ cs, isDecimal c = true := by
  induction h with
  | digit h => simpa using (isDecimal_iff _).mpr ⟨_, h⟩
  | snoc _ h ih =>
      intro c hc
      rcases List.mem_append.mp hc with hc | hc
      · exact ih c hc
      · exact List.mem_singleton.mp hc ▸ (isDecimal_iff _).mpr ⟨_, h⟩

theorem spelled_eq (h : Spells cs n) : spelled (cs.filterMap digitValue?) = n := by
  induction h with
  | digit h =>
      rw [List.filterMap_cons, (digitValue?_eq_some_iff _ _).mpr h]
      simp [spelled]
  | snoc _ h ih =>
      rw [List.filterMap_append, List.filterMap_cons, (digitValue?_eq_some_iff _ _).mpr h]
      exact (spelled_concat _ _).trans (by rw [ih])

end Spells

end Text

namespace Filter

open Text

/-! ## The parts of an argument -/

def signs : List (List Char) := [[], ['+'], ['-']]

/-- The text starts with digits, behind blanks and a sign: the digits are all that stand there. -/
structure Opens (text : String) (blanks sign digits suffix : List Char) : Prop where
  whole : text.toList = blanks ++ (sign ++ (digits ++ suffix))
  blank : ∀ c ∈ blanks, isBlank c = true
  sign : sign ∈ signs
  ne_nil : digits ≠ []
  digit : ∀ c ∈ digits, isDecimal c = true
  all : ∀ c ∈ suffix.head?, isDecimal c = false

variable {text : String} {blanks sign digits suffix : List Char}

theorem takeSign_of_mem (h : sign ∈ signs) {cs : List Char} (hcs : ∀ c ∈ cs.head?, isDecimal c = true) :
    Numeral.takeSign (sign ++ cs) = (sign == ['-'], cs) := by
  simp only [signs, List.mem_cons, List.not_mem_nil, or_false] at h
  rcases h with rfl | rfl | rfl
  · rw [List.nil_append]
    unfold Numeral.takeSign
    split
    · exact absurd (hcs '-' rfl) (by decide)
    · exact absurd (hcs '+' rfl) (by decide)
    · rfl
  · rfl
  · rfl

theorem length_filterMap_digitValue? (h : ∀ c ∈ digits, isDecimal c = true) :
    (digits.filterMap digitValue?).length = digits.length := List.filterMap_length_eq_length.mpr h

theorem takeWhile_of_head? {p : Char → Bool} (hdigits : ∀ c ∈ digits, p c = true)
    (hsuffix : ∀ c ∈ suffix.head?, p c = false) : (digits ++ suffix).takeWhile p = digits := by
  have hnone : suffix.takeWhile p = [] := by
    cases suffix with
    | nil => rfl
    | cons c cs => exact List.takeWhile_cons_of_neg (by simp [hsuffix c rfl])
  rw [List.takeWhile_append_of_pos hdigits, hnone, List.append_nil]

theorem Opens.dropWhile_isBlank (h : Opens text blanks sign digits suffix) :
    text.toList.dropWhile isBlank = sign ++ (digits ++ suffix) := by
  rw [h.whole, List.dropWhile_append_of_pos h.blank]
  obtain ⟨c, digits, rfl⟩ := List.exists_cons_of_ne_nil h.ne_nil
  have hc : isBlank c = false := isBlank_of_isDecimal (h.digit c List.mem_cons_self)
  have hsign := h.sign
  simp only [signs, List.mem_cons, List.not_mem_nil, or_false] at hsign
  rcases hsign with rfl | rfl | rfl
  · exact List.dropWhile_cons_of_neg (by simp [hc])
  · exact List.dropWhile_cons_of_neg (by decide)
  · exact List.dropWhile_cons_of_neg (by decide)

theorem Opens.leadingNumber (h : Opens text blanks sign digits suffix) :
    leadingNumber text = (Numeral.ofDigits (digits.filterMap digitValue?)).map (Binary64.signed (sign == ['-'])) := by
  have hhead : ∀ c ∈ (digits ++ suffix).head?, isDecimal c = true := by
    obtain ⟨c, digits, rfl⟩ := List.exists_cons_of_ne_nil h.ne_nil
    simpa using h.digit c List.mem_cons_self
  rw [Filter.leadingNumber, h.dropWhile_isBlank, takeSign_of_mem h.sign hhead]
  dsimp only
  rw [takeWhile_of_head? h.digit h.all]

theorem Opens.leadingNumber_of_le (h : Opens text blanks sign digits suffix) (hle : digits.length ≤ 4300) :
    Filter.leadingNumber text = .ok (Binary64.signed (sign == ['-']) (spelled (digits.filterMap digitValue?))) := by
  have hfew : ¬ Numeral.digitLimit < (digits.filterMap digitValue?).length := by
    rw [length_filterMap_digitValue? h.digit]
    exact hle.not_gt
  rw [h.leadingNumber, Numeral.ofDigits, if_neg hfew]
  rfl

theorem Opens.leadingNumber_of_lt (h : Opens text blanks sign digits suffix) (hlt : 4300 < digits.length) :
    Filter.leadingNumber text = .error (.tooLong digits.length) := by
  have hmany : Numeral.digitLimit < (digits.filterMap digitValue?).length := by
    rw [length_filterMap_digitValue? h.digit]
    exact hlt
  rw [h.leadingNumber, Numeral.ofDigits, if_pos hmany, length_filterMap_digitValue? h.digit]
  rfl

theorem exists_sign_of_takeSign {cs rest : List Char} {negative : Bool} (h : Numeral.takeSign cs = (negative, rest)) :
    ∃ sign ∈ signs, cs = sign ++ rest := by
  unfold Numeral.takeSign at h
  split at h
  · exact ⟨['-'], by decide, by rw [(Prod.mk.inj h).2]; rfl⟩
  · exact ⟨['+'], by decide, by rw [(Prod.mk.inj h).2]; rfl⟩
  · exact ⟨[], by decide, by rw [(Prod.mk.inj h).2]; rfl⟩

/-- A text that does not start with digits counts as zero. -/
theorem opens_or (text : String) : (∃ blanks sign digits suffix, Opens text blanks sign digits suffix) ∨
    leadingNumber text = .ok 0 := by
  obtain ⟨negative, rest, htake⟩ : ∃ negative rest,
    Numeral.takeSign (text.toList.dropWhile isBlank) = (negative, rest) := ⟨_, _, rfl⟩
  obtain ⟨sign, hsign, hrest⟩ := exists_sign_of_takeSign htake
  by_cases hnone : rest.takeWhile isDecimal = []
  · right
    rw [leadingNumber, htake]
    dsimp only
    rw [hnone]
    cases negative <;> rfl
  · left
    refine ⟨text.toList.takeWhile isBlank, sign, rest.takeWhile isDecimal, rest.dropWhile isDecimal, ?_⟩
    constructor
    case whole => rw [List.takeWhile_append_dropWhile, ← hrest, List.takeWhile_append_dropWhile]
    case blank => exact List.all_eq_true.mp List.all_takeWhile
    case sign => exact hsign
    case ne_nil => exact hnone
    case digit => exact List.all_eq_true.mp List.all_takeWhile
    case all =>
      intro c hc
      have hend := List.head?_dropWhile_not isDecimal rest
      rw [Option.mem_def.mp hc] at hend
      exact hend

/-! ## Line counts -/

theorem count_of_ne {text : String} (hne : text ≠ "") (rest : List String) :
    count (text :: rest) = (leadingNumber text).mapError .numeral := by
  unfold count
  split
  · rename_i h
    cases h
  · rename_i h
    exact absurd (List.cons.inj h).1 hne
  · rename_i h
    rw [(List.cons.inj h).1]

theorem Opens.ne_empty (h : Opens text blanks sign digits suffix) : text ≠ "" := by
  rintro rfl
  have hwhole := h.whole
  simp [h.ne_nil] at hwhole

def Fits (sign : List Char) (n : Int) : Prop := sign = ['-'] ∧ n ≤ 0 ∨ (sign = [] ∨ sign = ['+']) ∧ 0 ≤ n

theorem Fits.mem_signs {sign : List Char} {n : Int} (h : Fits sign n) : sign ∈ signs := by
  rcases h with ⟨rfl, -⟩ | ⟨rfl | rfl, -⟩ <;> decide

theorem Fits.signed {sign : List Char} {n : Int} (h : Fits sign n) :
    Binary64.signed (sign == ['-']) n.natAbs = n := by
  rcases h with ⟨rfl, hn⟩ | ⟨rfl | rfl, hn⟩
  · show -(n.natAbs : Int) = n
    omega
  · exact Int.natAbs_of_nonneg hn
  · exact Int.natAbs_of_nonneg hn

/-- An argument asks for the number that its first digits spell, behind blanks and a sign, in digits of any scripts and
with any zeros in front, whatever follows them. One that has no digits there asks for no line. What is refused, and
for nothing else, is an argument whose first digits are too many. -/
theorem count_reads (rest : List String) :
    (∀ (n : Int) (blanks sign digits suffix : List Char), (∀ c ∈ blanks, isBlank c = true) → Fits sign n →
      Spells digits n.natAbs → digits.length ≤ 4300 → (∀ c ∈ suffix.head?, isDecimal c = false) →
      count (String.ofList (blanks ++ sign ++ digits ++ suffix) :: rest) = .ok n) ∧
    (∀ text, text ≠ "" →
      (∀ sign ∈ signs, ∀ c cs, text.toList.dropWhile isBlank = sign ++ c :: cs → isDecimal c = false) →
      count (text :: rest) = .ok 0) ∧
    (∀ text failure, count (text :: rest) = .error failure ↔ ∃ blanks sign digits suffix,
      Opens text blanks sign digits suffix ∧ 4300 < digits.length ∧ failure = .numeral (.tooLong digits.length)) ∧
    ∀ text input, head (text :: rest) input = (count (text :: rest)).map (fun n => choose (firstOf n) input) ∧
      tail (text :: rest) input = (count (text :: rest)).map fun n => choose (lastOf n) input := by
  refine ⟨fun n blanks sign digits suffix hblanks hsign hdigits hfew hsuffix => ?spelled, fun text hne hnone => ?none,
    fun text failure => ⟨fun h => ?refused, ?many⟩, fun text input => ?filters⟩
  case spelled =>
    have hopens : Opens (String.ofList (blanks ++ sign ++ digits ++ suffix)) blanks sign digits suffix :=
      { whole := by rw [String.toList_ofList, List.append_assoc, List.append_assoc]
        blank := hblanks
        sign := hsign.mem_signs
        ne_nil := hdigits.ne_nil
        digit := hdigits.isDecimal
        all := hsuffix }
    rw [count_of_ne hopens.ne_empty, hopens.leadingNumber_of_le hfew, hdigits.spelled_eq, hsign.signed]
    rfl
  case none =>
    -- a text opens with digits, which is ruled out here, or counts as zero
    rcases opens_or text with ⟨blanks, sign, digits, suffix, hopens⟩ | hzero
    · obtain ⟨c, digits, rfl⟩ := List.exists_cons_of_ne_nil hopens.ne_nil
      have hc := hnone sign hopens.sign c (digits ++ suffix) hopens.dropWhile_isBlank
      rw [hopens.digit c List.mem_cons_self] at hc
      cases hc
    · rw [count_of_ne hne, hzero]
      rfl
  case refused =>
    have hne : text ≠ "" := by
      rintro rfl
      cases h
    rw [count_of_ne hne] at h
    rcases opens_or text with ⟨blanks, sign, digits, suffix, hopens⟩ | hzero
    · refine ⟨blanks, sign, digits, suffix, hopens, ?_⟩
      by_cases hlength : digits.length ≤ 4300
      · rw [hopens.leadingNumber_of_le hlength] at h
        cases h
      · rw [hopens.leadingNumber_of_lt (Nat.lt_of_not_le hlength)] at h
        exact ⟨Nat.lt_of_not_le hlength, (Except.error.inj h).symm⟩
    · rw [hzero] at h
      cases h
  case many =>
    rintro ⟨blanks, sign, digits, suffix, hopens, hlt, rfl⟩
    rw [count_of_ne hopens.ne_empty, hopens.leadingNumber_of_lt hlt]
    rfl
  case filters =>
    cases h : count (text :: rest) with
    | ok n => exact ⟨head_of_count h input, tail_of_count h input⟩
    | error failure => exact ⟨by rw [head, h]; rfl, by rw [tail, h]; rfl⟩

theorem count_reads_scripts :
    let blanks := ['\x1c', ' ']
    let digits := ['０', '١', '२', '0']
    let zeros := String.ofList (List.replicate 4301 '0')
    (∀ c ∈ blanks, isBlank c = true) ∧ Fits ['-'] (-120) ∧ Spells digits 120 ∧ isDecimal '_' = false ∧
      count [String.ofList (blanks ++ ['-'] ++ digits ++ ['_', '7'])] = .ok (-120) ∧
      (∀ sign ∈ signs, ∀ c cs, "x1".toList.dropWhile isBlank = sign ++ c :: cs → isDecimal c = false) ∧
      count ["x1"] = .ok 0 ∧
      Opens zeros [] [] (List.replicate 4301 '0') [] ∧ count [zeros] = .error (.numeral (.tooLong 4301)) := by
  intro blanks digits zeros
  have hblanks : ∀ c ∈ blanks, isBlank c = true :=
    List.forall_mem_cons.mpr ⟨by decide, List.forall_mem_cons.mpr ⟨by decide, List.forall_mem_nil _⟩⟩
  have hsign : Fits ['-'] (-120) := .inl ⟨rfl, by decide⟩
  have hdigit : ∀ c value, digitValue? c = some value → IsDigit c value := fun c value =>
    (digitValue?_eq_some_iff c value).mp
  have hdigits : Spells digits 120 :=
    (((Spells.digit (hdigit '０' 0 (by decide))).snoc (hdigit '١' 1 (by decide))).snoc
      (hdigit '२' 2 (by decide))).snoc (hdigit '0' 0 (by decide))
  have hsuffix : ∀ c ∈ ['_', '7'].head?, isDecimal c = false := fun c hc => Option.some.inj hc ▸ (by decide)
  have hnone : ∀ sign ∈ signs, ∀ c cs, "x1".toList.dropWhile isBlank = sign ++ c :: cs → isDecimal c = false := by
    intro sign hsign c cs h
    have hx : "x1".toList.dropWhile isBlank = 'x' :: ['1'] := by decide
    rw [hx] at h
    simp only [signs, List.mem_cons, List.not_mem_nil, or_false] at hsign
    rcases hsign with rfl | rfl | rfl
    · exact (List.cons.inj h).1 ▸ (by decide : isDecimal 'x' = false)
    · exact absurd (List.cons.inj h).1 (by decide)
    · exact absurd (List.cons.inj h).1 (by decide)
  have hlength : (List.replicate 4301 '0').length = 4301 := List.length_replicate
  have hzeros : Opens zeros [] [] (List.replicate 4301 '0') [] :=
    { whole := by rw [String.toList_ofList, List.nil_append, List.nil_append, List.append_nil]
      blank := by simp
      sign := by decide
      ne_nil := List.ne_nil_of_length_pos (by rw [hlength]; decide)
      digit := fun c hc => (List.eq_of_mem_replicate hc) ▸ (by decide : isDecimal '0' = true)
      all := by simp }
  obtain ⟨hspelled, hzero, hrefused, -⟩ := count_reads []
  exact ⟨hblanks, hsign, hdigits, by decide,
    hspelled (-120) blanks ['-'] digits ['_', '7'] hblanks hsign hdigits (by decide) hsuffix,
    hnone, hzero "x1" (by decide) hnone, hzeros,
    (hrefused zeros _).mpr ⟨[], [], _, [], hzeros, by rw [hlength]; decide, by rw [hlength]⟩⟩

end Filter

end LineShell
