import LineShell.Number.Numeral
import Mathlib.Algebra.Order.Field.Power
import Mathlib.Tactic.FieldSimp
import Mathlib.Tactic.GCongr
import Mathlib.Tactic.NormNum
import Mathlib.Tactic.Positivity

/-!
# Numbers beyond the range of binary64

Which ratios, decimals and numerals become infinite: exactly those at least half a step past the greatest finite
number.
-/

namespace LineShell

namespace Binary64

/-- The number is half a step or more past the greatest finite one, on either side of zero: a step there is
`2 ^ 971`, and the next number would be `2 ^ 1024`. -/
def Exceeds (x : ℚ) : Prop := 2 ^ 1024 - 2 ^ 970 ≤ |x|

def Infinite : Binary64 → Prop
  | .infinite _ => True
  | _ => False

variable {num den : Nat} {negative : Bool}

/-! ## Ratios -/

theorem scaleDown_pos (num : Nat) (e : Int) (hden : 0 < den) : 0 < (scaleDown num den e).2 := by
  unfold scaleDown
  split
  · exact Nat.mul_pos hden (Nat.two_pow_pos _)
  · exact hden

theorem cast_scaleDown (num den : Nat) (e : Int) :
    ((scaleDown num den e).1 : ℚ) / (scaleDown num den e).2 = num / den / 2 ^ e := by
  unfold scaleDown pow2
  split
  case isTrue he =>
    obtain ⟨k, rfl⟩ := Int.eq_ofNat_of_zero_le he
    simp only [Int.toNat_natCast, Nat.pow_eq, Nat.cast_mul, Nat.cast_pow, Nat.cast_ofNat, zpow_natCast]
    exact (div_div _ _ _).symm
  case isFalse he =>
    obtain ⟨k, hk⟩ := Int.eq_ofNat_of_zero_le (show 0 ≤ -e by omega)
    obtain rfl : e = -(k : Int) := by omega
    simp only [neg_neg, Int.toNat_natCast, Nat.pow_eq, Nat.cast_mul, Nat.cast_pow, Nat.cast_ofNat, zpow_neg,
      zpow_natCast, div_inv_eq_mul]
    exact mul_div_right_comm _ _ _

theorem cast_log2_bounds {n : Nat} (hn : n ≠ 0) :
    (2 : ℚ) ^ (n.log2 : Int) ≤ n ∧ (n : ℚ) < 2 ^ ((n.log2 : Int) + 1) := by
  have hlow : 2 ^ n.log2 ≤ n := Nat.log2_self_le hn
  have hhigh : n < 2 ^ (n.log2 + 1) := Nat.lt_log2_self
  exact ⟨by exact_mod_cast hlow, by exact_mod_cast hhigh⟩

theorem ratio_bounds (hnum : num ≠ 0) (hden : den ≠ 0) :
    (2 : ℚ) ^ ((num.log2 : Int) - den.log2 - 1) ≤ num / den ∧
      (num / den : ℚ) < 2 ^ ((num.log2 : Int) - den.log2 + 1) := by
  obtain ⟨hlow, hhigh⟩ := cast_log2_bounds hnum
  obtain ⟨hlow', hhigh'⟩ := cast_log2_bounds hden
  have hpos : (0 : ℚ) < den := by exact_mod_cast Nat.pos_of_ne_zero hden
  constructor
  · rw [le_div_iff₀ hpos]
    calc (2 : ℚ) ^ ((num.log2 : Int) - den.log2 - 1) * den
        ≤ 2 ^ ((num.log2 : Int) - den.log2 - 1) * 2 ^ ((den.log2 : Int) + 1) := by gcongr
      _ = 2 ^ (num.log2 : Int) := by rw [← zpow_add₀ two_ne_zero]; congr 1; omega
      _ ≤ num := hlow
  · rw [div_lt_iff₀ hpos]
    calc (num : ℚ) < 2 ^ ((num.log2 : Int) + 1) := hhigh
      _ = 2 ^ ((num.log2 : Int) - den.log2 + 1) * 2 ^ (den.log2 : Int) := by
        rw [← zpow_add₀ two_ne_zero]; congr 1; omega
      _ ≤ 2 ^ ((num.log2 : Int) - den.log2 + 1) * den := by gcongr

theorem log2Ratio_bounds (hnum : num ≠ 0) (hden : den ≠ 0) :
    (2 : ℚ) ^ log2Ratio num den ≤ num / den ∧ (num / den : ℚ) < 2 ^ (log2Ratio num den + 1) := by
  obtain ⟨hlow, hhigh⟩ := ratio_bounds hnum hden
  unfold log2Ratio
  dsimp only
  generalize (num.log2 : Int) - (den.log2 : Int) = k at hlow hhigh ⊢
  have hscaled := cast_scaleDown num den k
  have hpos : (0 : ℚ) < (scaleDown num den k).2 := by exact_mod_cast scaleDown_pos num k (Nat.pos_of_ne_zero hden)
  have hpow : (0 : ℚ) < 2 ^ k := by positivity
  generalize scaleDown num den k = scaled at hscaled hpos ⊢
  split
  case isTrue hlt =>
    have hone : (scaled.1 : ℚ) / scaled.2 < 1 := (div_lt_one hpos).mpr (by exact_mod_cast hlt)
    rw [hscaled, div_lt_one hpow] at hone
    exact ⟨hlow, by rwa [sub_add_cancel]⟩
  case isFalse hge =>
    have hone : 1 ≤ (scaled.1 : ℚ) / scaled.2 := (one_le_div hpos).mpr (by exact_mod_cast Nat.le_of_not_lt hge)
    rw [hscaled, one_le_div hpow] at hone
    exact ⟨hone, hhigh⟩

/-! ## Rounding -/

theorem roundRatio_le (n d : Nat) : roundRatio n d ≤ n / d + 1 := by
  unfold roundRatio
  dsimp only
  split
  · omega
  · split <;> omega

theorem roundRatio_eq_iff {n d p : Nat} (hodd : p % 2 = 1) (h : n < d * (p + 1)) :
    roundRatio n d = p + 1 ↔ (2 * p + 1) * d ≤ 2 * n := by
  have hd : 0 < d := Nat.pos_of_lt_mul_right h
  have hq : n / d < p + 1 := Nat.div_lt_of_lt_mul h
  have hn : d * (n / d) + n % d = n := Nat.div_add_mod n d
  have hr : n % d < d := Nat.mod_lt n hd
  have htwice : (2 * p + 1) * d = 2 * (d * p) + d := by rw [Nat.add_mul, Nat.one_mul, Nat.mul_assoc, Nat.mul_comm p]
  rw [htwice]
  by_cases hlast : n / d = p
  · rw [hlast] at hn
    unfold roundRatio
    simp only [hlast]
    split
    · omega
    · split <;> omega
  · -- the ratio is a whole step below, so it is rounded to the number before at most
    have hbelow : d * (n / d + 1) ≤ d * p := Nat.mul_le_mul_left d (by omega)
    have hnext := roundRatio_le n d
    rw [Nat.mul_add] at hbelow
    constructor
    · omega
    · omega

/-! ## Overflow -/

theorem exceeds_iff {x : ℚ} : Exceeds x ↔ (2 ^ 54 - 1) * 2 ^ 970 ≤ |x| := by
  have hlimit : (2 : ℚ) ^ 1024 - 2 ^ 970 = (2 ^ 54 - 1) * 2 ^ 970 := by
    rw [show (1024 : Nat) = 54 + 970 from rfl, pow_add, sub_mul, one_mul]
  unfold Exceeds
  rw [hlimit]

theorem exceeds_of_le {x : ℚ} (h : (2 : ℚ) ^ (1024 : Int) ≤ x) : Exceeds x :=
  calc (2 : ℚ) ^ 1024 - 2 ^ 970 ≤ 2 ^ 1024 := sub_le_self _ (by positivity)
    _ ≤ x := by exact_mod_cast h
    _ ≤ |x| := le_abs_self x

theorem not_exceeds_of_lt {x : ℚ} (hx : 0 ≤ x) (h : x < 2 ^ (1023 : Int)) : ¬ Exceeds x := by
  rw [exceeds_iff, abs_of_nonneg hx, not_le]
  calc x < 2 ^ (1023 : Int) := h
    _ = 2 ^ 53 * 2 ^ 970 := by rw [show (1023 : Int) = (53 : Nat) + (970 : Nat) from rfl, zpow_add₀ two_ne_zero,
        zpow_natCast, zpow_natCast]
    _ ≤ (2 ^ 54 - 1) * 2 ^ 970 := by gcongr; norm_num

/-- In the last binade, where a step is `2 ^ 971`, a mantissa is rounded up past the greatest one from half a step
on: the greatest one is odd. -/
theorem roundRatio_last_iff {x : ℚ} {n d : Nat} (hx : 0 ≤ x) (hd : 0 < d) (hscaled : (n : ℚ) / d = x / 2 ^ (971 : Int))
    (hhigh : x < 2 ^ (1024 : Int)) : roundRatio n d = 2 ^ 53 ↔ Exceeds x := by
  have hpos : (0 : ℚ) < d := by exact_mod_cast hd
  have hstep : (0 : ℚ) < 2 ^ (971 : Int) := by positivity
  have hbelow : n < d * 2 ^ 53 := by
    have hquot : (n : ℚ) / d < 2 ^ 53 := by
      rw [hscaled, div_lt_iff₀ hstep]
      calc x < 2 ^ (1024 : Int) := hhigh
        _ = 2 ^ 53 * 2 ^ (971 : Int) := by
          rw [show (1024 : Int) = (53 : Nat) + 971 from rfl, zpow_add₀ two_ne_zero, zpow_natCast]
    rw [div_lt_iff₀ hpos, mul_comm] at hquot
    exact_mod_cast hquot
  have htie : (2 ^ 54 - 1) * d ≤ 2 * n ↔ Exceeds x := by
    have hdouble : 2 * (n : ℚ) / d = x / 2 ^ 970 := by
      rw [mul_div_assoc, hscaled, show (971 : Int) = (970 : Nat) + 1 from rfl, zpow_add_one₀ two_ne_zero, zpow_natCast]
      field_simp
    rw [exceeds_iff, abs_of_nonneg hx]
    calc (2 ^ 54 - 1) * d ≤ 2 * n
        ↔ (2 ^ 54 - 1 : ℚ) * d ≤ 2 * n := by
          rw [show (2 ^ 54 - 1 : ℚ) = (2 ^ 54 - 1 : Nat) by norm_num]
          exact_mod_cast Iff.rfl
      _ ↔ (2 ^ 54 - 1 : ℚ) ≤ x / 2 ^ 970 := by rw [← le_div_iff₀ hpos, hdouble]
      _ ↔ (2 ^ 54 - 1 : ℚ) * 2 ^ 970 ≤ x := le_div_iff₀ (by positivity)
  rw [← htie]
  exact roundRatio_eq_iff (p := 2 ^ 53 - 1) (by decide) hbelow

def stepOf (num den : Nat) : Int := max (-1074) (log2Ratio num den - 52)

theorem ofRatio_infinite_iff_stepOf (hnum : num ≠ 0) :
    (ofRatio negative num den).Infinite ↔ 971 < stepOf num den ∨ stepOf num den = 971 ∧
      roundRatio (scaleDown num den (stepOf num den)).1 (scaleDown num den (stepOf num den)).2 = 2 ^ 53 := by
  unfold ofRatio
  have hstep : max leastExponent (log2Ratio num den - (precision - 1 : Nat)) = stepOf num den := rfl
  simp only [beq_iff_eq, hnum, ↓reduceIte, hstep]
  generalize roundRatio (scaleDown num den (stepOf num den)).1 (scaleDown num den (stepOf num den)).2 = m
  have hfull : pow2 precision = 2 ^ 53 := rfl
  rw [hfull]
  unfold greatestExponent
  by_cases hm : m = 2 ^ 53
  · simp only [hm, ↓reduceIte, and_true]
    split
    case isTrue h => exact ⟨fun _ => by omega, fun _ => trivial⟩
    case isFalse h => exact ⟨False.elim, fun hover => by omega⟩
  · simp only [hm, ↓reduceIte, and_false, or_false]
    split
    case isTrue h => exact ⟨fun _ => h, fun _ => trivial⟩
    case isFalse h => exact ⟨False.elim, fun hover => h hover⟩

/-- A ratio becomes infinite exactly when it is half a step or more past the greatest finite number: there the
greatest mantissa is odd, so that the tie goes up. -/
theorem ofRatio_infinite_iff (hden : den ≠ 0) : (ofRatio negative num den).Infinite ↔ Exceeds (num / den) := by
  by_cases hnum : num = 0
  · subst hnum
    refine ⟨False.elim, fun h => ?_⟩
    exact not_exceeds_of_lt le_rfl (by positivity) (by simpa using h)
  have hnonneg : (0 : ℚ) ≤ num / den := by positivity
  obtain ⟨hlow, hhigh⟩ := log2Ratio_bounds hnum hden
  rw [ofRatio_infinite_iff_stepOf hnum]
  have hstep : stepOf num den = max (-1074) (log2Ratio num den - 52) := rfl
  -- only in the last binade does rounding decide; below it nothing overflows, above it everything does
  obtain hless | heq | hmore := lt_trichotomy (log2Ratio num den) 1023
  · have hbelow : (num / den : ℚ) < 2 ^ (1023 : Int) :=
      hhigh.trans_le (zpow_le_zpow_right₀ one_le_two (by omega))
    have := not_exceeds_of_lt hnonneg hbelow
    constructor
    · omega
    · exact fun h => absurd h this
  · have hlast : stepOf num den = 971 := by omega
    have hpos : 0 < (scaleDown num den 971).2 := scaleDown_pos num 971 (Nat.pos_of_ne_zero hden)
    rw [heq] at hhigh
    rw [hlast, ← roundRatio_last_iff hnonneg hpos (cast_scaleDown num den 971) hhigh]
    simp only [lt_self_iff_false, true_and, false_or]
  · have habove : (2 : ℚ) ^ (1024 : Int) ≤ num / den :=
      (zpow_le_zpow_right₀ one_le_two (by omega)).trans hlow
    exact ⟨fun _ => exceeds_of_le habove, fun _ => .inl (by omega)⟩

theorem ofRatio_cases (negative : Bool) (num den : Nat) :
    (∃ m e, ofRatio negative num den = .finite negative m e) ∨ ofRatio negative num den = .infinite negative := by
  have hlast (m : Nat) (e : Int) :
      let x := if greatestExponent < e then .infinite negative else .finite negative m e
      (∃ m' e', x = finite negative m' e') ∨ x = .infinite negative := by
    dsimp only
    split
    · exact .inr rfl
    · exact .inl ⟨m, e, rfl⟩
  unfold ofRatio
  split
  · exact .inl ⟨0, 0, rfl⟩
  · dsimp only
    split
    · exact hlast _ _
    · exact hlast _ _

/-! ## Decimals -/

theorem ten_pow_le (bits : Nat) : 10 ^ (bits * 3 / 10) ≤ 2 ^ bits := by
  have htenth : (10 ^ (bits * 3 / 10)) ^ 10 ≤ (2 ^ bits) ^ 10 :=
    calc (10 ^ (bits * 3 / 10)) ^ 10 = 10 ^ (bits * 3 / 10 * 10) := (pow_mul _ _ _).symm
      _ ≤ 10 ^ (3 * bits) := Nat.pow_le_pow_right (by decide) (by omega)
      _ = (10 ^ 3) ^ bits := pow_mul _ _ _
      _ ≤ (2 ^ 10) ^ bits := Nat.pow_le_pow_left (by decide) bits
      _ = (2 ^ bits) ^ 10 := pow_right_comm _ _ _
  exact (Nat.pow_le_pow_iff_left (by decide)).mp htenth

theorem le_ten_pow (bits : Nat) : 2 ^ (bits + 1) ≤ 10 ^ (bits / 3 + 1) :=
  calc 2 ^ (bits + 1) ≤ 2 ^ (3 * (bits / 3 + 1)) := Nat.pow_le_pow_right (by decide) (by omega)
    _ = (2 ^ 3) ^ (bits / 3 + 1) := pow_mul _ _ _
    _ ≤ 10 ^ (bits / 3 + 1) := Nat.pow_le_pow_left (by decide) _

variable {digits : Nat} {e : Int}

theorem exceeds_decimal (hdigits : digits ≠ 0) (h : 311 < (digits.log2 * 3 / 10 : Nat) + e) :
    Exceeds (digits * 10 ^ e) := by
  have hlow : 10 ^ (digits.log2 * 3 / 10) ≤ digits := (ten_pow_le _).trans (Nat.log2_self_le hdigits)
  refine exceeds_of_le ?_
  calc (2 : ℚ) ^ (1024 : Int) ≤ 10 ^ (312 : Int) := by
        have : 2 ^ 1024 ≤ 10 ^ 312 := by decide +kernel
        exact_mod_cast this
    _ ≤ 10 ^ (((digits.log2 * 3 / 10 : Nat) : Int) + e) := zpow_le_zpow_right₀ (by norm_num) (by omega)
    _ = 10 ^ (digits.log2 * 3 / 10) * 10 ^ e := by rw [zpow_add₀ (by norm_num), zpow_natCast]
    _ ≤ digits * 10 ^ e := by gcongr; exact_mod_cast hlow

theorem not_exceeds_decimal (h : (digits.log2 / 3 : Nat) + e < -330) : ¬ Exceeds (digits * 10 ^ e) := by
  have hhigh : digits ≤ 10 ^ (digits.log2 / 3 + 1) := Nat.lt_log2_self.le.trans (le_ten_pow _)
  refine not_exceeds_of_lt (by positivity) ?_
  calc (digits * 10 ^ e : ℚ) ≤ 10 ^ (digits.log2 / 3 + 1) * 10 ^ e := by gcongr; exact_mod_cast hhigh
    _ = 10 ^ (((digits.log2 / 3 + 1 : Nat) : Int) + e) := by rw [zpow_add₀ (by norm_num), zpow_natCast]
    _ ≤ 10 ^ (0 : Int) := zpow_le_zpow_right₀ (by norm_num) (by omega)
    _ = 2 ^ (0 : Int) := by rw [zpow_zero, zpow_zero]
    _ < 2 ^ (1023 : Int) := zpow_lt_zpow_right₀ one_lt_two (by decide)

/-- A decimal becomes infinite exactly when it is half a step or more past the greatest finite number. -/
theorem ofDecimal_infinite_iff : (ofDecimal negative digits e).Infinite ↔ Exceeds (digits * 10 ^ e) := by
  unfold ofDecimal
  dsimp only
  split
  case isTrue hzero =>
    have hexact : (digits * 10 ^ e : ℚ) = 0 := by simp [beq_iff_eq.mp hzero]
    rw [hexact]
    exact ⟨False.elim, not_exceeds_of_lt le_rfl (by positivity)⟩
  case isFalse hdigits =>
    have hdigits : digits ≠ 0 := by simpa using hdigits
    split
    case isTrue hover => exact ⟨fun _ => exceeds_decimal hdigits hover, fun _ => trivial⟩
    case isFalse =>
      split
      case isTrue hunder => exact ⟨False.elim, not_exceeds_decimal hunder⟩
      case isFalse =>
        split
        case isTrue he =>
          obtain ⟨k, rfl⟩ := Int.eq_ofNat_of_zero_le he
          have hexact : ((digits * pow10 k : Nat) / (1 : Nat) : ℚ) = digits * 10 ^ (k : Int) := by simp [pow10]
          rw [← hexact]
          exact ofRatio_infinite_iff one_ne_zero
        case isFalse he =>
          obtain ⟨k, hk⟩ := Int.eq_ofNat_of_zero_le (show 0 ≤ -e by omega)
          obtain rfl : e = -(k : Int) := by omega
          have hexact : (digits / (pow10 k : Nat) : ℚ) = digits * 10 ^ (-(k : Int)) := by simp [pow10, div_eq_mul_inv]
          rw [← hexact, neg_neg]
          exact ofRatio_infinite_iff (Nat.pow_pos (by decide)).ne'

end Binary64

/-! ## Numerals -/

namespace Numeral

open Text

theorem of_toLower {c d : Char} (h : c.toLower = d) : c = d ∨ c = Char.ofNat (d.toNat - 32) := by
  unfold Char.toLower at h
  split at h
  case isTrue hupper =>
    subst h
    right
    have hlast : c.toNat ≤ 90 := UInt32.le_iff_toNat_le.mp hupper.2
    have hsum : (c.val + ('a'.val - 'A'.val)).toNat = c.toNat + 32 := by
      rw [UInt32.toNat_add]
      exact Nat.mod_eq_of_lt (show c.toNat + 32 < 4294967296 by omega)
    have hback : (c.val + ('a'.val - 'A'.val)).toNat - 32 = c.toNat := by omega
    exact (Char.ofNat_toNat c).symm.trans (congrArg Char.ofNat hback.symm)
  case isFalse => exact .inl h

theorem decimal?_of_nan {cs : List Char} (h : String.ofList (cs.map Char.toLower) = "nan") : decimal? cs = none := by
  have hchars : cs.map Char.toLower = ['n', 'a', 'n'] := by simpa using congrArg String.toList h
  obtain ⟨c₁, cs, rfl, h₁, hchars⟩ := List.map_eq_cons_iff.mp hchars
  obtain ⟨c₂, cs, rfl, h₂, hchars⟩ := List.map_eq_cons_iff.mp hchars
  obtain ⟨c₃, cs, rfl, h₃, hchars⟩ := List.map_eq_cons_iff.mp hchars
  obtain rfl := List.map_eq_nil_iff.mp hchars
  -- no letter of the word is a digit or a point, small or capital
  rcases of_toLower h₁ with rfl | rfl <;> rcases of_toLower h₂ with rfl | rfl <;>
    rcases of_toLower h₃ with rfl | rfl <;> rfl

/-- The numeral spells a number past the range: it is a word for infinity, or a decimal half a step or more past the
greatest finite number. -/
def Overflows (text : String) : Prop :=
  let cs := (takeSign (trimChars isSpace text.toList)).2
  String.ofList (cs.map Char.toLower) = "inf" ∨ String.ofList (cs.map Char.toLower) = "infinity" ∨
    ∃ digits e, decimal? cs = some (digits, e) ∧ Binary64.Exceeds (digits * 10 ^ e)

theorem real?_infinite_iff {text : String} : (∃ x, real? text = some x ∧ x.Infinite) ↔ Overflows text := by
  unfold real? Overflows
  generalize takeSign (trimChars isSpace text.toList) = taken
  obtain ⟨negative, cs⟩ := taken
  dsimp only
  generalize hword : String.ofList (cs.map Char.toLower) = word
  by_cases hinf : word = "inf" ∨ word = "infinity"
  · have hbeq : (word == "inf" || word == "infinity") = true := by simpa using hinf
    rw [if_pos hbeq]
    exact ⟨fun _ => hinf.elim .inl (.inr ∘ .inl), fun _ => ⟨_, rfl, trivial⟩⟩
  · have hbeq : ¬ (word == "inf" || word == "infinity") = true := by simpa using hinf
    rw [if_neg hbeq, ← or_assoc, or_iff_right hinf]
    by_cases hnan : word = "nan"
    · rw [if_pos (beq_iff_eq.mpr hnan), decimal?_of_nan (hword.trans hnan)]
      constructor
      · rintro ⟨x, hx, hinfinite⟩
        rw [← Option.some.inj hx] at hinfinite
        exact hinfinite.elim
      · rintro ⟨_, _, hnone, _⟩
        cases hnone
    · rw [if_neg (by simpa using hnan)]
      constructor
      · rintro ⟨x, hx, hinfinite⟩
        obtain ⟨⟨digits, e⟩, hdecimal, rfl⟩ := Option.map_eq_some_iff.mp hx
        exact ⟨digits, e, hdecimal, Binary64.ofDecimal_infinite_iff.mp hinfinite⟩
      · rintro ⟨digits, e, hdecimal, hexceeds⟩
        exact ⟨.ofDecimal negative digits e, by rw [hdecimal, Option.map_some],
          Binary64.ofDecimal_infinite_iff.mpr hexceeds⟩

end Numeral

end LineShell
