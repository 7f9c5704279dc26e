/-!
# Binary floating point numbers of 64 bits

Numbers as a sign, a whole mantissa and a power of two, with exact arithmetic: the number nearest to
a ratio, a tie going to the even mantissa, and roundings back to whole numbers.
-/

namespace LineShell

/-- A number of the format binary64. A finite one is `mantissa * 2 ^ exponent`, with the sign. -/
inductive Binary64
  | finite (negative : Bool) (mantissa : Nat) (exponent : Int)
  | infinite (negative : Bool)
  | nan
deriving Repr, DecidableEq, Inhabited

def pow2 (k : Nat) : Nat := Nat.pow 2 k

def pow10 (k : Nat) : Nat := Nat.pow 10 k

namespace Binary64

/-! ## Format -/

def precision : Nat := 53

def leastExponent : Int := -1074

def greatestExponent : Int := 971

def zero (negative : Bool) : Binary64 := .finite negative 0 0

/-! ## Ratios -/

/-- `num / den` rounded to a whole number, a half going to the even neighbour. -/
def roundRatio (num den : Nat) : Nat :=
  let q := num / den
  let r := num % den
  if 2 * r < den then q
  else if den < 2 * r then q + 1
  else q + q % 2

def scaleDown (num den : Nat) (e : Int) : Nat × Nat :=
  if 0 ≤ e then (num, den * pow2 e.toNat) else (num * pow2 (-e).toNat, den)

/-- The greatest `k` with `2 ^ k ≤ num / den`, for positive `num` and `den`. -/
def log2Ratio (num den : Nat) : Int :=
  let k : Int := (num.log2 : Int) - (den.log2 : Int)
  let (n, d) := scaleDown num den k
  if n < d then k - 1 else k

/-- The number nearest to `num / den`; a tie goes to the even mantissa. `den` is not zero. -/
def ofRatio (negative : Bool) (num den : Nat) : Binary64 :=
  if num == 0 then zero negative else
    let e := max leastExponent (log2Ratio num den - (precision - 1 : Nat))
    let (n, d) := scaleDown num den e
    let m := roundRatio n d
    -- Rounding up may reach the next power of two, which is outside the mantissa.
    let (m, e) := if m == pow2 precision then (pow2 (precision - 1), e + 1) else (m, e)
    if greatestExponent < e then .infinite negative else .finite negative m e

/-- The number nearest to `digits * 10 ^ e`, which is a ratio of whole numbers. The digits stand between two
powers of ten that the bits give: beyond the range of the format, the ratio is not worked out. -/
def ofDecimal (negative : Bool) (digits : Nat) (e : Int) : Binary64 :=
  let bits := digits.log2
  if digits == 0 then zero negative
  else if 311 < (bits * 3 / 10 : Nat) + e then .infinite negative
  else if (bits / 3 : Nat) + e < -330 then zero negative
  else if 0 ≤ e then ofRatio negative (digits * pow10 e.toNat) 1
  else ofRatio negative digits (pow10 (-e).toNat)

def ofInt? (n : Int) : Option Binary64 :=
  match ofRatio (n < 0) n.natAbs 1 with
  | .infinite _ => none
  | x => some x

/-! ## Views -/

def magnitude (mantissa : Nat) (exponent : Int) : Nat × Nat :=
  if 0 ≤ exponent then (mantissa * pow2 exponent.toNat, 1) else (mantissa, pow2 (-exponent).toNat)

def signed (negative : Bool) (n : Nat) : Int := if negative then -(n : Int) else n

def wholePart? : Binary64 → Option Int
  | .finite negative m e => let (n, d) := magnitude m e; some (signed negative (n / d))
  | _ => none

/-- A finite number rounded to the nearest whole number, a half going to the even neighbour. -/
def nearestWhole? : Binary64 → Option Int
  | .finite negative m e => let (n, d) := magnitude m e; some (signed negative (roundRatio n d))
  | _ => none

def exactWhole? : Binary64 → Option Int
  | .finite negative m e =>
    let (n, d) := magnitude m e
    if n % d == 0 then some (signed negative (n / d)) else none
  | _ => none

def equalsWhole (x : Binary64) (k : Int) : Bool := x.exactWhole? == some k

end Binary64

end LineShell
