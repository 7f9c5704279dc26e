import LineShell.Number.Binary64

/-!
# Written numbers

The fewest digits from which a number reads back, and the layouts in which numbers are written.
-/

namespace LineShell

/-! ## Fewest digits -/

/-- The greatest `k` with `10 ^ k ≤ num / den`, for positive `num` and `den`, looked for downwards
from `start` within `fuel` steps. -/
def log10Below (num den : Nat) : Nat → Int → Int
  | 0, k => k
  | fuel + 1, k =>
    let reached := if 0 ≤ k then den * pow10 k.toNat ≤ num else den ≤ num * pow10 (-k).toNat
    if reached then k else log10Below num den fuel (k - 1)

def log10Ratio (num den : Nat) : Int :=
  let bits := Binary64.log2Ratio num den
  log10Below num den 8 (bits * 30103 / 100000 + 2)

namespace Binary64

structure Decimal where
  digits : Nat
  exponent : Int
deriving Repr, DecidableEq

def Decimal.ratio (x : Decimal) : Nat × Nat :=
  if 0 ≤ x.exponent then (x.digits * pow10 x.exponent.toNat, 1) else (x.digits, pow10 (-x.exponent).toNat)

def readsBack (m : Nat) (e : Int) (x : Decimal) : Bool :=
  let (n, d) := x.ratio
  match ofRatio false n d with
  | .finite _ m' e' => magnitude m e == magnitude m' e'
  | _ => false

/-- Of the two neighbours of `m * 2 ^ e` on the grid `10 ^ k`, the ones that read back, and of two
the nearer one; of two equally near ones the even one. -/
def onGrid? (m : Nat) (e k : Int) : Option Decimal :=
  let (n, d) := magnitude m e
  let (n, d) := if 0 ≤ k then (n, d * pow10 k.toNat) else (n * pow10 (-k).toNat, d)
  let low : Decimal := ⟨n / d, k⟩
  let high : Decimal := ⟨n / d + 1, k⟩
  let nearest := if roundRatio n d == low.digits then low else high
  let other := if nearest == low then high else low
  if readsBack m e nearest then some nearest
  else if readsBack m e other then some other
  else none

/-- The decimal with the fewest digits, 17 at most, that reads back as `m * 2 ^ e`. -/
def shortest (m : Nat) (e : Int) : Decimal :=
  let (n, d) := magnitude m e
  let top := log10Ratio n d
  let found := (List.range 17).findSome? fun (i : Nat) => onGrid? m e (top - i)
  found.getD ⟨n / d, 0⟩

/-! ## Layouts -/

def digitsOf (n : Nat) : List Char := Nat.toDigits 10 n

def withSign (negative : Bool) (cs : List Char) : List Char := if negative then '-' :: cs else cs

/-- How numbers are written in answers: with a point and at least one place when their leading digit
stands between ten thousandths and `10 ^ 16`, and else with an exponent of at least two digits. -/
structure Layout where
  leastPositional : Int := -4
  firstScientific : Int := 16
  exponentWidth : Nat := 2

def Layout.write (layout : Layout) (x : Decimal) : List Char :=
  let ds := (digitsOf x.digits).reverse.dropWhile (· == '0') |>.reverse
  let lead : Int := x.exponent + ((digitsOf x.digits).length - 1 : Nat)
  if layout.leastPositional ≤ lead && lead < layout.firstScientific then
    if lead < 0 then
      '0' :: '.' :: List.replicate (-lead - 1).toNat '0' ++ ds
    else
      let whole := ds.take (lead + 1).toNat
      let whole := whole ++ List.replicate ((lead + 1).toNat - whole.length) '0'
      let places := ds.drop (lead + 1).toNat
      whole ++ '.' :: (if places.isEmpty then ['0'] else places)
  else
    let exponent := digitsOf lead.natAbs
    let exponent := List.replicate (layout.exponentWidth - exponent.length) '0' ++ exponent
    let mantissa := match ds with
      | [] => ['0']
      | [c] => [c]
      | c :: places => c :: '.' :: places
    mantissa ++ 'e' :: (if lead < 0 then '-' else '+') :: exponent

def text : Binary64 → String
  | .nan => "nan"
  | .infinite negative => String.ofList (withSign negative "inf".toList)
  | .finite negative 0 _ => String.ofList (withSign negative "0.0".toList)
  | .finite negative m e =>
    String.ofList (withSign negative (Layout.write { : Layout } (shortest m e)))

/-- A finite number with one place after the point, a tie going to the even digit. The sign stays
when the digits are all zero. -/
def onePlace : Binary64 → String
  | .finite negative m e =>
    let (n, d) := magnitude m e
    let tenths := roundRatio (10 * n) d
    String.ofList (withSign negative (digitsOf (tenths / 10) ++ '.' :: digitsOf (tenths % 10)))
  | x => x.text

end Binary64

end LineShell
