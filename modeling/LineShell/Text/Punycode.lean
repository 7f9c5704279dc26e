/-!
# Punycode

Texts of any characters spelled with letters, digits and hyphens: the plain characters stand in front,
and behind them, for every other character in the order of its number, how far it lies from the one
before. The distances are numerals whose digits carry their own end, under thresholds that adapt. A
spelling can be read back.
-/

namespace LineShell.Text.Punycode

/-! ## Digits -/

def digitChar (d : Nat) : Char := if d < 26 then Char.ofNat (0x61 + d) else Char.ofNat (0x30 + (d - 26))

def threshold (position bias : Nat) : Nat :=
  if position ≤ bias then 1 else if bias + 26 ≤ position then 26 else position - bias

theorem threshold_pos (position bias : Nat) : 1 ≤ threshold position bias := by
  unfold threshold
  split
  · omega
  · split <;> omega

def digits (bias position distance : Nat) : List Nat :=
  let t := threshold position bias
  if distance < t then [distance]
  else (t + (distance - t) % (36 - t)) :: digits bias (position + 36) ((distance - t) / (36 - t))
termination_by distance
decreasing_by
  have h := threshold_pos position bias
  have := Nat.div_le_self (distance - threshold position bias) (36 - threshold position bias)
  omega

/-! ## Bias -/

def shrink (distance position : Nat) : Nat × Nat :=
  if 455 < distance then shrink (distance / 35) (position + 36) else (distance, position)
termination_by distance
decreasing_by omega

def adapt (distance written : Nat) (first : Bool) : Nat :=
  let scaled := if first then distance / 700 else distance / 2
  let (rest, position) := shrink (scaled + scaled / written) 0
  position + 36 * rest / (rest + 38)

/-! ## Texts -/

/-- How far the writing of a text has come: the distance since the last character, the bias, the
number of characters written, and the digits in reverse. -/
structure Progress where
  distance : Nat := 0
  bias : Nat := 72
  written : Nat
  found : List Nat := []
deriving Repr, DecidableEq

def pass (plain n : Nat) (p : Progress) (c : Char) : Progress :=
  if c.toNat < n then { p with distance := p.distance + 1 }
  else if c.toNat == n then
    { distance := 0
      bias := adapt p.distance (p.written + 1) (p.written == plain)
      written := p.written + 1
      found := (digits p.bias 36 p.distance).reverse ++ p.found }
  else p

/-- Passes the text once for each number, from the one after `last` on. -/
def passAll (plain : Nat) (cs : List Char) : Nat → List Nat → Progress → Progress
  | _, [], p => p
  | last, n :: rest, p =>
    -- Every number between counts once for each place where a character could stand.
    let p := { p with distance := p.distance + (n - last) * (p.written + 1) }
    let p := cs.foldl (pass plain n) p
    passAll plain cs (n + 1) rest { p with distance := p.distance + 1 }

def encode (cs : List Char) : List Char :=
  let plain := cs.filter (·.toNat < 0x80)
  let numbers := (((cs.filter (0x80 ≤ ·.toNat)).map Char.toNat).mergeSort (· ≤ ·)).eraseDups
  let p := passAll plain.length cs 0x80 numbers { written := plain.length }
  (if plain.isEmpty then [] else plain ++ ['-']) ++ p.found.reverse.map digitChar

/-! ## Reading -/

def digitOf? (c : Char) : Option Nat :=
  let n := c.toLower.toNat
  if 0x61 ≤ n && n ≤ 0x7A then some (n - 0x61)
  else if 0x30 ≤ n && n ≤ 0x39 then some (n - 0x30 + 26)
  else none

/-- Reads the digits of a distance from a position on, each of which counts `weight` times, and what
follows them. -/
def distance? (bias : Nat) : List Char → Nat → Nat → Nat → Option (Nat × List Char)
  | [], _, _, _ => none
  | c :: cs, position, weight, sum =>
    match digitOf? c with
    | none => none
    | some d =>
      if d < threshold position bias then some (sum + d * weight, cs)
      else distance? bias cs (position + 36) (weight * (36 - threshold position bias)) (sum + d * weight)

theorem distance?_length {bias : Nat} {cs : List Char} {position weight sum : Nat} {r : Nat × List Char}
    (h : distance? bias cs position weight sum = some r) : r.2.length < cs.length := by
  induction cs generalizing position weight sum with
  | nil => simp [distance?] at h
  | cons c cs ih =>
    rw [distance?] at h
    split at h
    · simp at h
    · split at h
      · rw [← Option.some.inj h]; simp
      · exact Nat.lt_succ_of_lt (ih h)

def numberLimit : Nat := 0x110000

/-- Puts numbers into a text as distances say: the number of the last one, the place behind it, and the
bias. -/
def insertAll (number place bias : Nat) (first : Bool) (text : List Nat) (cs : List Char) : Option (List Nat) :=
  if cs.isEmpty then some text else
  match h : distance? bias cs 36 1 0 with
  | none => none
  | some (distance, rest) =>
    let count := text.length + 1
    let number := number + (place + distance) / count
    let place := (place + distance) % count
    if number < numberLimit then
      insertAll number (place + 1) (adapt distance count first) false (text.insertIdx place number) rest
    else none
termination_by cs.length
decreasing_by exact distance?_length h

/-- The numbers of the characters of a spelling, among which may be some that no character has: plain
characters stand before the last hyphen. -/
def decode (cs : List Char) : Option (List Nat) :=
  let spelled := (cs.reverse.takeWhile (· != '-')).reverse
  let plain := cs.take (cs.length - spelled.length - 1)
  insertAll 0x80 0 72 true (plain.map Char.toNat) spelled

end LineShell.Text.Punycode
