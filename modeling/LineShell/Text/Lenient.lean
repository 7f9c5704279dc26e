import LineShell.Text.Digit

/-!
# Lenient texts

UTF-8 in which mistakes are allowed: the longest start of a character that goes wrong is read as one
U+FFFD. And texts in which a percent sign with two digits stands for a byte.
-/

namespace LineShell.Text

/-! ## UTF-8 with mistakes -/

def replacement : Char := Char.ofNat 0xFFFD

/-- A character of which some bytes have been read: the bits so far, how many bytes are to come, and
the bounds of the next one. -/
structure Unfinished where
  bits : Nat
  missing : Nat
  low : Nat := 0x80
  high : Nat := 0xBF
deriving Repr, DecidableEq

def startChar (b : Nat) : List Char × Option Unfinished :=
  if b < 0x80 then ([Char.ofNat b], none)
  else if 0xC2 ≤ b && b ≤ 0xDF then ([], some { bits := b - 0xC0, missing := 1 })
  else if b == 0xE0 then ([], some { bits := 0, missing := 2, low := 0xA0 })
  else if b == 0xED then ([], some { bits := 0xD, missing := 2, high := 0x9F })
  else if 0xE1 ≤ b && b ≤ 0xEF then ([], some { bits := b - 0xE0, missing := 2 })
  else if b == 0xF0 then ([], some { bits := 0, missing := 3, low := 0x90 })
  else if b == 0xF4 then ([], some { bits := 4, missing := 3, high := 0x8F })
  else if 0xF1 ≤ b && b ≤ 0xF3 then ([], some { bits := b - 0xF0, missing := 3 })
  else ([replacement], none)

/-- Reads a byte. One that does not go on with the character starts another. -/
def nextByte (p : Option Unfinished) (b : Nat) : List Char × Option Unfinished :=
  match p with
  | none => startChar b
  | some p =>
    if p.low ≤ b && b ≤ p.high then
      let bits := p.bits * 64 + (b - 0x80)
      if p.missing == 1 then ([Char.ofNat bits], none) else ([], some { bits, missing := p.missing - 1 })
    else
      let (cs, p) := startChar b
      (replacement :: cs, p)

def lenientFrom (p : Option Unfinished) : List Nat → List Char
  | [] => if p.isSome then [replacement] else []
  | b :: bytes =>
    let (cs, p) := nextByte p b
    cs ++ lenientFrom p bytes

def lenient (bytes : List Nat) : String := String.ofList (lenientFrom none bytes)

/-! ## Percent signs -/

def percentBytes : List Char → List Nat
  | [] => []
  | '%' :: h :: l :: cs =>
    match hexValue? h, hexValue? l with
    | some high, some low => (16 * high + low) :: percentBytes cs
    -- One of the two may itself be a percent sign that stands for a byte.
    | _, _ => 0x25 :: percentBytes (h :: l :: cs)
  | c :: cs => (String.utf8EncodeChar c).map UInt8.toNat ++ percentBytes cs

def percentDecoded (s : String) : String := lenient (percentBytes s.toList)

end LineShell.Text
