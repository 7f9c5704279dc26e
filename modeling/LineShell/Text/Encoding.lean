import LineShell.Text.Quoted

/-!
# Encoded texts

Bytes as text in UTF-8, UTF-16 and UTF-32, and how the encoding is told from the first bytes. What is
decoded may hold surrogates that stand alone, which no `String` does.
-/

namespace LineShell.Text

/-! ## Glyphs -/

/-- What stands at one place of a decoded text: a character, or a surrogate without its partner. -/
inductive Glyph
  | char (c : Char)
  | lone (code : Nat)
deriving Repr, DecidableEq

namespace Glyph

def ofCode (code : Nat) : Glyph :=
  if 0xD800 ≤ code && code ≤ 0xDFFF then .lone code else .char (Char.ofNat code)

def char? : Glyph → Option Char
  | char c => some c
  | lone _ => none

def code : Glyph → Nat
  | char c => c.toNat
  | lone code => code

end Glyph

def glyphs (s : String) : List Glyph := s.toList.map .char

/-- The text that the glyphs spell, unless a surrogate stands alone among them. -/
def plain? (gs : List Glyph) : Option String := (gs.mapM Glyph.char?).map String.ofList

/-- The text that the screen shows of the glyphs, with U+FFFD for every lone surrogate. -/
def mended (gs : List Glyph) : String := String.ofList (gs.map fun g => g.char?.getD '\uFFFD')

inductive Encoding
  | utf8
  | utf16 (bigEndian : Bool)
  | utf32 (bigEndian : Bool)
deriving Repr, DecidableEq

/-! ## Units -/

def isTail (b : Nat) : Bool := 0x80 ≤ b && b < 0xC0

/-- Reads UTF-8, the glyphs so far in reverse. Overlong forms and codes beyond U+10FFFF are
refused, surrogates are not. -/
def utf8From (read : List Glyph) : List Nat → Option (List Glyph)
  | [] => some read.reverse
  | a :: rest =>
    if a < 0x80 then utf8From (.char (Char.ofNat a) :: read) rest else
    match rest with
    | b :: rest =>
      if !isTail b then none
      else if 0xC2 ≤ a && a ≤ 0xDF then utf8From (.ofCode ((a - 0xC0) * 64 + (b - 0x80)) :: read) rest
      else match rest with
        | c :: rest =>
          if !isTail c then none
          else if 0xE0 ≤ a && a ≤ 0xEF then
            let code := ((a - 0xE0) * 64 + (b - 0x80)) * 64 + (c - 0x80)
            if code < 0x800 then none else utf8From (.ofCode code :: read) rest
          else match rest with
            | d :: rest =>
              if !isTail d then none
              else if 0xF0 ≤ a && a ≤ 0xF4 then
                let code := (((a - 0xF0) * 64 + (b - 0x80)) * 64 + (c - 0x80)) * 64 + (d - 0x80)
                if code < 0x10000 || 0x10FFFF < code then none
                else utf8From (.ofCode code :: read) rest
              else none
            | [] => none
        | [] => none
    | [] => none

def units16 (bigEndian : Bool) (read : List Nat) : List Nat → Option (List Nat)
  | [] => some read.reverse
  | a :: b :: rest =>
    units16 bigEndian ((if bigEndian then a * 256 + b else b * 256 + a) :: read) rest
  | _ => none

/-- A piece of a text: a glyph, or a unit of sixteen bits that may be half of one. -/
inductive Piece
  | glyph (g : Glyph)
  | unit (code : Nat)
deriving Repr

/-- Reads pieces, the glyphs so far in reverse. Two surrogates that follow each other as units are one
character. -/
def joinUnits (read : List Glyph) : List Piece → List Glyph
  | [] => read.reverse
  | .glyph g :: rest => joinUnits (g :: read) rest
  | [.unit u] => (.ofCode u :: read).reverse
  | .unit u :: .glyph g :: rest => joinUnits (g :: .ofCode u :: read) rest
  | .unit u :: .unit v :: rest =>
    if 0xD800 ≤ u && u < 0xDC00 && 0xDC00 ≤ v && v < 0xE000 then
      joinUnits (.char (Char.ofNat (0x10000 + (u - 0xD800) * 1024 + (v - 0xDC00))) :: read) rest
    else joinUnits (.ofCode u :: read) (.unit v :: rest)

def utf32From (bigEndian : Bool) (read : List Glyph) : List Nat → Option (List Glyph)
  | [] => some read.reverse
  | a :: b :: c :: d :: rest =>
    let code := if bigEndian then ((a * 256 + b) * 256 + c) * 256 + d else ((d * 256 + c) * 256 + b) * 256 + a
    if 0x10FFFF < code then none else utf32From bigEndian (.ofCode code :: read) rest
  | _ => none

/-! ## Whole texts -/

def Encoding.decode? (encoding : Encoding) (bytes : List Nat) : Option (List Glyph) :=
  match encoding with
  | .utf8 => utf8From [] bytes
  | .utf16 bigEndian => (units16 bigEndian [] bytes).map fun units => joinUnits [] (units.map .unit)
  | .utf32 bigEndian => utf32From bigEndian [] bytes

/-- The encoding that the first bytes show, and the bytes after a byte order mark. Without a mark
the zeros among the first bytes decide. -/
def Encoding.detect : List Nat → Encoding × List Nat
  | 0x00 :: 0x00 :: 0xFE :: 0xFF :: rest => (.utf32 true, rest)
  | 0xFF :: 0xFE :: 0x00 :: 0x00 :: rest => (.utf32 false, rest)
  | 0xFE :: 0xFF :: rest => (.utf16 true, rest)
  | 0xFF :: 0xFE :: rest => (.utf16 false, rest)
  | 0xEF :: 0xBB :: 0xBF :: rest => (.utf8, rest)
  | bytes@(a :: b :: c :: d :: _) =>
    if a == 0 then (if b == 0 then .utf32 true else .utf16 true, bytes)
    else if b == 0 then (if c == 0 && d == 0 then .utf32 false else .utf16 false, bytes)
    else (.utf8, bytes)
  | [a, b] =>
    if a == 0 then (.utf16 true, [a, b])
    else if b == 0 then (.utf16 false, [a, b])
    else (.utf8, [a, b])
  | bytes => (.utf8, bytes)

def utf8Bytes (s : String) : List UInt8 := s.toUTF8.data.toList

def ofBytes? (bytes : List UInt8) : Option (List Glyph) :=
  let (encoding, rest) := Encoding.detect (bytes.map UInt8.toNat)
  encoding.decode? rest

end LineShell.Text
