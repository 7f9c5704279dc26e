import LineShell.Json.Value
import LineShell.Number.Numeral
import LineShell.Text.Encoding

/-!
# Reading JSON

The exact grammar of JSON, with the words `NaN`, `Infinity` and `-Infinity` for numbers besides. How deep
arrays and objects may be nested is for the caller to say.
-/

namespace LineShell

inductive JsonError
  | syntactic
  | encoding
  | numeral (cause : NumeralError)
  | nesting (inObject : Bool)
deriving Repr, DecidableEq

namespace Json

open Text

def isGap (g : Glyph) : Bool := g == .char ' ' || g == .char '\t' || g == .char '\n' || g == .char '\r'

def skipGap (gs : List Glyph) : List Glyph := gs.dropWhile isGap

/-! ## Texts -/

def hex4? (a b c d : Glyph) : Option Nat := do
  let a ← a.char?.bind hexValue?
  let b ← b.char?.bind hexValue?
  let c ← c.char?.bind hexValue?
  let d ← d.char?.bind hexValue?
  pure (((a * 16 + b) * 16 + c) * 16 + d)

def escape? : Glyph → Option Char
  | .char '"' => some '"'
  | .char '\\' => some '\\'
  | .char '/' => some '/'
  | .char 'b' => some '\x08'
  | .char 'f' => some '\x0c'
  | .char 'n' => some '\n'
  | .char 'r' => some '\r'
  | .char 't' => some '\t'
  | _ => none

/-- Reads a text after its opening quote; gives the pieces read, in reverse, and the rest. Only escapes
are units, so a surrogate that stands in the text as it is never finds a partner. -/
def readText (read : List Piece) : List Glyph → Option (List Piece × List Glyph)
  | [] => none
  | .char '"' :: gs => some (read, gs)
  | .char '\\' :: .char 'u' :: a :: b :: c :: d :: gs =>
    match hex4? a b c d with
    | some code => readText (.unit code :: read) gs
    | none => none
  | .char '\\' :: e :: gs =>
    match escape? e with
    | some c => readText (.glyph (.char c) :: read) gs
    | none => none
  | g :: gs => if g.code < 0x20 then none else readText (.glyph g :: read) gs

/-! ## Numbers -/

def digit? (g : Glyph) : Option Nat := g.char?.bind asciiDigit?

def takeDigits (gs : List Glyph) : List Nat × List Glyph :=
  ((gs.takeWhile fun g => (digit? g).isSome).filterMap digit?, gs.dropWhile fun g => (digit? g).isSome)

def takePlaces : List Glyph → Option (List Nat) × List Glyph
  | .char '.' :: gs =>
    match takeDigits gs with
    | ([], _) => (none, .char '.' :: gs)
    | (places, rest) => (some places, rest)
  | gs => (none, gs)

def takeSign : List Glyph → Bool × List Glyph
  | .char '-' :: gs => (true, gs)
  | .char '+' :: gs => (false, gs)
  | gs => (false, gs)

def takeExponent : List Glyph → Option Int × List Glyph
  | g :: gs =>
    if g == .char 'e' || g == .char 'E' then
      let (negative, after) := takeSign gs
      match takeDigits after with
      | ([], _) => (none, g :: gs)
      | (digits, rest) => (some (Binary64.signed negative (spelled digits)), rest)
    else (none, g :: gs)
  | [] => (none, [])

/-- A number without its sign: whole unless a point or an exponent follows the digits. -/
def readNumber (negative : Bool) (gs : List Glyph) : Except JsonError (Json × List Glyph) :=
  let (whole, rest) := match gs with
    | .char '0' :: rest => ([0], rest)
    | _ => takeDigits gs
  if whole.isEmpty then .error .syntactic else
  match takePlaces rest with
  | (places, rest) =>
    match takeExponent rest with
    | (exponent, rest) =>
      if places.isNone && exponent.isNone then
        match Numeral.ofDigits whole with
        | .ok n => .ok (.int (Binary64.signed negative n), rest)
        | .error e => .error (.numeral e)
      else
        let places := places.getD []
        let e := exponent.getD 0 - places.length
        .ok (.float (.ofDecimal negative (spelled (whole ++ places)) e), rest)

/-! ## Values -/

def afterWord? (word : String) (gs : List Glyph) : Option (List Glyph) :=
  if (glyphs word).isPrefixOf gs then some (gs.drop word.length) else none

mutual

/-- A value, with no space in front. The first argument bounds the number of values and separators
that are read, the second how deep arrays and objects may still be nested. -/
def readValue : Nat → Nat → List Glyph → Except JsonError (Json × List Glyph)
  | 0, _, _ => .error .syntactic
  | fuel + 1, depth, gs =>
    match gs with
    | .char '"' :: gs =>
      match readText [] gs with
      | some (pieces, rest) => .ok (.ofGlyphs (joinUnits [] pieces.reverse), rest)
      | none => .error .syntactic
    | .char '[' :: gs =>
      match depth, skipGap gs with
      | 0, _ => .error (.nesting false)
      | _ + 1, .char ']' :: rest => .ok (.array [], rest)
      | depth + 1, gs => readItems fuel depth [] gs
    | .char '\x7b' :: gs =>
      match depth, skipGap gs with
      | 0, _ => .error (.nesting true)
      | _ + 1, .char '\x7d' :: rest => .ok (.object [], rest)
      | depth + 1, gs => readFields fuel depth [] gs
    | .char '-' :: gs =>
      match afterWord? "Infinity" gs with
      | some rest => .ok (.float (.infinite true), rest)
      | none => readNumber true gs
    | gs =>
      match afterWord? "null" gs, afterWord? "true" gs, afterWord? "false" gs, afterWord? "NaN" gs,
          afterWord? "Infinity" gs with
      | some rest, _, _, _, _ => .ok (.null, rest)
      | _, some rest, _, _, _ => .ok (.bool true, rest)
      | _, _, some rest, _, _ => .ok (.bool false, rest)
      | _, _, _, some rest, _ => .ok (.float .nan, rest)
      | _, _, _, _, some rest => .ok (.float (.infinite false), rest)
      | _, _, _, _, _ => readNumber false gs

def readItems : Nat → Nat → List Json → List Glyph → Except JsonError (Json × List Glyph)
  | 0, _, _, _ => .error .syntactic
  | fuel + 1, depth, items, gs =>
    match readValue fuel depth gs with
    | .error e => .error e
    | .ok (item, rest) =>
      match skipGap rest with
      | .char ',' :: rest => readItems fuel depth (item :: items) (skipGap rest)
      | .char ']' :: rest => .ok (.array (item :: items).reverse, rest)
      | _ => .error .syntactic

def readFields : Nat → Nat → List (List Glyph × Json) → List Glyph → Except JsonError (Json × List Glyph)
  | 0, _, _, _ => .error .syntactic
  | fuel + 1, depth, fields, gs =>
    match gs with
    | .char '"' :: gs =>
      match readText [] gs with
      | none => .error .syntactic
      | some (pieces, rest) =>
        let name := joinUnits [] pieces.reverse
        match skipGap rest with
        | .char ':' :: rest =>
          match readValue fuel depth (skipGap rest) with
          | .error e => .error e
          | .ok (value, rest) =>
            match skipGap rest with
            | .char ',' :: rest => readFields fuel depth ((name, value) :: fields) (skipGap rest)
            | .char '\x7d' :: rest => .ok (ofFields ((name, value) :: fields).reverse, rest)
            | _ => .error .syntactic
        | _ => .error .syntactic
    | _ => .error .syntactic

end

/-! ## Whole texts -/

/-- How deep arrays and objects may be nested where the caller does not say: as deep as a request of the
terminal itself leaves room for. -/
def standardDepth : Nat := 960

def ofText (gs : List Glyph) (depth : Nat) : Except JsonError Json :=
  -- Every value and every separator takes a glyph, so the reading ends before its bound.
  match readValue (2 * gs.length + 2) depth (skipGap gs) with
  | .error e => .error e
  | .ok (value, rest) => if (skipGap rest).isEmpty then .ok value else .error .syntactic

def ofChars (cs : List Char) (depth : Nat := standardDepth) : Except JsonError Json := ofText (cs.map .char) depth

def ofBytes (bytes : List UInt8) (depth : Nat := standardDepth) : Except JsonError Json :=
  match ofBytes? bytes with
  | none => .error .encoding
  | some gs => ofText gs depth

end Json

end LineShell
