import LineShell.Json.Value
import LineShell.Text.Quoted

/-!
# Writing JSON

The compact text of a value, as it is shown and as it is sent.
-/

namespace LineShell.Json

open Text

/-! ## Compact texts -/

section

variable (mark : Glyph → List Glyph)

/-- A text between quotes. -/
def markedText (text : List Glyph) : List Glyph := .char '"' :: text.flatMap mark ++ [.char '"']

mutual

/-- The compact text of a value, in which `mark` says how a glyph of a text stands. Numbers without a decimal
form stand as words. -/
def marked : Json → List Glyph
  | .null => glyphs "null"
  | .bool true => glyphs "true"
  | .bool false => glyphs "false"
  | .int n => glyphs (toString n)
  | .float x => glyphs x.text
  | .string s => markedText mark (glyphs s)
  | .raggedString text => markedText mark text
  | .array items => .char '[' :: List.intercalate [.char ','] (markedItems items) ++ [.char ']']
  | .object fields => .char '\x7b' :: List.intercalate [.char ','] (markedFields fields) ++ [.char '\x7d']
  | .raggedObject names values =>
    let fields := List.zipWith (fun name value => markedText mark name ++ .char ':' :: value) names (markedItems values)
    .char '\x7b' :: List.intercalate [.char ','] fields ++ [.char '\x7d']

def markedItems : List Json → List (List Glyph)
  | [] => []
  | item :: items => marked item :: markedItems items

def markedFields : List (String × Json) → List (List Glyph)
  | [] => []
  | (name, value) :: fields => (markedText mark (glyphs name) ++ .char ':' :: marked value) :: markedFields fields

end

end

/-! ## Marks -/

def numberMark (code : Nat) : List Glyph := .char '\\' :: .char 'u' :: (hex 4 code).map .char

def shownMark : Glyph → List Glyph
  | .lone code => numberMark code
  | .char c =>
    if c == '"' || c == '\\' then [.char '\\', .char c]
    else if c.toNat < 0x20 || (0x7F ≤ c.toNat && c.toNat < 0xA0) || c.toNat == 0x2028 || c.toNat == 0x2029 then
      numberMark c.toNat
    else [.char c]

def sentMark : Glyph → List Glyph
  | .lone code => [.lone code]
  | .char c =>
    match c with
    | '"' | '\\' => [.char '\\', .char c]
    | '\n' => glyphs "\\n"
    | '\r' => glyphs "\\r"
    | '\t' => glyphs "\\t"
    | '\x08' => glyphs "\\b"
    | '\x0c' => glyphs "\\f"
    | c => if c.toNat < 0x20 then numberMark c.toNat else [.char c]

/-! ## Values -/

/-- The text that shows a value; a lone surrogate stands by its number. -/
def written (value : Json) : String := mended (marked shownMark value)

/-- The text in which a value is sent; a lone surrogate stands in it as it is. -/
def sent (value : Json) : List Glyph := marked sentMark value

/-- Whether the text in which a value is sent has bytes: no lone surrogate stands in it. -/
def isWhole (value : Json) : Bool := value.sent.all fun g => g.char?.isSome

end LineShell.Json
