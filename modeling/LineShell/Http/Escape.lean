import LineShell.Text.Quoted

/-!
# Escapes

Texts in which every character that is not safe stands as escapes: a percent sign and two digits for
each byte of it. Which characters are safe depends on the part of an address.
-/

namespace LineShell.Http

/-! ## Safe characters -/

/-- Whether a character is safe in every part: a letter, a digit, or one of four signs. -/
def isUnreserved (c : Char) : Bool := c.isAlphanum || c == '-' || c == '.' || c == '_' || c == '~'

def visibleBut (signs : String) (c : Char) : Bool :=
  0x21 ≤ c.toNat && c.toNat < 0x7F && !signs.toList.contains c

def safeInFragment : Char → Bool := visibleBut "\"<>`"

def safeInQuery : Char → Bool := visibleBut "\"#<>"

def safeInPath : Char → Bool := visibleBut "\"#<>?`\x7b\x7d"

def safeInUser : Char → Bool := visibleBut "\"#<>?`\x7b\x7d/;=@[\\]^|"

def safeInHost (c : Char) : Bool := isUnreserved c || "!$&'()*+,;=\"`\x7b\x7d%|\\".toList.contains c

/-! ## Escaping -/

def escapes (c : Char) : List Char :=
  (String.utf8EncodeChar c).flatMap fun b => '%' :: (Text.hex 2 b.toNat).map Char.toUpper

def escapedFor (safe : Char → Bool) (cs : List Char) : List Char :=
  cs.flatMap fun c => if safe c then [c] else escapes c

/-- A part of a query as forms send it: with a plus sign for a space. -/
def formText (s : String) : List Char :=
  s.toList.flatMap fun c => if c == ' ' then ['+'] else if isUnreserved c then [c] else escapes c

def formQuery (params : List (String × String)) : List Char :=
  List.intercalate ['&'] (params.map fun (name, value) => formText name ++ '=' :: formText value)

end LineShell.Http
