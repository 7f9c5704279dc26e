import LineShell.Text.Printable

/-!
# Quoted texts

The form in which a message shows a text: between quotes, with everything that is not printable
escaped.
-/

namespace LineShell.Text

def hex (width n : Nat) : List Char :=
  let digits := Nat.toDigits 16 n
  List.replicate (width - digits.length) '0' ++ digits

/-- A quoted text stands between single quotes, unless it holds one and no double quote. -/
def quoteFor (cs : List Char) : Char :=
  if cs.any (· == '\'') && !cs.any (· == '"') then '"' else '\''

/-- A number of a character, in as few digits as one of the three forms allows. -/
def numbered (n : Nat) : List Char :=
  if n < 0x100 then '\\' :: 'x' :: hex 2 n
  else if n < 0x10000 then '\\' :: 'u' :: hex 4 n
  else '\\' :: 'U' :: hex 8 n

def escaped (quote c : Char) : List Char :=
  if c == quote || c == '\\' then ['\\', c]
  else if c == '\n' then ['\\', 'n']
  else if c == '\r' then ['\\', 'r']
  else if c == '\t' then ['\\', 't']
  else if isPrintable c then [c]
  else numbered c.toNat

def quoted (s : String) : String :=
  let cs := s.toList
  let quote := quoteFor cs
  String.ofList (quote :: cs.flatMap (escaped quote) ++ [quote])

/-- The quoted form of a text that is given by numbers, among which may be some that no character has. -/
def quotedNumbers (ns : List Nat) : String :=
  let quote := quoteFor (ns.map Char.ofNat)
  let shown (n : Nat) : List Char := if n.isValidChar then escaped quote (Char.ofNat n) else numbered n
  String.ofList (quote :: ns.flatMap shown ++ [quote])

/-- The words that refuse to encode a text, given by its numbers: where the first ones stand that do not fit. -/
def refusal (code reason : String) (fits : Nat → Bool) (ns : List Nat) : String :=
  let start := (ns.takeWhile fits).length
  let bad := (ns.dropWhile fits).takeWhile (!fits ·)
  let what := match bad with
    | [n] => "character '" ++ String.ofList (numbered n) ++ s!"' in position {start}"
    | _ => s!"characters in position {start}-{start + bad.length - 1}"
  s!"'{code}' codec can't encode {what}: {reason}"

end LineShell.Text
