import LineShell.Number.Binary64
import LineShell.Text.Blank
import LineShell.Text.Cut
import LineShell.Text.Digit
import LineShell.Text.Quoted

/-!
# Numerals

Texts that spell whole numbers and binary64 numbers. Digits of every script count, a single low line
may stand between two digits, and spaces may surround the numeral.
-/

namespace LineShell

inductive NumeralError
  | malformed (text : String)
  | tooLong (digits : Nat)
deriving Repr, DecidableEq

namespace NumeralError

def message : NumeralError → String
  | .malformed text =>
    "invalid literal for int() with base 10: " ++ String.ofList ((Text.quoted text).toList.take 200)
  | .tooLong digits =>
    s!"Exceeds the limit (4300 digits) for integer string conversion: value has {digits} digits; " ++
      "use sys.set_int_max_str_digits() to increase the limit"

end NumeralError

namespace Numeral

open Text

def digitLimit : Nat := 4300

def ofDigits (digits : List Nat) : Except NumeralError Nat :=
  if digitLimit < digits.length then .error (.tooLong digits.length) else .ok (spelled digits)

def takeSign : List Char → Bool × List Char
  | '-' :: cs => (true, cs)
  | '+' :: cs => (false, cs)
  | cs => (false, cs)

/-- The digits of a run in which single low lines may stand between digits. -/
def groupedDigits? (digit? : Char → Option Nat) : List Char → Option (List Nat)
  | [] => none
  | [c] => (digit? c).map ([·])
  | c :: '_' :: cs => do
    let d ← digit? c
    let ds ← groupedDigits? digit? cs
    pure (d :: ds)
  | c :: cs => do
    let d ← digit? c
    let ds ← groupedDigits? digit? cs
    pure (d :: ds)

/-- A whole number: spaces, a sign, digits of any script, spaces. Too many digits are refused whatever
follows them. -/
def integer (text : String) : Except NumeralError Int :=
  let (negative, cs) := takeSign (text.toList.dropWhile isSpace)
  let inRun (c : Char) : Bool := isDecimal c || c == '_'
  match groupedDigits? digitValue? (cs.takeWhile inRun) with
  | none => .error (.malformed text)
  | some digits =>
    match ofDigits digits with
    | .error e => .error e
    | .ok n =>
      if (cs.dropWhile inRun).all isSpace then .ok (Binary64.signed negative n) else .error (.malformed text)

def exponent? (cs : List Char) : Option Int :=
  let (negative, cs) := takeSign cs
  (groupedDigits? digitValue? cs).map fun ds => Binary64.signed negative (spelled ds)

/-- Digits with a point among them: the digits of both sides together, and how many stand after the
point. Either side may be empty, but not both. -/
def pointed? (cs : List Char) : Option (List Nat × Nat) :=
  let side (part : List Char) : Option (List Nat) :=
    if part.isEmpty then some [] else groupedDigits? digitValue? part
  match cutChars (· == '.') cs with
  | [whole] => (groupedDigits? digitValue? whole).map (·, 0)
  | [whole, places] => do
    let ws ← side whole
    let ps ← side places
    if ws.isEmpty && ps.isEmpty then none else some (ws ++ ps, ps.length)
  | _ => none

/-- Digits with a point among them and an exponent behind them: the whole number of the digits and the power
of ten that it counts. -/
def decimal? (cs : List Char) : Option (Nat × Int) :=
  match cutChars (fun c => c == 'e' || c == 'E') cs with
  | [digits] => (pointed? digits).map fun (ds, places) => (spelled ds, -places)
  | [digits, tail] => do
    let (ds, places) ← pointed? digits
    let e ← exponent? tail
    pure (spelled ds, e - places)
  | _ => none

def real? (text : String) : Option Binary64 :=
  let (negative, cs) := takeSign (trimChars isSpace text.toList)
  let word := String.ofList (cs.map Char.toLower)
  if word == "inf" || word == "infinity" then some (.infinite negative)
  else if word == "nan" then some .nan
  else (decimal? cs).map fun (digits, e) => .ofDecimal negative digits e

end Numeral

end LineShell
