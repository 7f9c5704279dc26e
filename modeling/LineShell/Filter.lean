import LineShell.Command
import LineShell.Number.Numeral

/-!
# Filters

Commands that read the text of the stage before them: lines with a pattern, counts, and the lines at
either end.
-/

namespace LineShell.Filter

open Text

/-! ## Lines with a pattern, and counts -/

def grep : Filter := fun args text =>
  match args with
  | [] => .error (.missingOperand "grep: pattern mancante")
  | pattern :: _ => .ok (unlines ((lines text).filter (hasPart pattern ·)))

def lineCount (text : String) : Nat := ((lines text).filter (!isBlankLine ·)).length

/-- The number of words, which stand between runs of blanks. -/
def wordCount (text : String) : Nat := ((cutRuns isBlank text.toList).filter (!·.isEmpty)).length

def wc : Filter := fun _ text => .ok s!"{lineCount text}   {wordCount text}   {size text}"

/-! ## Lines at either end -/

def standardCount : Nat := 10

/-- The number with which a text begins, after blanks: a sign and decimal digits of any script.
A text that begins otherwise counts as zero. -/
def leadingNumber (text : String) : Except NumeralError Int :=
  let (negative, cs) := Numeral.takeSign (text.toList.dropWhile isBlank)
  (Numeral.ofDigits ((cs.takeWhile isDecimal).filterMap digitValue?)).map (Binary64.signed negative)

def count (args : List String) : Except Failure Int :=
  match args with
  | [] | "" :: _ => .ok standardCount
  | text :: _ => (leadingNumber text).mapError .numeral

/-- The first `n` entries; for a negative `n` all but the last `-n`. -/
def firstOf (n : Int) (entries : List α) : List α :=
  match n with
  | .ofNat k => entries.take k
  | .negSucc k => entries.take (entries.length - (k + 1))

/-- The last `n` entries; for a negative `n` all but the first `-n`. -/
def lastOf (n : Int) (entries : List α) : List α :=
  match n with
  | .ofNat k => entries.drop (entries.length - k)
  | .negSucc k => entries.drop (k + 1)

def head : Filter := fun args text => do
  let n ← count args
  pure (unlines (firstOf n (lines text)))

def tail : Filter := fun args text => do
  let n ← count args
  pure (unlines (lastOf n (lines text)))

end LineShell.Filter
