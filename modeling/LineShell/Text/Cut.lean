import LineShell.Text.Blank

/-!
# Cutting texts

Pieces between separators, words between blanks, trimmed ends, and joining pieces again.
Each operation is defined on lists of characters and lifted to strings.
-/

namespace LineShell.Text

/-! ## Lists of characters -/

def consFirst (c : Char) : List (List Char) → List (List Char)
  | [] => [[c]]
  | piece :: pieces => (c :: piece) :: pieces

def cutChars (p : Char → Bool) (cs : List Char) : List (List Char) :=
  cs.foldr (fun c pieces => if p c then [] :: pieces else consFirst c pieces) [[]]

def runs (p : Char → Bool) (cs : List Char) : List (List Char) :=
  (cutChars p cs).filter (!·.isEmpty)

/-- The pieces between the maximal runs of characters that satisfy `p`. A run at either end leaves an
empty piece there. -/
def cutRuns (p : Char → Bool) : List Char → List (List Char)
  | [] => [[]]
  | c :: cs =>
    if p c then
      -- the last character of a run cuts, the others are passed over
      if cs.head?.any p then cutRuns p cs else [] :: cutRuns p cs
    else consFirst c (cutRuns p cs)

def trimChars (p : Char → Bool) (cs : List Char) : List Char :=
  ((cs.dropWhile p).reverse.dropWhile p).reverse

/-- Whether `part` stands somewhere in `cs` without a gap. -/
def occursIn (part : List Char) : List Char → Bool
  | [] => part.isEmpty
  | c :: cs => part.isPrefixOf (c :: cs) || occursIn part cs

/-- The text up to the first character that satisfies `p`, and what follows that character. -/
def cutFirst (p : Char → Bool) (cs : List Char) : List Char × List Char :=
  (cs.takeWhile (!p ·), (cs.dropWhile (!p ·)).drop 1)

/-! ## Strings -/

def split (sep : Char) (s : String) : List String :=
  (cutChars (· == sep) s.toList).map String.ofList

def words (s : String) : List String := (runs isBlank s.toList).map String.ofList

def strip (s : String) : String := String.ofList (trimChars isBlank s.toList)

def isBlankLine (s : String) : Bool := s.toList.all isBlank

def lines (s : String) : List String := split '\n' s

def join (sep : String) (pieces : List String) : String :=
  String.ofList (List.intercalate sep.toList (pieces.map String.toList))

def unlines (pieces : List String) : String := join "\n" pieces

def hasPart (part s : String) : Bool := occursIn part.toList s.toList

def hasChar (c : Char) (s : String) : Bool := s.toList.any (· == c)

def dropLeading (c : Char) (s : String) : String := String.ofList (s.toList.dropWhile (· == c))

def dropTrailing (c : Char) (s : String) : String :=
  String.ofList (s.toList.reverse.dropWhile (· == c)).reverse

def size (s : String) : Nat := s.toList.length

def padRight (width : Nat) (s : String) : String :=
  s ++ String.ofList (List.replicate (width - size s) ' ')

def padLeft (width : Nat) (s : String) : String :=
  String.ofList (List.replicate (width - size s) ' ') ++ s

def foldReturns : List Char → List Char
  | '\r' :: '\n' :: cs => '\n' :: foldReturns cs
  | c :: cs => c :: foldReturns cs
  | [] => []

/-- The lines of `s` under every line ending; an ending at the very end opens no further line. -/
def physicalLines (s : String) : List String :=
  let pieces := cutChars isLineEnd (foldReturns s.toList)
  let pieces := if pieces.getLast? == some [] then pieces.dropLast else pieces
  pieces.map String.ofList

end LineShell.Text
