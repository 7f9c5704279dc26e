import LineShell.Text.Cut
import LineShell.Text.Digit

/-!
# Numbers of hosts

Hosts that are given by number: four numbers with points between them, or up to eight groups of
hexadecimal digits with colons between them.
-/

namespace LineShell.Http

open Text

/-! ## Four numbers -/

def isDigit (c : Char) : Bool := (asciiDigit? c).isSome

/-- Reads a character of a text that may consist of four runs of digits with one character of any kind
between neighbours. An odd state stands in a run, an even one before a run; any character can part
two runs, so several states are possible at once. -/
def stepRuns (states : List Nat) (c : Char) : List Nat :=
  (List.range 8).filter fun k =>
    if k % 2 == 1 then isDigit c && (states.contains k || states.contains (k - 1))
    else k != 0 && states.contains (k - 1)

def looksLikeFour (host : List Char) : Bool := (host.foldl stepRuns [0]).contains 7

/-- One of four numbers: up to 255, without zeros in front. -/
def isOctet (cs : List Char) : Bool :=
  match cs.mapM asciiDigit? with
  | none | some [] => false
  | some (0 :: _ :: _) => false
  | some digits => digits.length ≤ 3 && spelled digits ≤ 255

def isFour (host : List Char) : Bool :=
  let parts := cutChars (· == '.') host
  parts.length == 4 && parts.all isOctet

/-! ## Eight groups -/

def isGroup (cs : List Char) : Bool := !cs.isEmpty && cs.length ≤ 4 && cs.all fun c => (hexValue? c).isSome

def groupsOf? (host : List Char) : Option (List (List Char)) :=
  let parts := cutChars (· == ':') host
  let last := parts.getLastD []
  if parts.length < 3 then none
  else if !last.contains '.' then some parts
  else if isFour last then some (parts.dropLast ++ [['0'], ['0']])
  else none

/-- Whether groups make a number of a host. One run of groups that are all zero may be left out; two
colons stand in its place, so that an empty part stands there, and two or three at an end. -/
def areGroups (parts : List (List Char)) : Bool :=
  let inner := (List.range parts.length).filter fun i =>
    i != 0 && i + 1 != parts.length && (parts.getD i []).isEmpty
  match inner with
  | [] => parts.length == 8 && parts.all isGroup
  | [gap] =>
    let before := parts.take gap
    let after := parts.drop (gap + 1)
    let before := if before == [[]] then [] else before
    let after := if after == [[]] then [] else after
    before.length + after.length ≤ 7 && before.all isGroup && after.all isGroup
  | _ => false

/-- Whether a host is given by groups; a zone may follow behind one percent sign. -/
def isGrouped (host : List Char) : Bool :=
  let (number, zone) := cutFirst (· == '%') host
  let zoneFits := !host.contains '%' || (!zone.isEmpty && !zone.contains '%')
  !host.contains '/' && zoneFits && ((groupsOf? number).map areGroups).getD false

end LineShell.Http
