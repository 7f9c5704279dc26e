import LineShell.Http.Escape
import LineShell.Http.HostNumber
import LineShell.Http.Label
import LineShell.Text.Cut
import LineShell.Text.Punycode
import LineShell.Text.Small

/-!
# Names of hosts

Hosts as an address holds them. Plain names stand with small letters and escapes. Names with other
characters are spelled label by label in plain ones, if every label keeps the rules for such names.
-/

namespace LineShell.Http

open Text

/-! ## Small letters -/

def insideWords : List (Nat × Nat) := [
  (0x2E, 0x2E), (0xB7, 0xB7), (0x2B9, 0x2C1), (0x2C6, 0x2D1), (0x2EC, 0x2EC), (0x2EE, 0x2EE),
  (0x375, 0x375), (0x559, 0x559), (0x5F4, 0x5F4), (0x6E5, 0x6E6), (0x7F4, 0x7F5), (0x81A, 0x81A),
  (0x824, 0x824), (0x828, 0x828), (0x8C9, 0x8C9), (0x971, 0x971), (0xCBF, 0xCBF), (0xCC6, 0xCC6),
  (0xE46, 0xE46), (0xEC6, 0xEC6), (0x17D7, 0x17D7), (0x1843, 0x1843), (0x1AA7, 0x1AA7), (0x1C78, 0x1C7D),
  (0x1D2F, 0x1D2F), (0x1D3B, 0x1D3B), (0x1D4E, 0x1D4E), (0x200C, 0x200D), (0x2E2F, 0x2E2F),
  (0x3005, 0x3005), (0x309D, 0x309E), (0x30FC, 0x30FE), (0xA015, 0xA015), (0xA4F8, 0xA4FD),
  (0xA60C, 0xA60C), (0xA67F, 0xA67F), (0xA717, 0xA71F), (0xA788, 0xA788), (0xA9CF, 0xA9CF),
  (0xA9E6, 0xA9E6), (0xAA70, 0xAA70), (0xAADD, 0xAADD), (0xAAF3, 0xAAF4), (0xFF0E, 0xFF0E),
  (0x10780, 0x10780), (0x11A07, 0x11A08), (0x11C3F, 0x11C3F), (0x16B40, 0x16B43), (0x16F93, 0x16F9F),
  (0x16FE0, 0x16FE1), (0x16FE3, 0x16FE3), (0x1AFF0, 0x1AFF3), (0x1AFF5, 0x1AFFB), (0x1AFFD, 0x1AFFE),
  (0x1E137, 0x1E13D), (0x1E94B, 0x1E94B)]

def isInsideWord (c : Char) : Bool := isNonspacing c || inRanges insideWords c

def startsWithLetter (cs : List Char) : Bool := ((cs.dropWhile isInsideWord).head?.map hasCase).getD false

/-- The small letters of a character between those before it, the last first, and those behind it. A
capital sigma that ends a word has a small letter of its own. -/
def smallOf (before : List Char) (c : Char) (behind : List Char) : List Char :=
  match c.toNat with
  | 0x3A3 => if startsWithLetter before && !startsWithLetter behind then ['\u03C2'] else ['\u03C3']
  | 0x130 => ['i', '\u0307']
  | _ => [small c]

def inSmall (before : List Char) : List Char → List Char
  | [] => []
  | c :: behind => smallOf before c behind ++ inSmall (c :: before) behind

/-! ## Labels -/

def spellingMark : List Char := "xn--".toList

def labelLimit : Nat := 63

inductive NameFault
  | tooLong
  | bareMark
  | closingHyphen
  | unspelled
  | label (numbers : List Nat) (fault : LabelFault)
deriving Repr, DecidableEq

def NameFault.message : NameFault → String
  | tooLong => "Domain too long"
  | bareMark => "Malformed A-label, no Punycode eligible content found"
  | closingHyphen => "A-label must not end with a hyphen"
  | unspelled => "Invalid A-label"
  | label numbers fault => fault.message numbers

/-- What is at fault with the label of these numbers. What is no number of a character stands for one that
no label holds. -/
def numbersFault? (numbers : List Nat) : Option NameFault :=
  (labelFault? (numbers.map Char.ofNat)).map (.label numbers)

def plainLabelFault? (label : List Char) : Option NameFault :=
  let label := label.map Char.toLower
  let spelling := label.drop spellingMark.length
  if !spellingMark.isPrefixOf label then numbersFault? (label.map Char.toNat)
  else if spelling.isEmpty then some .bareMark
  else if spelling.getLast? == some '-' then some .closingHyphen
  else match Punycode.decode spelling with
    | none => some .unspelled
    | some numbers => numbersFault? numbers

def plainLabel? (label : List Char) : Option (List Char) :=
  if labelLimit < label.length then none else
  let plain := label.all (·.toNat < 0x80)
  let fits := if plain then (plainLabelFault? label).isNone else (labelFault? label).isNone
  let written := if plain then label else spellingMark ++ Punycode.encode label
  if fits && written.length ≤ labelLimit then some written else none

/-! ## Names -/

def isLabelDot (c : Char) : Bool :=
  c == '.' || c.toNat == 0x3002 || c.toNat == 0xFF0E || c.toNat == 0xFF61

def nameLimit : Nat := 253

def labelsOf (name : List Char) : List (List Char) × Bool :=
  let labels := cutChars isLabelDot name
  if labels.getLast? == some [] then (labels.dropLast, true) else (labels, false)

def plainName? (name : List Char) : Option (List Char) := do
  let (labels, closed) := labelsOf name
  let labels ← labels.mapM plainLabel?
  let written := List.intercalate ['.'] labels
  if nameLimit < written.length then none
  else some (if closed then written ++ ['.'] else written)

/-- What is at fault with a plain name when it is read back. A name is read only if its first label is
spelled. -/
def readingFault? (name : List Char) : Option NameFault :=
  if !spellingMark.isPrefixOf name then none
  else if nameLimit + 1 < name.length then some .tooLong
  else (labelsOf name).1.findSome? plainLabelFault?

/-! ## Hosts -/

inductive HostFault
  | four
  | grouped
  | name
deriving Repr, DecidableEq

/-- The host that a text gives, as an address holds it: groups stand without their brackets. -/
def hostOf (text : List Char) : Except HostFault (List Char) :=
  let bracketed := text.head? == some '[' && text.getLast? == some ']'
  if text.isEmpty then .ok []
  -- What looks like an address in four numbers is one or nothing, never a name.
  else if looksLikeFour text then if isFour text then .ok text else .error .four
  else if bracketed then
    let number := (text.drop 1).dropLast
    if isGrouped number then .ok number else .error .grouped
  else if text.all (·.toNat < 0x80) then .ok (escapedFor safeInHost (text.map Char.toLower))
  else match plainName? (inSmall [] text) with
    | some name => .ok name
    | none => .error .name

end LineShell.Http
