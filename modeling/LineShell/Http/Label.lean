import LineShell.Http.Flow
import LineShell.Http.NameTable
import LineShell.Text.Composition
import LineShell.Text.Quoted

/-!
# Labels

The parts of the name of a host, the rules for their characters, and the words in which a text is told why
it is no label.
-/

namespace LineShell.Http

open Text

/-! ## Scripts -/

def isGreek : Char → Bool := inRanges [
  (0x370, 0x373), (0x375, 0x377), (0x37A, 0x37D), (0x37F, 0x37F), (0x384, 0x384), (0x386, 0x386),
  (0x388, 0x38A), (0x38C, 0x38C), (0x38E, 0x3A1), (0x3A3, 0x3E1), (0x3F0, 0x3FF), (0x1D26, 0x1D2A),
  (0x1D5D, 0x1D61), (0x1D66, 0x1D6A), (0x1DBF, 0x1DBF), (0x1F00, 0x1F15), (0x1F18, 0x1F1D),
  (0x1F20, 0x1F45), (0x1F48, 0x1F4D), (0x1F50, 0x1F57), (0x1F59, 0x1F59), (0x1F5B, 0x1F5B),
  (0x1F5D, 0x1F5D), (0x1F5F, 0x1F7D), (0x1F80, 0x1FB4), (0x1FB6, 0x1FC4), (0x1FC6, 0x1FD3),
  (0x1FD6, 0x1FDB), (0x1FDD, 0x1FEF), (0x1FF2, 0x1FF4), (0x1FF6, 0x1FFE), (0x2126, 0x2126),
  (0xAB65, 0xAB65), (0x10140, 0x1018E), (0x101A0, 0x101A0), (0x1D200, 0x1D245)]

def isHebrew : Char → Bool := inRanges [
  (0x591, 0x5C7), (0x5D0, 0x5EA), (0x5EF, 0x5F4), (0xFB1D, 0xFB36), (0xFB38, 0xFB3C), (0xFB3E, 0xFB3E),
  (0xFB40, 0xFB41), (0xFB43, 0xFB44), (0xFB46, 0xFB4F)]

def isHanOrKana : Char → Bool := inRanges [
  (0x2E80, 0x2E99), (0x2E9B, 0x2EF3), (0x2F00, 0x2FD5), (0x3005, 0x3005), (0x3007, 0x3007),
  (0x3021, 0x3029), (0x3038, 0x303B), (0x3041, 0x3096), (0x309D, 0x309F), (0x30A1, 0x30FA),
  (0x30FD, 0x30FF), (0x31F0, 0x31FF), (0x32D0, 0x32FE), (0x3300, 0x3357), (0x3400, 0x4DBF),
  (0x4E00, 0x9FFF), (0xF900, 0xFA6D), (0xFA70, 0xFAD9), (0xFF66, 0xFF6F), (0xFF71, 0xFF9D),
  (0x16FE2, 0x16FE3), (0x16FF0, 0x16FF6), (0x1AFF0, 0x1AFF3), (0x1AFF5, 0x1AFFB), (0x1AFFD, 0x1AFFE),
  (0x1B000, 0x1B122), (0x1B132, 0x1B132), (0x1B150, 0x1B152), (0x1B155, 0x1B155), (0x1B164, 0x1B167),
  (0x1F200, 0x1F200), (0x20000, 0x2A6DF), (0x2A700, 0x2B81D), (0x2B820, 0x2CEAD), (0x2CEB0, 0x2EBE0),
  (0x2EBF0, 0x2EE5D), (0x2F800, 0x2FA1D), (0x30000, 0x3134A), (0x31350, 0x33479)]

/-! ## Company -/

def nextLetter (cs : List Char) (p : Char → Bool) : Bool := ((cs.dropWhile joinsThrough).head?.map p).getD false

def isJoiner : Char → Bool := inRanges [(0x200C, 0x200D)]

def isCompanion (c : Char) : Bool :=
  inRanges [(0xB7, 0xB7), (0x375, 0x375), (0x5F3, 0x5F4), (0x30FB, 0x30FB)] c ||
    isArabicDigit c || isExtendedDigit c

/-- Whether a character that is bound to its surroundings may stand between those before it, the last
first, and those behind it. -/
def fitsBetween (label before : List Char) (c : Char) (behind : List Char) : Bool :=
  let last (p : Char → Bool) : Bool := (before.head?.map p).getD false
  let next (p : Char → Bool) : Bool := (behind.head?.map p).getD false
  match c.toNat with
  | 0x200C =>
    last isVowelKiller || !last isLittleKnown && nextLetter before joinsBehind && nextLetter behind joinsBefore
  | 0x200D => last isVowelKiller
  | 0xB7 => last (· == 'l') && next (· == 'l')
  | 0x375 => next isGreek
  | 0x5F3 | 0x5F4 => last isHebrew
  | 0x30FB => label.any isHanOrKana
  | _ =>
    if isArabicDigit c then !label.any isExtendedDigit
    else isExtendedDigit c && !label.any isArabicDigit

/-! ## Faults -/

/-- Why a text is no label. Places count from one. -/
inductive LabelFault
  | empty
  | notComposed
  | innerHyphens
  | outerHyphens
  | leadingMark
  | joiner (place : Nat)
  | company (place : Nat)
  | character (place : Nat)
  | flow (fault : FlowFault)
deriving Repr, DecidableEq

/-- What is at fault with one character of a label, between those before it, the last first, and those
behind it. -/
def characterFault? (label before : List Char) (c : Char) (behind : List Char) : Option LabelFault :=
  let place := before.length + 1
  if inName c || isLittleKnown c then none
  else if fitsBetween label before c behind then none
  else if isJoiner c then some (.joiner place)
  else if isCompanion c then some (.company place)
  else some (.character place)

def charactersFault? (label before : List Char) : List Char → Option LabelFault
  | [] => none
  | c :: behind => (characterFault? label before c behind).or (charactersFault? label (c :: before) behind)

/-- What is at fault with the ends of a label and its hyphens, which stand neither at an end nor together
in the third and fourth place. -/
def edgeFault? (label : List Char) : Option LabelFault :=
  if (label.drop 2).take 2 == ['-', '-'] then some .innerHyphens
  else if label.head? == some '-' || label.getLast? == some '-' then some .outerHyphens
  else if (label.head?.map isMark).getD false then some .leadingMark
  else none

def labelFault? (label : List Char) : Option LabelFault :=
  if label.isEmpty then some .empty
  else if !isComposed label then some .notComposed
  else (edgeFault? label).or <| (charactersFault? label [] label).or <|
    (flowFault? (label.map Flow.of)).map .flow

/-! ## Words -/

def numberShown (n : Nat) : String := "U+" ++ String.ofList ((hex 4 n).map Char.toUpper)

def FlowFault.message (shown : String) : FlowFault → String
  | unknown place => s!"Unknown directionality in label {shown} at position {place}"
  | first => s!"First codepoint in label {shown} must be directionality L, R or AL"
  | turned true place => s!"Invalid direction for codepoint at position {place} in a right-to-left label"
  | turned false place => s!"Invalid direction for codepoint at position {place} in a left-to-right label"
  | numerals => "Can not mix numeral types in a right-to-left label"
  | last => "Label ends with illegal codepoint directionality"

def LabelFault.message (numbers : List Nat) (fault : LabelFault) : String :=
  let shown := quotedNumbers numbers
  let numberAt (place : Nat) : String := numberShown (numbers.getD (place - 1) 0)
  match fault with
  | empty => "Empty Label"
  | notComposed => "Label must be in Normalization Form C"
  | innerHyphens => "Label has disallowed hyphens in 3rd and 4th position"
  | outerHyphens => "Label must not start or end with a hyphen"
  | leadingMark => "Label begins with an illegal combining character"
  | joiner place => s!"Unknown codepoint adjacent to joiner {numberAt place} at position {place} in {shown}"
  | company place => s!"Codepoint {numberAt place} not allowed at position {place} in {shown}"
  | character place => s!"Codepoint {numberAt place} at position {place} of {shown} not allowed"
  | flow fault => fault.message shown

end LineShell.Http
