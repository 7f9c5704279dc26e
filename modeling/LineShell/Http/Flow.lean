import LineShell.Http.Joining
import LineShell.Text.Digit

/-!
# Flow

Which way the characters of a name run, and what is at fault with a label that runs both ways.
-/

namespace LineShell.Http

open Text

/-! ## Characters -/

inductive Flow
  | leftToRight
  | rightToLeft
  | digit
  | arabicDigit
  | mark
  | neutral
  | unknown
deriving Repr, DecidableEq

def isArabicDigit : Char → Bool := inRanges [(0x660, 0x669)]

def isExtendedDigit : Char → Bool := inRanges [(0x6F0, 0x6F9)]

def isRightToLeft : Char → Bool :=
  inRanges [(0x590, 0x8FF), (0xFB1D, 0xFDFF), (0xFE70, 0xFEFF), (0x10800, 0x10FFF), (0x1E800, 0x1EFFF)]

def isNeutral : Char → Bool :=
  inRanges [(0x2D, 0x2D), (0xB7, 0xB7), (0x2B9, 0x2BA), (0x2C6, 0x2CF), (0x2EC, 0x2EC), (0x375, 0x375),
    (0x200C, 0x200D), (0x2E2F, 0x2E2F), (0x30FB, 0x30FB), (0xA67F, 0xA67F), (0xA717, 0xA71F), (0xA788, 0xA788)]

def littleKnown : List (Nat × Nat) := [
  (0x88F, 0x88F), (0x897, 0x897), (0xC5C, 0xC5C), (0xCDC, 0xCDC), (0xCF3, 0xCF3), (0xECE, 0xECE),
  (0x1ACF, 0x1ADD), (0x1AE0, 0x1AEB), (0x1C8A, 0x1C8A), (0xA7CD, 0xA7CD), (0xA7CF, 0xA7CF),
  (0xA7DB, 0xA7DB), (0x105C0, 0x105F3), (0x10940, 0x10959), (0x10D40, 0x10D4F), (0x10D69, 0x10D6D),
  (0x10D6F, 0x10D85), (0x10EC2, 0x10EC7), (0x10EFA, 0x10EFF), (0x1123F, 0x11241), (0x11380, 0x11389),
  (0x1138B, 0x1138B), (0x1138E, 0x1138E), (0x11390, 0x113B5), (0x113B7, 0x113C0), (0x113C2, 0x113C2),
  (0x113C5, 0x113C5), (0x113C7, 0x113CA), (0x113CC, 0x113D3), (0x113E1, 0x113E2), (0x116D0, 0x116E3),
  (0x11B60, 0x11B67), (0x11BC0, 0x11BE0), (0x11BF0, 0x11BF9), (0x11DB0, 0x11DDB), (0x11DE0, 0x11DE9),
  (0x11F00, 0x11F10), (0x11F12, 0x11F3A), (0x11F3E, 0x11F42), (0x11F50, 0x11F5A), (0x1342F, 0x1342F),
  (0x13440, 0x13455), (0x13460, 0x143FA), (0x16100, 0x16139), (0x16D40, 0x16D6C), (0x16D70, 0x16D79),
  (0x16EBB, 0x16ED3), (0x16FF2, 0x16FF3), (0x187F8, 0x187FF), (0x18CFF, 0x18CFF), (0x18D09, 0x18D1E),
  (0x18D80, 0x18DF2), (0x1B132, 0x1B132), (0x1B155, 0x1B155), (0x1DF25, 0x1DF2A), (0x1E08F, 0x1E08F),
  (0x1E4D0, 0x1E4F9), (0x1E5D0, 0x1E5FA), (0x1E6C0, 0x1E6DE), (0x1E6E0, 0x1E6F5), (0x1E6FE, 0x1E6FF),
  (0x2B739, 0x2B73F), (0x2CEA2, 0x2CEAD), (0x2EBF0, 0x2EE5D), (0x31350, 0x33479)]

def isLittleKnown : Char → Bool := inRanges littleKnown

def Flow.of (c : Char) : Flow :=
  if isLittleKnown c then unknown
  else if (asciiDigit? c).isSome || isExtendedDigit c then digit
  else if isArabicDigit c || inRanges [(0x10D30, 0x10D39)] c then arabicDigit
  else if isNonspacing c then mark
  else if isNeutral c then neutral
  else if isRightToLeft c then rightToLeft
  else leftToRight

/-! ## Labels -/

/-- What is at fault with the flow of a label. Places count from one. -/
inductive FlowFault
  | unknown (place : Nat)
  | first
  | turned (rightToLeft : Bool) (place : Nat)
  | numerals
  | last
deriving Repr, DecidableEq

/-- What is at fault within a label from right to left, from a place on, behind digits of the given kind:
it holds no character of the other direction, and digits of one kind only. -/
def rightToLeftFault? (place : Nat) (digits : Option Flow) : List Flow → Option FlowFault
  | [] => none
  | .leftToRight :: _ => some (.turned true place)
  | way :: ways =>
    if way != .digit && way != .arabicDigit then rightToLeftFault? (place + 1) digits ways
    else if digits.all (· == way) then rightToLeftFault? (place + 1) (some way) ways
    else some .numerals

/-- What is at fault at the end of a label from right to left: there stands a letter or digit before the
marks. -/
def endFault? (ways : List Flow) : Option FlowFault :=
  let ending := (ways.reverse.dropWhile (· == .mark)).headD .neutral
  if [.rightToLeft, .digit, .arabicDigit].contains ending then none else some .last

def turns (way : Flow) : Bool := way == .rightToLeft || way == .arabicDigit

/-- What is at fault with the ways in which the characters of a label run. Only a label with a character
from right to left is bound: it starts with a letter, and what runs the other way than this one is at
fault. -/
def flowFault? (ways : List Flow) : Option FlowFault :=
  match ways.findIdx? (· == .unknown) with
  | some i => some (.unknown (i + 1))
  | none =>
    if !ways.any turns then none
    else match ways.head? with
      | some .rightToLeft => (rightToLeftFault? 1 none ways).or (endFault? ways)
      | some .leftToRight => (ways.findIdx? turns).map fun i => .turned false (i + 1)
      | _ => some .first

end LineShell.Http
