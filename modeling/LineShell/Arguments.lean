import LineShell.Failure
import LineShell.Text.Cut

/-!
# Arguments

Reading the options of a command line. Every word is first told apart by how it looks: an option, by
its name or by a beginning of its name that no other option shares, an operand, or something unknown.
Then the options take their values from left to right.
-/

namespace LineShell.Arguments

open Text

/-! ## Options -/

inductive Kind
  | help
  | switch
  | value (refusal : String → Option String)

structure Spec where
  names : List String
  kind : Kind

def Spec.takesValue (spec : Spec) : Bool :=
  match spec.kind with
  | .value _ => true
  | _ => false

def Spec.title (spec : Spec) : String := join "/" spec.names

def Spec.key (spec : Spec) : String := spec.names.getLastD ""

def Spec.refusal (spec : Spec) (reason : String) : String := s!"argument {spec.title}: {reason}"

def Spec.ignored (spec : Spec) (value : List Char) : String :=
  spec.refusal ("ignored explicit argument " ++ quoted (String.ofList value))

def helpSpec : Spec := ⟨["-h", "--help"], .help⟩

def find? (specs : List Spec) (name : String) : Option Spec := specs.find? (·.names.contains name)

/-! ## Words -/

def divider : String := "--"

/-- What a word of the command line looks like. An option may have a text attached in the same word,
after `=` or directly. -/
inductive Word
  | operand
  | divider
  | unknown
  | option (spec : Spec) (isLong : Bool) (attached : Option (List Char))

/-- Whether a text looks like a negative number, which is an operand. -/
def isNegativeNumber (text : String) : Bool :=
  let digits := dropNewline (text.toList.drop 1)
  match cutChars (· == '.') digits with
  | [whole] => !whole.isEmpty && whole.all isDecimal
  | [whole, places] => whole.all isDecimal && !places.isEmpty && places.all isDecimal
  | _ => false
where
  dropNewline (cs : List Char) : List Char := if cs.getLast? == some '\n' then cs.dropLast else cs

/-- The options that a beginning could mean, by name: any with a longer name behind two dashes, and
the option of one letter behind one. -/
def candidates (specs : List Spec) (cs : List Char) : List (String × Spec × Option (List Char)) :=
  let named := specs.flatMap fun spec => spec.names.map (·, spec)
  match cs with
  | '-' :: '-' :: _ =>
    let start := cs.takeWhile (· != '=')
    let attached := if cs.contains '=' then some (cutFirst (· == '=') cs).2 else none
    (named.filter fun (name, _) => start.isPrefixOf name.toList).map fun (name, spec) => (name, spec, attached)
  | '-' :: c :: rest =>
    (named.filter fun (name, _) => name.toList == ['-', c]).map fun (name, spec) => (name, spec, some rest)
  | _ => []

def isLongName (name : List Char) : Bool := "--".toList.isPrefixOf name

def classify (specs : List Spec) (text : String) : Except String Word :=
  let cs := text.toList
  if cs.head? != some '-' then .ok .operand else
  match find? specs text with
  | some spec => .ok (.option spec (isLongName cs) none)
  | none =>
    if cs == ['-'] then .ok .operand else
    let (name, value) := cutFirst (· == '=') cs
    match if cs.contains '=' then find? specs (String.ofList name) else none with
    | some spec => .ok (.option spec (isLongName name) (some value))
    | none =>
      match candidates specs cs with
      | [(name, spec, attached)] => .ok (.option spec (isLongName name.toList) attached)
      | [] => .ok (if isNegativeNumber text || hasChar ' ' text then .operand else .unknown)
      | several =>
        let names := join ", " (several.map (·.1))
        .error s!"ambiguous option: {text} could match {names}"

/-- Tells what the words are; behind a divider all are operands. -/
def classifyAll (specs : List Spec) : List String → Except String (List (String × Word))
  | [] => .ok []
  | "--" :: rest => .ok (("--", .divider) :: rest.map (·, .operand))
  | text :: rest => do
    let word ← classify specs text
    let words ← classifyAll specs rest
    pure ((text, word) :: words)

/-! ## Reading -/

structure Unfolded where
  taken : List (Spec × String) := []
  waiting : Option Spec := none

def Unfolded.after (spec : Spec) (u : Unfolded) : Unfolded := { u with taken := (spec, "") :: u.taken }

/-- Unfolds a word of short options, the first of which takes no value: every further character names
an option, up to one that takes what is left of the word for its value. -/
def unfoldShort (specs : List Spec) (spec : Spec) : List Char → Except String Unfolded
  | [] => .error (spec.ignored [])
  | c :: cs =>
    match find? specs (String.ofList ['-', c]), cs with
    | none, _ => .error (spec.ignored (c :: cs))
    | some next, [] =>
      .ok (if next.takesValue then { taken := [(spec, "")], waiting := some next }
        else { taken := [(spec, ""), (next, "")] })
    | some next, d :: value =>
      if next.takesValue then .ok { taken := [(spec, ""), (next, String.ofList (d :: value))] }
      else (unfoldShort specs next (d :: value)).map (·.after spec)

def unfold (specs : List Spec) (spec : Spec) (isLong : Bool) (attached : Option (List Char)) :
    Except String Unfolded :=
  match attached with
  | none => .ok (if spec.takesValue then { waiting := some spec } else { taken := [(spec, "")] })
  | some text =>
    if spec.takesValue then .ok { taken := [(spec, String.ofList text)] }
    else if isLong then .error (spec.ignored text)
    else unfoldShort specs spec text

/-- The value of an option that was given: its text, or nothing when the divider stands in its place. -/
abbrev Value := Option String

def Value.ofText (text : String) : Value := if text == divider then none else some text

structure Progress where
  given : List (String × Value) := []
  extras : List String := []

inductive Outcome
  | given (options : List (String × Value))
  | help
  | refused (reason : String)

/-- The reason why a value is refused; there is none when the divider stands in its place. -/
def refusalOf? (refusal : String → Option String) (value : Value) : Option String := value.bind refusal

def take (p : Progress) : List (Spec × String) → Except Outcome Progress
  | [] => .ok p
  | (spec, text) :: rest =>
    let value := Value.ofText text
    match spec.kind with
    | .help => .error .help
    | .switch => take { p with given := (spec.key, value) :: p.given } rest
    | .value refusal =>
      match refusalOf? refusal value with
      | some reason => .error (.refused (spec.refusal reason))
      | none => take { p with given := (spec.key, value) :: p.given } rest

def readWords (specs : List Spec) (p : Progress) : List (String × Word) → Except Outcome Progress
  | [] => .ok p
  | (_, .option spec isLong attached) :: rest =>
    match unfold specs spec isLong attached with
    | .error reason => .error (.refused reason)
    | .ok u =>
      match u.waiting, rest with
      | none, rest =>
        match take p u.taken with
        | .error outcome => .error outcome
        | .ok p => readWords specs p rest
      | some waiting, (text, .operand) :: rest =>
        match take p (u.taken ++ [(waiting, text)]) with
        | .error outcome => .error outcome
        | .ok p => readWords specs p rest
      | some waiting, _ => .error (.refused (waiting.refusal "expected one argument"))
  | (text, _) :: rest => readWords specs { p with extras := text :: p.extras } rest

def read (specs : List Spec) (words : List String) : Outcome :=
  match classifyAll specs words with
  | .error reason => .refused reason
  | .ok words =>
    match readWords specs {} words with
    | .error outcome => outcome
    | .ok p =>
      if p.extras.isEmpty then .given p.given
      else .refused ("unrecognized arguments: " ++ join " " p.extras.reverse)

/-! ## Programs -/

inductive Stop
  | help
  | usage (line : String)
  | failed (failure : Failure)
deriving Repr, DecidableEq

/-- The last line of the words in which a program refuses its command line. Newlines alone part it
from those before, and newlines at the end open no further one. -/
def usageLine (program reason : String) : String :=
  (lines (dropTrailing '\n' s!"{program}: error: {reason}")).getLastD ""

def options (program : String) (specs : List Spec) (words : List String) :
    Except Stop (List (String × Value)) :=
  match read specs words with
  | .given options => .ok options
  | .help => .error .help
  | .refused reason => .error (.usage (usageLine program reason))

end LineShell.Arguments
