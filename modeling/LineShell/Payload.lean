import LineShell.Json.Value
import LineShell.Number.Numeral

/-!
# Payloads

The answers that the backend gives, and how they are read from JSON. Reading is lenient about how a
truth value or a whole number is written, and reports every field that cannot be read.
-/

namespace LineShell

/-! ## Answers -/

structure PingAnswer where
  success : Bool
  message : String
deriving Repr, DecidableEq

structure SystemInfo where
  os : String
  host : String
  kernel : String
  uptime : String
  memory : String
deriving Repr, DecidableEq

def SystemInfo.render (info : SystemInfo) : String :=
  s!"Sistema Operativo: {info.os}\nHostname: {info.host}\nKernel: {info.kernel}\n" ++
    s!"Uptime: {info.uptime}\nMemoria: {info.memory}"

structure Health where
  status : String
  message : String
  timestamp : String
deriving Repr, DecidableEq

structure EntityList where
  code : Option Int
  success : Bool
  names : Option (List String)
deriving Repr, DecidableEq

/-! ## Readings -/

/-- A value, or the places at which it could not be read. -/
inductive Checked (α : Type)
  | good (value : α)
  | bad (faults : List String)
deriving Repr

namespace Checked

/-- Applies a reading to one more field; the faults of both sides are kept in order. -/
def andField (f : Checked (α → β)) (a : Checked α) : Checked β :=
  match f, a with
  | good f, good a => good (f a)
  | good _, bad faults => bad faults
  | bad faults, good _ => bad faults
  | bad faults, bad more => bad (faults ++ more)

def map (f : α → β) : Checked α → Checked β
  | good a => good (f a)
  | bad faults => bad faults

end Checked

namespace Payload

open Text

def truthOf? (word : String) : Option Bool :=
  let word := String.ofList (word.toList.map Char.toLower)
  if ["1", "on", "t", "true", "y", "yes"].contains word then some true
  else if ["0", "off", "f", "false", "n", "no"].contains word then some false
  else none

def bool? : Json → Option Bool
  | .bool b => some b
  | .int n => if n == 0 then some false else if n == 1 then some true else none
  | .float x => if x.equalsWhole 0 then some false else if x.equalsWhole 1 then some true else none
  | .string s => truthOf? s
  | _ => none

/-- A numeral from its first digit that is not zero on, or from a minus sign behind a zero. A low line may
stand anywhere behind the first zero. Of zeros alone, and of zeros before a point, the last one stays. -/
def withoutZeros? : List Char → Option (List Char)
  | '0' :: cs => go '0' cs
  | c :: cs => if opensDigits c then some (c :: cs) else none
  | [] => none
where
  opensDigits (c : Char) : Bool := '1' ≤ c && c ≤ '9'
  go (before : Char) : List Char → Option (List Char)
    | [] => if before == '0' then some ['0'] else none
    | '.' :: cs => some (before :: '.' :: cs)
    | c :: cs =>
      if c == '0' || c == '_' then go c cs
      else if opensDigits c || c == '-' then some (c :: cs)
      else none

def withoutPlaces (cs : List Char) : List Char :=
  match cutChars (· == '.') cs with
  | [whole, places] => if !places.isEmpty && places.all (· == '0') then whole else cs
  | _ => cs

/-- A numeral without its low lines, unless one stands at an end or beside another. -/
def withoutLines (cs : List Char) : List Char :=
  if (cutChars (· == '_') cs).any (·.isEmpty) then cs else cs.filter (· != '_')

def plainDigits? (cs : List Char) : Option (List Nat) :=
  match cs.mapM asciiDigit? with
  | none | some [] => none
  | some (0 :: _ :: _) => none
  | some digits => some digits

/-- A whole number spelled in digits from `0` to `9`, with zeros in front and zeros after the point at most.
A sign may stand in front; a minus sign may also stand behind the zeros, but there is one minus sign at most.
There is a greatest number of digits. -/
def wholeOf? (text : String) : Option Int := do
  let (negative, cs) := Numeral.takeSign (trimChars isSpace text.toList)
  let cs ← withoutZeros? cs
  let (inner, cs) := Numeral.takeSign (withoutLines (withoutPlaces cs))
  let digits ← plainDigits? cs
  if negative && inner || Numeral.digitLimit < digits.length then none
  else some (Binary64.signed (negative || inner) (spelled digits))

def wholeBound : Int := 9223372036854775808

/-- A whole number. A number with a point counts if it is whole and below the bound. -/
def int? : Json → Option Int
  | .int n => some n
  | .bool b => some (if b then 1 else 0)
  | .float x => x.exactWhole?.filter fun n => -wholeBound < n && n < wholeBound
  | .string s => wholeOf? s
  | _ => none

/-- A text as the screen shows it, which has U+FFFD for a lone surrogate. -/
def text? : Json → Option String
  | .string s => some s
  | .raggedString text => some (mended text)
  | _ => none

/-! ## Fields -/

def required (read : Json → Option α) (name : String) (body : Json) : Checked α :=
  match (body.field? name).bind read with
  | some value => .good value
  | none => .bad [name]

def optional (read : Json → Option α) (standard : α) (name : String) (body : Json) : Checked α :=
  match body.field? name with
  | none => .good standard
  | some value =>
    match read value with
    | some value => .good value
    | none => .bad [name]

def orNull (read : Json → Option α) : Json → Option (Option α)
  | .null => some none
  | value => (read value).map some

def texts (name : String) (items : List Json) : Checked (List String) :=
  let faults := (List.range items.length).filter fun i => ((items[i]?).bind text?).isNone
  if faults.isEmpty then .good (items.filterMap text?) else .bad (faults.map fun i => s!"{name}.{i}")

def textList (name : String) (body : Json) : Checked (Option (List String)) :=
  match body.field? name with
  | none | some .null => .good none
  | some (.array items) => (texts name items).map some
  | some _ => .bad [name]

def ofObject (read : Json → Checked α) : Json → Checked α
  | body@(.object _) | body@(.raggedObject ..) => read body
  | _ => .bad [""]

/-! ## Payloads -/

def ping : Json → Checked PingAnswer := ofObject fun body =>
  (Checked.good PingAnswer.mk)
    |>.andField (required bool? "success" body)
    |>.andField (required text? "message" body)

def systemInfo : Json → Checked SystemInfo := ofObject fun body =>
  (Checked.good SystemInfo.mk)
    |>.andField (required text? "os" body)
    |>.andField (required text? "hostname" body)
    |>.andField (required text? "kernel" body)
    |>.andField (required text? "uptime" body)
    |>.andField (required text? "memory" body)

def health : Json → Checked Health := ofObject fun body =>
  (Checked.good Health.mk)
    |>.andField (required text? "status" body)
    |>.andField (required text? "message" body)
    |>.andField (required text? "timestamp" body)

def entities : Json → Checked EntityList := ofObject fun body =>
  (Checked.good EntityList.mk)
    |>.andField (optional (orNull int?) none "code" body)
    |>.andField (optional bool? false "success" body)
    |>.andField (textList "data" body)

end Payload

end LineShell
