import LineShell.Clock
import LineShell.Entities
import LineShell.Failure
import LineShell.Payload

/-!
# Machine

The machine on which a backend runs, as the operating system tells about it, and what the backend
makes of that: whether a host is known, and a description of the machine.
-/

namespace LineShell

open Text

inductive Resolution
  | address (text : String)
  | unknown
  | failed (failure : Failure)
deriving Repr

/-- What the operating system tells. The texts about uptime and memory may be unreadable. -/
structure Machine where
  resolve : String → Resolution := fun _ => .unknown
  uptime : Option String := some "187952.31 1.0\n"
  memory : Option String := some "MemTotal: 8178892 kB\nMemFree: 1 kB\nMemAvailable: 4823192 kB\n"
  system : String := "Linux"
  release : String := "6.1.0"
  node : String := "devbox"
  version : String := "#1 SMP"
  now : Moment := { year := 2024, month := 3, day := 7, hour := 9, minute := 5, second := 3 }

namespace Machine

def unknown : String := "sconosciuto"

def orUnknown (text : String) : String := if text.isEmpty then unknown else text

/-! ## Uptime -/

def uptimeOfSeconds (seconds : Int) : String :=
  let days := seconds / 86400
  let hours := seconds % 86400 / 3600
  let minutes := seconds % 3600 / 60
  s!"{days} giorni, {hours} ore, {minutes} minuti"

/-- How long the machine runs, by the first word of the text. There is no description of an infinite
time. -/
def readUptime (text : Option String) : Option String :=
  match (text.bind fun text => (words text).head?).bind Numeral.real? with
  | some (.infinite _) => none
  | some x => some ((x.wholePart?.map uptimeOfSeconds).getD unknown)
  | none => some unknown

/-! ## Memory -/

def memoryField? (line : String) : Option (String × Int) := do
  let (name, rest) := cutFirst (· == ':') line.toList
  let word ← (words (String.ofList rest)).head?
  let value ← (Numeral.integer word).toOption
  pure (String.ofList name, value)

def memoryFields? (text : String) : Option (List (String × Int)) := (physicalLines text).mapM memoryField?

/-- The number nearest to a ratio; none if the divisor is zero or the ratio out of range. -/
def ratio? (num den : Int) : Option Binary64 :=
  if den == 0 then none else
    match Binary64.ofRatio ((num < 0) != (den < 0)) num.natAbs den.natAbs with
    | .infinite _ => none
    | x => some x

/-- Two amounts in the unit of the text as binary gigabytes, and their percentage. -/
def describeMemory (used total : Int) : Option String := do
  let unit := 1024 * 1024
  let part ← ratio? used unit
  let whole ← ratio? total unit
  let share ← ratio? (used * 100) total
  let percent ← share.nearestWhole?
  pure s!"{part.onePlace}G / {whole.onePlace}G ({percent}%)"

/-- How much memory is in use. There is no description of shares of nothing. -/
def readMemory (text : Option String) : Option String :=
  match text.bind memoryFields? with
  | none => some unknown
  | some fields =>
    -- A field that stands twice has the value of its last line.
    match fields.reverse.lookup "MemTotal", fields.reverse.lookup "MemAvailable" with
    | some total, some available => describeMemory (total - available) total
    | _, _ => some unknown

/-! ## Answers -/

def ping (host : String) (m : Machine) : Except Failure PingAnswer :=
  match m.resolve host with
  | .address address => .ok ⟨true, s!"PING {host} ({address}): host raggiungibile"⟩
  | .unknown => .ok ⟨false, s!"ping: {host}: Name or service not known"⟩
  | .failed failure => .error failure

def systemInfo (m : Machine) : Option SystemInfo := do
  let uptime ← readUptime m.uptime
  let memory ← readMemory m.memory
  pure {
    os := orUnknown (strip s!"{m.system} {m.release}")
    host := orUnknown m.node
    kernel := orUnknown m.version
    uptime
    memory }

def health (m : Machine) : Health := ⟨"ok", "Backend operativo", m.now.stamp⟩

def entities : EntityList := ⟨some 200, true, some localEntities⟩

end Machine

end LineShell
