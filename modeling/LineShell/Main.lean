import LineShell.Console.Shell
import Std.Time

/-!
# Program

The shell on the standard streams: it prints texts without their styles, and reaches no backend.
-/

namespace LineShell.Program

def variableNames : List String := [
  "WEBTERM_USER", "WEBTERM_HOSTNAME", "WEBTERM_BACKEND_URL", "WEBTERM_API_PREFIX", "WEBTERM_ENTITIES_PATH",
  "WEBTERM_API_TOKEN", "WEBTERM_TIMEOUT", "WEBTERM_THEME"]

def environment : IO Environment :=
  variableNames.filterMapM fun name => do
    let value ← IO.getEnv name
    pure (value.map (name, ·))

def now : IO Moment := do
  let t ← Std.Time.PlainDateTime.now
  pure {
    year := t.year.toInt.toNat
    month := t.month.toNat
    day := t.day.toNat
    hour := t.hour.toNat
    minute := t.minute.toNat
    second := t.second.toNat }

def display (prompt : String) : ConsoleEvent → IO Unit
  | .opened _ | .changeTheme _ => pure ()
  | .rule text | .print text => IO.println text.plain
  | .clear => IO.print "\x1b[2J\x1b[H"
  | .input _ => do
    IO.print s!"{prompt} "
    (← IO.getStdout).flush

def flush (s : Shell) : IO Shell := do
  for event in s.events do
    display s.workplace.terminal.session.prompt event
  pure { s with events := [] }

def atMoment (moment : Moment) (s : Shell) : Shell :=
  { s with workplace := s.workplace.withTerminal { s.workplace.terminal with clock := .stopped moment } }

partial def converse (input : IO.FS.Stream) (s : Shell) : IO Unit := do
  let s ← flush s.ask
  let line ← input.getLine
  if line.isEmpty then return
  match (atMoment (← now) s).respond (.line (Text.dropTrailing '\n' line)) with
  | none => return
  | some s => converse input s

def fail (status : UInt32) (line : String) : IO UInt32 := do
  IO.eprintln line
  pure status

/-- Shows what the console was told, and gives the status of a program that ends so. -/
def conclude (prompt : String) (events : List ConsoleEvent) (status : Except Failure Nat) : IO UInt32 := do
  for event in events do
    display prompt event
  match status with
  | .ok status => pure status.toUInt32
  | .error failure => fail 1 failure.message

def run (plan : ShellPlan) (w : Except Failure Workplace) : IO UInt32 := do
  match plan.command, w with
  | none, .ok w =>
    converse (← IO.getStdin) (Shell.opened plan.theme w).title.greet
    pure 0
  | _, w =>
    let (events, status) := Shell.run plan w [] false
    conclude "" events status

end LineShell.Program

open LineShell Program in
def main (args : List String) : IO UInt32 := do
  let env ← environment
  match Settings.ofEnvironment env, ShellPlan.ofArguments env args with
  | .error failure, _ | _, .error (.failed failure) => fail 1 failure.message
  | _, .error .help => pure 0
  | _, .error (.usage line) => fail 2 line
  | .ok settings, .ok plan => run plan (Workplace.ofSettings settings Backend.absent (.stopped (← now)))
