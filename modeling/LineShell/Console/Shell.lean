import LineShell.Arguments
import LineShell.Console.Prompt
import LineShell.Console.Screen
import LineShell.Text.Capital
import LineShell.Workplace

/-!
# Shell

The interactive terminal on a console. A typed line is executed; one that starts with a colon speaks
to the console itself. The console shows the transcript by watching it, and listens on the event bus
for entities that are used and for changes of the theme.
-/

namespace LineShell

open Text

/-! ## Command line -/

structure ShellPlan where
  theme : Theme
  command : Option Arguments.Value := none
deriving Repr, DecidableEq

namespace ShellPlan

open Arguments

def themeRefusal (text : String) : Option String :=
  if (Theme.all.map Theme.name).contains text then none else
    let choices := join ", " (Theme.all.map fun theme => quoted theme.name)
    some s!"invalid choice: {quoted text} (choose from {choices})"

def specs : List Spec := [
  helpSpec, ⟨["--theme"], .value themeRefusal⟩, ⟨["-c", "--command"], .value fun _ => none⟩,
  ⟨["--log-level"], .value fun _ => none⟩]

def levels : List String :=
  ["CRITICAL", "FATAL", "ERROR", "WARN", "WARNING", "INFO", "DEBUG", "NOTSET"]

def standardLevel : String := "WARNING"

def levelFailure? : Value → Option Failure
  | none => some (.valueMissing "upper")
  | some text =>
    let level := capitals text
    if levels.contains level then none else some (.unknownLevel level)

def ofArguments (env : Environment) (words : List String) : Except Stop ShellPlan := do
  let given ← options "webterm" specs words
  match levelFailure? ((given.lookup "--log-level").getD (some standardLevel)) with
  | some failure => .error (.failed failure)
  | none => pure { theme := .resolve env (given.lookup "--theme").join, command := given.lookup "--command" }

end ShellPlan

/-! ## Lines to the console -/

inductive Typed
  | line (text : String)
  | interrupt
deriving Repr, DecidableEq

inductive ConsoleLine
  | browse (direction : Direction)
  | activate (name : String)
  | controls
  | theme (name : Option String)
  | unknown
deriving Repr, DecidableEq

/-- What the text after the colon asks for: a word, and the rest after a space. -/
def ConsoleLine.parse (text : List Char) : ConsoleLine :=
  let (word, rest) := cutFirst (· == ' ') text
  let argument := strip (String.ofList rest)
  let argument? := if argument.isEmpty then none else some argument
  match String.ofList word, argument? with
  | "up", _ => .browse .up
  | "down", _ => .browse .down
  | "use", some name => .activate name
  | "use", none => .controls
  | "theme", name => .theme name
  | _, _ => .unknown

inductive ShellLine
  | leave
  | console (text : String) (line : ConsoleLine)
  | command (text : String)
deriving Repr, DecidableEq

def leaveWords : List String := ["exit", "quit"]

def ShellLine.parse (typed : String) : ShellLine :=
  let text := strip typed
  if leaveWords.contains text then .leave
  else match text.toList with
    | ':' :: rest => .console text (.parse rest)
    | _ => .command typed

/-! ## State -/

def themeTopic : String := "theme.changed"

def screenName : String := "screen"

/-- The state of the shell: the workplace, the theme that lines of the console change, what stands on
the screen, and all that the console was told. -/
structure Shell where
  workplace : Workplace
  theme : Theme
  screen : Screen := {}
  events : List ConsoleEvent := []

namespace Shell

/-! ## Console -/

def tell (events : List ConsoleEvent) (s : Shell) : Shell := { s with events := s.events ++ events }

def say (style text : String) (s : Shell) : Shell := s.tell [.print (.ofStyle style text)]

def present (snapshot : List String) (s : Shell) : Shell :=
  let (events, screen) := s.screen.present snapshot
  { s with screen }.tell events

def redraw (snapshot : List String) (s : Shell) : Shell :=
  let (events, screen) := Screen.redraw snapshot
  { s with screen }.tell events

def heed (s : Shell) : Notice → Shell
  | .shown _ lines => s.present lines
  | .message listener payload =>
    if listener == themeTopic then
      (s.tell [.changeTheme (.ofName payload)]).redraw s.workplace.terminal.session.transcript
    else s.say "ansi.gray" s!"→ utilizzo {payload}"

def attend (s : Shell) : Shell :=
  let t := s.workplace.terminal
  -- Taken off first: heeding a notice must not find it again.
  let s := { s with workplace := s.workplace.withTerminal { t with notices := [] } }
  t.notices.foldl heed s

def update (f : Terminal → Terminal) (s : Shell) : Shell :=
  attend { s with workplace := s.workplace.withTerminal (f s.workplace.terminal) }

/-! ## Lines -/

/-- The names that can be used, each once, in the order in which the transcript shows them. -/
def usable (transcript : List String) : List String := (entityControls (unlines transcript)).eraseDups

def runConsoleLine (text : String) (line : ConsoleLine) (s : Shell) : Shell :=
  match line with
  | .browse direction =>
    let (recalled, workplace) := s.workplace.browse direction
    { s with workplace }.say "ansi.gray" (if recalled.isEmpty then "(riga corrente)" else recalled)
  | .activate name => s.update fun t => (s.workplace.registry.activate name t).2
  | .controls =>
    match usable s.workplace.terminal.session.transcript with
    | [] => s.say "ansi.gray" "Nessuna entità da utilizzare"
    | names => s.say "entity.control" (join ", " names)
  | .theme name =>
    let theme := match name with
      | some name => Theme.ofName name
      | none => Theme.toggle s.theme.name
    { s with theme }.update (·.publish themeTopic theme.name)
  | .unknown => s.say "ansi.red" s!"{text}: comando console sconosciuto"

def runCommand (typed : String) (s : Shell) : Shell :=
  s.update fun t => (s.workplace.registry.execute typed t).2

def abandon (s : Shell) : Shell := s.update Terminal.cancel

def ask (s : Shell) : Shell := s.tell [.input (Prompt.markup s.workplace.terminal.session.prompt)]

/-- What one typed thing does; nothing comes of a word that leaves the shell. -/
def respond (typed : Typed) (s : Shell) : Option Shell :=
  match typed with
  | .interrupt => some s.abandon
  | .line typed =>
    match ShellLine.parse typed with
    | .leave => none
    | .console text line => some (s.runConsoleLine text line)
    | .command typed => some (s.runCommand typed)

/-- The dialogue: a prompt before each thing that is typed, up to a word that leaves or the end. -/
def dialogue : List Typed → Shell → Shell
  | [], s => s.ask
  | typed :: rest, s =>
    match s.ask.respond typed with
    | none => s.ask
    | some s => dialogue rest s

/-! ## Start -/

/-- A shell before anything is typed: the console watches the transcript and listens on the bus. -/
def opened (theme : Theme) (w : Workplace) : Shell :=
  let bus := (w.terminal.bus.getD {}).subscribe themeTopic themeTopic themeTopic
  let bus := bus.subscribe Registry.entityTopic Registry.entityTopic Registry.entityTopic
  -- The subscription itself shows what stands in the transcript already.
  let (_, t) := { w.terminal with bus := some bus }.subscribe { name := screenName }
  attend { workplace := w.withTerminal t, theme, events := [.opened theme] }

def title (s : Shell) : Shell :=
  s.tell [.rule (.ofStyle "header" s.workplace.terminal.session.header)]

def greet (s : Shell) : Shell :=
  s.say "ansi.gray" "Digita 'help' per la lista dei comandi, 'exit' per uscire."

def interruptedStatus : Nat := 130

def runIn (plan : ShellPlan) (w : Workplace) (typed : List Typed) (interrupted : Bool) :
    List ConsoleEvent × Except Failure Nat :=
  match plan.command with
  | some none => ([.opened plan.theme], .error (.valueMissing "strip"))
  | some (some command) => ([.opened plan.theme, .print (renderLine (w.execute command).1)], .ok 0)
  | none =>
    let s := (opened plan.theme w).title
    if interrupted then (s.events, .ok interruptedStatus) else ((dialogue typed s.greet).events, .ok 0)

/-- Runs the shell. Gives what the console was told, and the status or, when there is no workplace to
run in, the reason why. -/
def run (plan : ShellPlan) (w : Except Failure Workplace) (typed : List Typed) (interrupted : Bool) :
    List ConsoleEvent × Except Failure Nat :=
  match w with
  | .error failure => ([.opened plan.theme], .error failure)
  | .ok w => runIn plan w typed interrupted

end Shell

end LineShell
