import LineShell.Registry

/-!
# Interpreter

What a typed line means and what it does. A line is blank, the word `clear`, a chain of statements
parted by `;`, or one statement; a statement is one command or a pipeline parted by `|`. Every
failure becomes text.
-/

namespace LineShell

open Text

/-! ## Lines -/

/-- One command, or a pipeline whose later stages read what the one before them says. -/
inductive Statement
  | single (stage : Stage)
  | pipeline (first : Stage) (rest : List Stage)
deriving Repr, DecidableEq

def Statement.parse (text : String) : Statement :=
  if hasChar '|' text then
    -- The first case is for the type alone: a text has at least one piece.
    match (split '|' text).map Stage.parse with
    | [] => .single (Stage.parse text)
    | first :: rest => .pipeline first rest
  else .single (Stage.parse text)

inductive Line
  | blank
  | clear
  | run (text : String) (statements : List Statement)
deriving Repr, DecidableEq

def clearWord : String := "clear"

/-- The statements of a line without blanks at its ends. -/
def statementsOf (text : String) : List Statement :=
  if hasChar ';' text then ((split ';' text).filter (!isBlankLine ·)).map Statement.parse
  else [Statement.parse text]

def Line.parse (typed : String) : Line :=
  let text := strip typed
  if text.isEmpty then .blank
  else if text == clearWord then .clear
  else .run text (statementsOf text)

/-! ## Commands -/

def helpHint : String := "Digita 'help' per la lista dei comandi"

namespace Terminal

/-- The text that a failure of a command leaves; the journal tells apart what was expected. -/
def absorb (command : String) (failure : Failure) (t : Terminal) : String × Terminal :=
  let entry : Entry :=
    if failure.isExpected then ⟨.warning, s!"{command} failed: {failure.message}"⟩
    else ⟨.error, s!"Unexpected error in {command}: {failure.message}"⟩
  (failure.screenLine command, t.noteAll [entry])

def record (output : String) (t : Terminal) : Terminal :=
  if isBlankLine output then t else t.append output

end Terminal

namespace Registry

def call (r : Registry) (command : Command) (args : List String) (t : Terminal) : String × Terminal :=
  match command.handler { args, known := r.summaries } t with
  | (.ok output, t) => (output.getD "", t)
  | (.error failure, t) => t.absorb command.name failure

def filter (command : Command) (args : List String) (text : String) (t : Terminal) : String × Terminal :=
  match command.filter with
  | none => (s!"{command.name}: comando non supporta pipe", t)
  | some filter =>
    match filter args text with
    | .ok output => (output, t)
    | .error failure => t.absorb command.name failure

/-! ## Statements -/

def runFirst (r : Registry) (stage : Stage) (t : Terminal) : String × Terminal :=
  match r.get stage.name none with
  | .error failure => (failure.message, t)
  | .ok command => r.call command stage.args t

def runRest (r : Registry) : List Stage → String → Terminal → String × Terminal
  | [], text, t => (text, t)
  | stage :: rest, text, t =>
    match r.get stage.name none with
    | .error failure => runRest r rest failure.message t
    | .ok command =>
      let (text, t) := filter command stage.args text t
      runRest r rest text t

def runStatement (r : Registry) (statement : Statement) (t : Terminal) : String × Terminal :=
  match statement with
  | .pipeline first rest =>
    let (text, t) := r.runFirst first t
    r.runRest rest text t
  | .single stage =>
    -- Only a command that stands by itself is unknown with a hint; stages of pipelines go without.
    match r.get stage.name (some helpHint) with
    | .error failure => (failure.message, t.note .info s!"Unknown command: {stage.name}")
    | .ok command => r.call command stage.args t

def runStatements (r : Registry) : List Statement → Terminal → List String × Terminal
  | [], t => ([], t)
  | statement :: rest, t =>
    let (output, t) := r.runStatement statement t
    let (outputs, t) := runStatements r rest t
    (output :: outputs, t)

/-! ## Lines -/

def echo (text : String) (t : Terminal) : Terminal :=
  -- Kept first, so that a command that lists the typed lines lists this one too.
  let t := t.modifySession (.remember text)
  (t.append s!"{t.session.prompt} {text}").note .info s!"Executing: {text}"

/-- Runs the word that empties the transcript, through its command if there is one. -/
def runClear (r : Registry) (t : Terminal) : String × Terminal :=
  match r.find? clearWord with
  | none => ("", t.clear)
  | some command => r.call command [] t

def runLine (r : Registry) (line : Line) (t : Terminal) : String × Terminal :=
  match line with
  | .blank => ("", t)
  | .clear =>
    let (output, t) := r.runClear t
    (output, t.modifySession .resetCursor)
  | .run text statements =>
    let (outputs, t) := r.runStatements statements (echo text t)
    -- However many statements there are, what they say is one entry of the transcript.
    let output := unlines outputs
    (output, (t.record output).modifySession .resetCursor)

def execute (r : Registry) (typed : String) (t : Terminal) : String × Terminal :=
  r.runLine (Line.parse typed) t

def executeAll (r : Registry) : List String → Terminal → List String × Terminal
  | [], t => ([], t)
  | typed :: rest, t =>
    let (output, t) := r.execute typed t
    let (outputs, t) := executeAll r rest t
    (output :: outputs, t)

/-! ## Entities -/

def entityTopic : String := "entity.use"

/-- Uses the entity of a control: tells so, and executes `use` with its name. -/
def activate (r : Registry) (name : String) (t : Terminal) : String × Terminal :=
  r.execute s!"use {name}" (t.publish entityTopic name)

end Registry

end LineShell
