import LineShell.Console.Theme
import LineShell.Markup

/-!
# Screen

How a console keeps showing the transcript. It remembers which lines it has printed; a transcript
that extends them is shown by printing the rest, and every other one by starting afresh.
-/

namespace LineShell

/-! ## What a console is told -/

inductive ConsoleEvent
  | opened (theme : Theme)
  | rule (title : StyledText)
  | print (text : StyledText)
  | clear
  | changeTheme (theme : Theme)
  | input (markup : String)
deriving Repr, DecidableEq

/-! ## Following the transcript -/

/-- A console that follows the transcript: the lines it has printed since it was last cleared. -/
structure Screen where
  printed : List String := []
deriving Repr, DecidableEq

namespace Screen

def printLines (lines : List String) : List ConsoleEvent := lines.map fun line => .print (renderLine line)

def redraw (snapshot : List String) : List ConsoleEvent × Screen :=
  (.clear :: printLines snapshot, ⟨snapshot⟩)

/-- Shows a transcript, of which as much as possible may stand on the screen already. -/
def present (snapshot : List String) (screen : Screen) : List ConsoleEvent × Screen :=
  if screen.printed.isPrefixOf snapshot then
    (printLines (snapshot.drop screen.printed.length), ⟨snapshot⟩)
  else redraw snapshot

def presentAll : List (List String) → Screen → List (List ConsoleEvent)
  | [], _ => []
  | snapshot :: rest, screen =>
    let (events, screen) := screen.present snapshot
    events :: presentAll rest screen

end Screen

end LineShell
