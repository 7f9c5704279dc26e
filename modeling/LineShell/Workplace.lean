import LineShell.Catalog
import LineShell.Connection
import LineShell.Interpreter

/-!
# Workplace

A terminal with the commands of the catalog, as the settings describe it.
-/

namespace LineShell

structure Workplace where
  registry : Registry
  terminal : Terminal
  apiRoot : String

namespace Workplace

/-- The workplace of settings. There is none when they give no connection to the backend. -/
def ofSettings (settings : Settings) (backend : Backend) (clock : Clock) : Except Failure Workplace := do
  let connection ← Connection.ofSettings settings
  let endpoints := Endpoints.ofSettings settings settings.host
  pure {
    registry := .standard homeEntries endpoints
    terminal := {
      session := { user := settings.user, host := settings.host }
      bus := some {}
      client := connection.client
      backend
      clock }
    apiRoot := endpoints.apiRoot }

def withTerminal (t : Terminal) (w : Workplace) : Workplace := { w with terminal := t }

def execute (typed : String) (w : Workplace) : String × Workplace :=
  let (output, t) := w.registry.execute typed w.terminal
  (output, w.withTerminal t)

def browse (direction : Direction) (w : Workplace) : String × Workplace :=
  let (line, t) := w.terminal.browse direction
  (line, w.withTerminal t)

end Workplace

end LineShell
