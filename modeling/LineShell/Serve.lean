import LineShell.Arguments
import LineShell.Settings

/-!
# Serving

How the server of the terminal is started: its command line, and what the environment says where the
command line says nothing.
-/

namespace LineShell

/-- What is served, and where. There is no host or no socket when the command line has the divider in
place of its value. -/
structure Serving where
  app : String := "webterm.main:app"
  host : Option String := some "127.0.0.1"
  socket : Option Int := some 8000
  reload : Bool := false
deriving Repr, DecidableEq

namespace Serving

open Arguments

def socketRefusal (text : String) : Option String :=
  match Numeral.integer text with
  | .ok _ => none
  | .error _ => some ("invalid int value: " ++ Text.quoted text)

def specs : List Spec := [
  helpSpec, ⟨["--host"], .value fun _ => none⟩, ⟨["--port"], .value socketRefusal⟩, ⟨["--reload"], .switch⟩]

def onWords : List String := ["1", "true", "True"]

/-- What the environment says. Where it gives no number for the socket, nothing is served, whatever
the command line says. -/
def ofEnvironment (env : Environment) : Except Failure Serving := do
  let standard : Serving := {}
  let socket ← match env.lookup "PORT" with
    | none => .ok standard.socket
    | some text => ((Numeral.integer text).map some).mapError .numeral
  pure { standard with
    host := (env.lookup "HOST").or standard.host
    socket
    reload := ((env.lookup "RELOAD").map onWords.contains).getD standard.reload }

def start (env : Environment) (words : List String) : Except Stop Serving := do
  let standard ← (ofEnvironment env).mapError .failed
  let given ← options "webterm-serve" specs words
  pure { standard with
    host := (given.lookup "--host").getD standard.host
    socket := match given.lookup "--port" with
      | none => standard.socket
      | some value => value.bind fun text => (Numeral.integer text).toOption
    reload := standard.reload || (given.lookup "--reload").isSome }

end Serving

end LineShell
