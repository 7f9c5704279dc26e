import LineShell.Text.Cut

/-!
# Routes

The paths under which a service answers, and the method that each asks for.
-/

namespace LineShell.Api

open Text

inductive Route
  | ping
  | systemInfo
  | health
  | entities
  | execute
  | history
  | browse
  | call (endpoint : String)
deriving Repr, DecidableEq

namespace Route

def method : Route → String
  | execute | call _ => "POST"
  | ping | systemInfo | health | entities | history | browse => "GET"

def fixed : List (String × Route) := [
  ("/api/ping", ping), ("/api/system-info", systemInfo), ("/api/health", health),
  ("/terminal/listamaschere", entities), ("/terminal/execute", execute),
  ("/terminal/history", history), ("/terminal/recall", browse)]

def callPath : List Char := "/terminal/call/".toList

def withoutNewline (path : List Char) : List Char :=
  if path.getLast? == some '\n' then path.dropLast else path

/-- The route of a path. An endpoint may hold any characters but newlines. -/
def find? (path : String) : Option Route :=
  let cs := withoutNewline path.toList
  match fixed.lookup (String.ofList cs) with
  | some route => some route
  | none =>
    let endpoint := cs.drop callPath.length
    if callPath.isPrefixOf cs && !endpoint.contains '\n' then some (call (String.ofList endpoint)) else none

/-- The path that differs by the slashes at the end: without them, or with one when there are none. -/
def otherSlash (path : String) : String :=
  if path.toList.getLast? == some '/' then dropTrailing '/' path else path ++ "/"

def referred? (path : String) : Option Route :=
  if path == "/" then none else find? (otherSlash path)

end Route

end LineShell.Api
