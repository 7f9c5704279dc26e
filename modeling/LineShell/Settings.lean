import LineShell.Failure

/-!
# Settings

What the environment says about the terminal.
-/

namespace LineShell

abbrev Environment := List (String × String)

structure Settings where
  user : String := "user"
  host : String := "linux-box"
  backendUrl : String := "http://127.0.0.1:8000"
  apiRoot : String := "/api"
  entitiesPath : String := "/terminal/listamaschere"
  apiToken : Option String := none
  timeout : Binary64 := .ofRatio false 10 1
deriving Repr

namespace Settings

def nonEmpty? (name : String) (env : Environment) : Option String :=
  (env.lookup name).filter (!·.isEmpty)

/-- A variable that holds a number; one that is empty counts as not set. -/
def number (name : String) (default : Binary64) (env : Environment) : Except Failure Binary64 :=
  match nonEmpty? name env with
  | none => .ok default
  | some text =>
    match Numeral.real? text with
    | some x => .ok x
    | none =>
      .error (.configuration s!"Environment variable {name} must be a number, got {Text.quoted text}")

def ofEnvironment (env : Environment) : Except Failure Settings := do
  let standard : Settings := {}
  let text (name default : String) : String := (env.lookup name).getD default
  let timeout ← number "WEBTERM_TIMEOUT" standard.timeout env
  pure {
    user := text "WEBTERM_USER" standard.user
    host := text "WEBTERM_HOSTNAME" standard.host
    backendUrl := text "WEBTERM_BACKEND_URL" standard.backendUrl
    apiRoot := text "WEBTERM_API_PREFIX" standard.apiRoot
    entitiesPath := text "WEBTERM_ENTITIES_PATH" standard.entitiesPath
    apiToken := nonEmpty? "WEBTERM_API_TOKEN" env
    timeout }

end Settings

end LineShell
