import LineShell.Command

/-!
# Registry

The commands that a terminal knows, in the order of their registration. No name is registered twice.
-/

namespace LineShell

structure Registry where
  commands : List Command := []

namespace Registry

def find? (name : String) (r : Registry) : Option Command := r.commands.find? (·.name == name)

/-- The command of a name, or the failure that names it with a hint. -/
def get (name : String) (hint : Option String) (r : Registry) : Except Failure Command :=
  match r.find? name with
  | some command => .ok command
  | none => .error (.commandNotFound name hint)

def contains (name : String) (r : Registry) : Bool := (r.find? name).isSome

def summaries (r : Registry) : List Summary := r.commands.map Command.summary

def size (r : Registry) : Nat := r.commands.length

/-- Registers a command; a name that is taken is refused. -/
def register (command : Command) (r : Registry) : Except Failure Registry :=
  if r.contains command.name then .error (.duplicateCommand command.name)
  else .ok { commands := r.commands ++ [command] }

/-- Registers commands one by one until one is refused. -/
def registerAll : List Command → Registry → Option Failure × Registry
  | [], r => (none, r)
  | command :: rest, r =>
    match r.register command with
    | .ok r => registerAll rest r
    | .error failure => (some failure, r)

end Registry

end LineShell
