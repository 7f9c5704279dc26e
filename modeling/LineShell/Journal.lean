/-!
# Journal

The entries that the parts of the terminal write while they work.
-/

namespace LineShell

inductive Level
  | debug
  | info
  | warning
  | error
deriving Repr, DecidableEq

def Level.name : Level → String
  | .debug => "DEBUG"
  | .info => "INFO"
  | .warning => "WARNING"
  | .error => "ERROR"

structure Entry where
  level : Level
  text : String
deriving Repr, DecidableEq

end LineShell
