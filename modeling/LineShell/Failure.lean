import LineShell.Http.Address
import LineShell.Http.Header

/-!
# Failures

What can go wrong while a line is interpreted or a setting is read, the words in which each failure
is told, and the line that a command's failure leaves on the screen.
-/

namespace LineShell

/-! ## Remote failures -/

inductive RemoteFault
  | unreachable
  | notFound
  | server
  | other
deriving Repr, DecidableEq

/-- The kind that a status shows. Status 0 means that nothing answered. -/
def RemoteFault.ofStatus (status : Int) : RemoteFault :=
  if status == 0 then .unreachable
  else if status == 404 then .notFound
  else if 500 ≤ status then .server
  else .other

structure RemoteFailure where
  fault : Option RemoteFault
  message : String
  status : Int := 0
  path : Option String := none
deriving Repr, DecidableEq

def RemoteFailure.ofStatus (status : Int) (message : String) (path : Option String) : RemoteFailure :=
  { fault := some (.ofStatus status), message, status, path }

/-! ## All failures -/

inductive Failure
  | commandNotFound (name : String) (hint : Option String)
  | duplicateCommand (name : String)
  | missingOperand (text : String)
  | invalidTarget (text : String)
  | terminal (text : String)
  | configuration (text : String)
  | application (text : String)
  | remote (failure : RemoteFailure)
  | numeral (cause : NumeralError)
  | unknownLevel (name : String)
  | unfitHeader (value : String)
  | unfitAddress (fault : Http.AddressFault)
  | unreadableHost (fault : Http.NameFault)
  | unknownKind (address : String)
  | unwritableNumber
  | wideNumber
  | deepNesting (inObject : Bool)
  | valueMissing (use : String)
  | unexpected (kind text : String)
deriving Repr, DecidableEq

namespace Failure

def message : Failure → String
  | .commandNotFound name hint =>
    match hint with
    | none | some "" => s!"{name}: comando non trovato"
    | some hint => s!"{name}: comando non trovato. {hint}"
  | .duplicateCommand name => s!"Command already registered: {name}"
  | .missingOperand text | .invalidTarget text | .terminal text => text
  | .configuration text | .application text => text
  | .remote failure => failure.message
  | .numeral cause => cause.message
  | .unknownLevel name => "Unknown level: " ++ Text.quoted name
  | .unfitHeader value => Http.headerRefusal value
  | .unfitAddress fault => fault.message
  | .unreadableHost fault => fault.message
  | .unknownKind address => "unknown url type: " ++ Text.quoted address
  | .unwritableNumber => "Out of range float values are not JSON compliant"
  | .wideNumber => "int too large to convert to float"
  | .deepNesting inObject =>
    let what := if inObject then "object" else "array"
    s!"maximum recursion depth exceeded while decoding a JSON {what} from a unicode string"
  | .valueMissing use => s!"'list' object has no attribute '{use}'"
  | .unexpected _ text => text

def isExpected : Failure → Bool
  | .commandNotFound .. | .duplicateCommand .. | .missingOperand .. | .invalidTarget .. => true
  | .terminal .. | .remote .. => true
  | .configuration .. | .application .. | .numeral .. | .unknownLevel .. | .unfitHeader .. => false
  | .unfitAddress .. | .unreadableHost .. | .unknownKind .. | .unwritableNumber | .wideNumber => false
  | .deepNesting .. | .valueMissing .. | .unexpected .. => false

def plainLine (command : String) (text : String) : String :=
  let text := if text.isEmpty then "Errore sconosciuto" else text
  s!"{command}: errore - {text}"

/-- The line that a failure of the command leaves. Failures that the terminal itself found speak for
themselves; remote ones are told apart by their status. -/
def screenLine (command : String) : Failure → String
  | .remote failure =>
    if failure.status == 0 then s!"{command}: errore di connessione - Backend non raggiungibile"
    else if failure.status == 404 then s!"{command}: endpoint non trovato"
    else if 500 ≤ failure.status then s!"{command}: errore interno del server"
    else plainLine command failure.message
  | failure@(.commandNotFound ..) | failure@(.duplicateCommand ..) => failure.message
  | .missingOperand text | .invalidTarget text | .terminal text => text
  | failure => plainLine command failure.message

end Failure

end LineShell
