import LineShell.Command
import LineShell.Directory
import LineShell.Listing

/-!
# Built-in commands

Commands that need nothing but the terminal itself.
-/

namespace LineShell.Builtin

/-! ## Help -/

def green : String := "\x1b[1;32m"

def grey : String := "\x1b[2;37m"

def plain : String := "\x1b[0m"

def nameWidth : Nat := 12

def helpEntry (summary : Summary) : String :=
  let line := s!"{green}{Text.padRight nameWidth summary.name}{plain} - {summary.description}"
  match summary.usage with
  | none | some "" => line
  | some usage => s!"{line}\n    {grey}Usage: {usage}{plain}"

def helpText (known : List Summary) : String := Text.unlines (known.map helpEntry)

def help : Handler := .reading fun call _ => helpText call.known

/-! ## Session -/

def clear : Handler := fun _ t => (.ok (some ""), t.clear)

def numbered (commands : List String) : String :=
  Text.unlines (commands.zipIdx.map fun (command, i) => s!" {i + 1}  {command}")

def history : Handler := .reading fun _ t => numbered t.session.commands

def pwd : Handler := .reading fun _ t => t.session.directory

def whoami : Handler := .reading fun _ t => t.session.user

def cd : Handler := fun call t =>
  match call.args with
  | [] => (.ok (some ""), t.modifySession fun s => { s with directory := home })
  | target :: _ =>
    match Directory.move target t.session.directory with
    | .error failure => (.error failure, t)
    | .ok directory =>
      let t := t.modifySession fun s => { s with directory }
      (.ok (some ""), t.note .debug s!"Directory changed to {directory}")

/-! ## Texts and files -/

def echo : Handler := .reading fun call _ => Text.join " " call.args

def ls (entries : List FileEntry) : Handler := .reading fun call t =>
  listing (.ofArgs call.args) t.session.user entries

def date : Handler := fun _ t =>
  let (now, clock) := t.clock.read
  (.ok (some now.short), { t with clock })

/-- Says that what the first argument names was created. -/
def create (kind missing : String) : Handler := fun call t =>
  match call.args with
  | [] => (.error (.missingOperand missing), t)
  | name :: _ => (.ok (some s!"{kind} '{name}' created successfully"), t)

def mkdir : Handler := create "Directory" "mkdir: missing operand"

def touch : Handler := create "File" "touch: missing file operand"

end LineShell.Builtin
