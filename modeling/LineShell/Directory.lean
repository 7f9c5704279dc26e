import LineShell.Failure
import LineShell.Session

/-!
# Directories

Where `cd` leads. A working directory is home, an absolute path, or known names one below the other.
-/

namespace LineShell.Directory

open Text

def known : List String := ["documenti", "downloads", "musica", "immagini"]

def above : String := ".."

def isAbsolute (path : String) : Bool := path.toList.head? == some '/'

/-- The directory above: the path without its last segment, home when nothing is left. -/
def parent (directory : String) : String :=
  let path := join "/" (split '/' directory).dropLast
  if path.isEmpty then home else path

def move (target directory : String) : Except Failure String :=
  if target == above then .ok (parent directory)
  else if target == home || isAbsolute target then .ok target
  else if known.contains target then
    .ok (if directory == home then target else s!"{directory}/{target}")
  else .error (.invalidTarget s!"cd: {target}: No such file or directory")

end LineShell.Directory
