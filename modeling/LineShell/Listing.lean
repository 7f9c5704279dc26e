import LineShell.Text.Cut

/-!
# Listing

The files and directories that the terminal shows at home. Sizes and dates are texts.
-/

namespace LineShell

structure FileEntry where
  name : String
  isDirectory : Bool
  size : String
  modified : String
  hidden : Bool := false
deriving Repr, DecidableEq

namespace FileEntry

def permissions (e : FileEntry) : String := if e.isDirectory then "drwxr-xr-x" else "-rw-r--r--"

/-- The line of the entry in a long listing; a size that is not meant for people fills a column. -/
def longLine (owner : String) (humanSizes : Bool) (e : FileEntry) : String :=
  let size := if humanSizes then e.size else Text.padLeft 6 e.size
  s!"{e.permissions} 1 {owner} {owner} {size} {e.modified} {e.name}"

end FileEntry

def homeEntries : List FileEntry := [
  ⟨"documenti", true, "4.0K", "Dec 10 14:30", false⟩,
  ⟨"downloads", true, "8.0K", "Dec 9 10:15", false⟩,
  ⟨"musica", true, "4.0K", "Dec 8 16:45", false⟩,
  ⟨"immagini", true, "12K", "Dec 11 09:20", false⟩,
  ⟨".config", true, "4.0K", "Dec 5 11:30", true⟩,
  ⟨"file1.txt", false, "1.2K", "Dec 10 14:30", false⟩,
  ⟨"file2.pdf", false, "2.4M", "Dec 9 10:15", false⟩,
  ⟨"foto.jpg", false, "4.8M", "Dec 8 16:45", false⟩,
  ⟨".log", false, "4.8K", "Dec 7 08:20", true⟩]

structure ListingStyle where
  hidden : Bool
  long : Bool
  humanSizes : Bool
deriving Repr, DecidableEq

/-- The style that arguments ask for; arguments that ask for nothing are passed over. -/
def ListingStyle.ofArgs (args : List String) : ListingStyle where
  hidden := args.contains "-a" || args.contains "--all"
  long := args.contains "-l" || args.contains "--long"
  humanSizes := args.contains "-h" || args.contains "--human-readable"

def listing (style : ListingStyle) (owner : String) (entries : List FileEntry) : String :=
  let entries := entries.filter fun e => style.hidden || !e.hidden
  if style.long then Text.unlines (entries.map (FileEntry.longLine owner style.humanSizes))
  else Text.join "  " (entries.map FileEntry.name)

end LineShell
