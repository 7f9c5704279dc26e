import LineShell.Settings

/-!
# Themes

The colours of the console: two themes, how one is chosen, and the style that each gives to the
names which styled text uses.
-/

namespace LineShell

inductive Theme
  | dark
  | light
deriving Repr, DecidableEq

namespace Theme

def name : Theme → String
  | dark => "dark"
  | light => "light"

def all : List Theme := [dark, light]

/-! ## Choice -/

/-- The theme of a name in any case; names of no theme mean the dark one.
Of the other letters none has a small letter that stands in the name of the light theme. -/
def ofName (name : String) : Theme :=
  if String.ofList (name.toList.map Char.toLower) == light.name then light else dark

def resolve (env : Environment) : Option String → Theme
  | none | some "" => ofName ((env.lookup "WEBTERM_THEME").getD dark.name)
  | some name => ofName name

def toggle (current : String) : Theme := if current == dark.name then light else dark

/-! ## Styles -/

def styles : Theme → List (String × String)
  | dark => [
    ("ansi.green", "bold bright_green"), ("ansi.gray", "dim white"), ("ansi.red", "bold bright_red"),
    ("entity.control", "bold underline cyan"), ("prompt", "bold bright_blue"),
    ("header", "bold white on grey23")]
  | light => [
    ("ansi.green", "bold green4"), ("ansi.gray", "grey42"), ("ansi.red", "bold red3"),
    ("entity.control", "bold underline blue"), ("prompt", "bold dark_blue"),
    ("header", "bold black on grey85")]

end Theme

end LineShell
