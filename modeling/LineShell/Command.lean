import LineShell.Terminal
import LineShell.Text.Cut

/-!
# Commands

What a command is, how it is called, and how a stage of a line names one.
-/

namespace LineShell

/-! ## Commands -/

structure Summary where
  name : String
  description : String := ""
  usage : Option String := none
deriving Repr, DecidableEq

/-- A call of a command: its arguments, and the commands that are known where it is called. -/
structure Call where
  args : List String
  known : List Summary
deriving Repr, DecidableEq

/-- What a command does: it may change the terminal, and then answers, says nothing or fails. -/
abbrev Handler := Call → Terminal → Except Failure (Option String) × Terminal

abbrev Filter := List String → String → Except Failure String

/-- A command. One without a filter cannot read from a stage before it. -/
structure Command where
  summary : Summary
  handler : Handler
  filter : Option Filter := none

def Command.name (c : Command) : String := c.summary.name

namespace Handler

def reading (f : Call → Terminal → String) : Handler := fun call t => (.ok (some (f call t)), t)

def ofFilter (f : Filter) : Handler := fun call t => ((f call.args "").map some, t)

end Handler

/-! ## Stages -/

structure Stage where
  name : String
  args : List String
deriving Repr, DecidableEq

/-- The stage that a segment spells; blanks alone name the empty command. -/
def Stage.parse (segment : String) : Stage :=
  match Text.words segment with
  | [] => ⟨"", []⟩
  | name :: args => ⟨name, args⟩

end LineShell
