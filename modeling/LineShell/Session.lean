/-!
# Session

Who works where, what the screen has shown, and which lines were typed. Both histories are bounded:
one that passes its limit is cut to its newest entries.
-/

namespace LineShell

/-! ## Bounded histories -/

/-- A history that passes `limit` keeps its newest `keep` entries. -/
structure Bound where
  limit : Nat
  keep : Nat
deriving Repr, DecidableEq

def Bound.trim (bound : Bound) (entries : List α) : List α :=
  if bound.limit < entries.length then entries.drop (entries.length - bound.keep) else entries

def Bound.push (bound : Bound) (entries : List α) (entry : α) : List α :=
  bound.trim (entries ++ [entry])

def transcriptBound : Bound := ⟨1000, 500⟩

def commandBound : Bound := ⟨100, 50⟩

/-! ## State -/

def home : String := "~"

inductive Direction
  | up
  | down
deriving Repr, DecidableEq

def Direction.ofWord (word : String) : Direction := if word == "up" then .up else .down

/-- The state of a session. The cursor counts typed lines from the newest, which is 0; without a
cursor the line being typed is current. -/
structure Session where
  user : String := "user"
  host : String := "linux-box"
  directory : String := home
  transcript : List String := []
  commands : List String := []
  cursor : Option Nat := none
deriving Repr, DecidableEq, Inhabited

namespace Session

def prompt (s : Session) : String := s!"{s.user}@{s.host}:{s.directory}$"

def header (s : Session) : String := s!"{s.user}@{s.host}: {s.directory}"

/-- The cursor as a number, -1 at the line being typed. -/
def position (s : Session) : Int :=
  match s.cursor with
  | none => -1
  | some k => k

/-! ## Transcript -/

def append (line : String) (s : Session) : Session :=
  { s with transcript := transcriptBound.push s.transcript line }

def clear (s : Session) : Session := { s with transcript := [] }

/-! ## Typed lines -/

def resetCursor (s : Session) : Session := { s with cursor := none }

def remember (line : String) (s : Session) : Session :=
  -- A line typed twice in a row is kept once, and leads back to the line being typed all the same.
  let commands := if s.commands.getLast? == some line then s.commands else commandBound.push s.commands line
  { s with commands, cursor := none }

/-- The cursor after one step through `count` typed lines. -/
def step (count : Nat) : Direction → Option Nat → Option Nat
  | .up, none => if count == 0 then none else some 0
  | .up, some k => some (min (k + 1) (count - 1))
  | .down, none | .down, some 0 => none
  | .down, some (k + 1) => some k

def recalled (s : Session) : String :=
  match s.cursor with
  | none => ""
  | some k => s.commands.reverse.getD k ""

/-- Moves the cursor and gives the line under it; without typed lines nothing moves. -/
def browse (direction : Direction) (s : Session) : String × Session :=
  if s.commands.isEmpty then ("", s) else
    let s := { s with cursor := step s.commands.length direction s.cursor }
    (s.recalled, s)

end Session

end LineShell
