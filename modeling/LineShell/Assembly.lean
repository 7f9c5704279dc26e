/-!
# Assembly

The parts from which a terminal is put together. Each is made when it is first asked for, together
with the parts that it needs, and stays the same until the assembly is reset.
-/

namespace LineShell

inductive Part
  | session
  | bus
  | transport
  | registry
  | interpreter
  | caller
deriving Repr, DecidableEq

/-- A part that was made: its number, which no other part has, and the parts that it was made with. -/
structure Made where
  number : Nat
  uses : List (Part × Nat)
deriving Repr, DecidableEq

/-- The parts made since the last reset, the number of the next one, the transports that were told to
close, and whether the settings give a transport at all. -/
structure Assembly where
  connects : Bool := true
  next : Nat := 0
  parts : List (Part × Made) := []
  closed : List Nat := []
deriving Repr, DecidableEq

/-- Gives something, unless a part that it needs cannot be made. What was made until then stays. -/
abbrev Making (α : Type) := Assembly → Option α × Assembly

namespace Assembly

/-! ## Parts -/

def add (part : Part) (uses : List (Part × Nat)) (a : Assembly) : Made × Assembly :=
  let made : Made := ⟨a.next, uses⟩
  (made, { a with next := a.next + 1, parts := a.parts ++ [(part, made)] })

/-- Gives a part; one that is missing is made, after what it needs. -/
def obtainWith (part : Part) (needs : Making (List (Part × Nat))) : Making Made := fun a =>
  match a.parts.lookup part with
  | some made => (some made, a)
  | none =>
    match needs a with
    | (none, a) => (none, a)
    | (some uses, a) =>
      let (made, a) := a.add part uses
      (some made, a)

def gather : List (Part × Making Made) → Making (List (Part × Nat))
  | [], a => (some [], a)
  | (part, obtain) :: rest, a =>
    match obtain a with
    | (none, a) => (none, a)
    | (some made, a) =>
      match gather rest a with
      | (none, a) => (none, a)
      | (some uses, a) => (some ((part, made.number) :: uses), a)

def session : Making Made := obtainWith .session (gather [])

def bus : Making Made := obtainWith .bus (gather [])

def transport : Making Made := obtainWith .transport fun a => (if a.connects then some [] else none, a)

def registry : Making Made := obtainWith .registry (gather [(.session, session), (.transport, transport)])

def interpreter : Making Made :=
  obtainWith .interpreter (gather [(.session, session), (.registry, registry), (.bus, bus)])

def caller : Making Made := obtainWith .caller (gather [(.transport, transport)])

def get : Part → Making Made
  | .session => session
  | .bus => bus
  | .transport => transport
  | .registry => registry
  | .interpreter => interpreter
  | .caller => caller

/-! ## The end of parts -/

def isEmpty (a : Assembly) : Bool := a.parts.isEmpty

def reset (a : Assembly) : Assembly := { a with parts := [] }

/-- Tells the transport to close, if there is one, and forgets all parts, unless the transport fails at
it. Says whether all went well. -/
def closeWith (fails : Bool) (a : Assembly) : Bool × Assembly :=
  match a.parts.lookup .transport with
  | none => (true, a.reset)
  | some transport =>
    let a := { a with closed := a.closed ++ [transport.number] }
    if fails then (false, a) else (true, a.reset)

def close (a : Assembly) : Assembly := (a.closeWith false).2

end Assembly

end LineShell
