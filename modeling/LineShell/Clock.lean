/-!
# Clock

Moments and how they are written.
-/

namespace LineShell

structure Moment where
  year : Nat
  month : Nat
  day : Nat
  hour : Nat := 0
  minute : Nat := 0
  second : Nat := 0
  microsecond : Nat := 0
deriving Repr, DecidableEq, Inhabited

def zeroPadded (width n : Nat) : String :=
  let digits := (toString n).toList
  String.ofList (List.replicate (width - digits.length) '0' ++ digits)

namespace Moment

def time (m : Moment) : String :=
  s!"{zeroPadded 2 m.hour}:{zeroPadded 2 m.minute}:{zeroPadded 2 m.second}"

def short (m : Moment) : String := s!"{m.day}/{m.month}/{m.year}, {m.time}"

/-- The moment as a time stamp of universal time; microseconds are left out when there are none. -/
def stamp (m : Moment) : String :=
  let places := if m.microsecond == 0 then "" else "." ++ zeroPadded 6 m.microsecond
  s!"{zeroPadded 4 m.year}-{zeroPadded 2 m.month}-{zeroPadded 2 m.day}T{m.time}{places}+00:00"

end Moment

/-- A clock gives one reading after the other. -/
structure Clock where
  readings : Nat → Moment
  taken : Nat := 0

namespace Clock

def read (clock : Clock) : Moment × Clock :=
  (clock.readings clock.taken, { clock with taken := clock.taken + 1 })

def stopped (moment : Moment) : Clock := { readings := fun _ => moment }

end Clock

end LineShell
