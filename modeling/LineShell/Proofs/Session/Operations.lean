import LineShell.Proofs.Terminal.Showing

/-!
# Operations of a session

What is done to a session besides executing lines. Watchers that add nothing do not change what an
operation does to the session, and no watcher changes what it does to the typed lines.
-/

namespace LineShell

inductive Operation
  | append (line : String)
  | clear
  | remember (line : String)
  | browse (direction : Direction)
  | resetCursor
  | enter (directory : String)
deriving Repr, DecidableEq

theorem Bound.getLast?_push {bound : Bound} (h : 0 < bound.keep) (entries : List α) (entry : α) :
    (bound.push entries entry).getLast? = some entry := by
  have hpos : 0 < (entries ++ [entry]).length := by simp
  rw [push, trim]
  split
  · rw [List.getLast?_drop, if_neg (by omega), List.getLast?_concat]
  · exact List.getLast?_concat

/-! ## On the session alone -/

namespace Session

@[simp] theorem transcript_browse (direction : Direction) (s : Session) :
    (s.browse direction).2.transcript = s.transcript := by
  unfold browse
  split
  · rfl
  · rfl

@[simp] theorem commands_browse (direction : Direction) (s : Session) :
    (s.browse direction).2.commands = s.commands := by
  unfold browse
  split
  · rfl
  · rfl

def perform (operation : Operation) (s : Session) : Session :=
  match operation with
  | .append line => s.append line
  | .clear => s.clear
  | .remember line => s.remember line
  | .browse direction => (s.browse direction).2
  | .resetCursor => s.resetCursor
  | .enter directory => { s with directory }

theorem remember_of_getLast? {s : Session} {line : String} (h : s.commands.getLast? = some line) :
    (s.remember line).commands = s.commands := by
  simp [remember, h]

theorem remember_of_getLast?_ne {s : Session} {line : String} (h : s.commands.getLast? ≠ some line) :
    (s.remember line).commands = commandBound.push s.commands line := by
  simp [remember, h]

theorem getLast?_remember (line : String) (s : Session) : (s.remember line).commands.getLast? = some line := by
  by_cases h : s.commands.getLast? = some line
  · rw [remember_of_getLast? h, h]
  · rw [remember_of_getLast?_ne h, Bound.getLast?_push (by decide)]

def performAll (operations : List Operation) (s : Session) : Session :=
  operations.foldl (fun s operation => s.perform operation) s

theorem performAll_concat (operations : List Operation) (operation : Operation) (s : Session) :
    s.performAll (operations ++ [operation]) = (s.performAll operations).perform operation := by
  rw [performAll, List.foldl_append]
  rfl

end Session

/-! ## Before watchers -/

namespace Terminal

/-- Does an operation to the session; changes of the transcript are announced. -/
def perform (operation : Operation) (t : Terminal) : Terminal :=
  match operation with
  | .append line => t.append line
  | .clear => t.clear
  | .remember line => t.modifySession (.remember line)
  | .browse direction => (t.browse direction).2
  | .resetCursor => t.modifySession .resetCursor
  | .enter directory => t.modifySession fun s => { s with directory }

def performAll (operations : List Operation) (t : Terminal) : Terminal :=
  operations.foldl (fun t operation => t.perform operation) t

variable {t : Terminal}

theorem Told.perform (operation : Operation) (t : Terminal) :
    Told typedPart (t.modifySession (·.perform operation)) (t.perform operation) := by
  cases operation with
  | append line => exact Told.trans (u := t) ⟨rfl, rfl, rfl, rfl, rfl⟩ (Told.append line t)
  | clear => exact Told.trans (u := t) ⟨rfl, rfl, rfl, rfl, rfl⟩ (Told.clear t)
  | _ => exact Told.refl _ _

theorem Quiet.perform (hq : t.Quiet) (operation : Operation) :
    Told id (t.modifySession (·.perform operation)) (t.perform operation) := by
  cases operation with
  | append line => exact hq.append line
  | clear => exact hq.clear
  | _ => exact Told.refl _ _

theorem Quiet.session_performAll (hq : t.Quiet) (operations : List Operation) :
    (t.performAll operations).session = t.session.performAll operations := by
  induction operations generalizing t with
  | nil => rfl
  | cons operation rest ih =>
      have hstep := hq.perform operation
      have hsession : (t.perform operation).session = t.session.perform operation := hstep.session
      have hquiet : (t.perform operation).Quiet := hstep.quiet (t := t.modifySession (·.perform operation)) hq
      calc ((t.perform operation).performAll rest).session
        _ = (t.perform operation).session.performAll rest := ih hquiet
        _ = (t.session.perform operation).performAll rest := by rw [hsession]

end Terminal

end LineShell
