import LineShell.Proofs.Pipeline
import Mathlib.Logic.Function.Iterate

/-!
# Work in parts

A command may wait in the middle of what it does, for an answer of the backend. Work in parts pauses wherever it
waits; without the pauses it does what is done at one go.
-/

namespace LineShell

open Text

/-! ## Work -/

/-- Work at a terminal with pauses in between. -/
inductive Work (α : Type)
  | done (value : α)
  | act (deed : Terminal → Terminal) (next : Terminal → Work α)
  | pause (next : Work α)

inductive Standing (α : Type)
  | ended (value : α)
  | paused (rest : Work α)

namespace Work

/-- Does the work and passes over its pauses. -/
def run : Work α → Terminal → α × Terminal
  | done value, t => (value, t)
  | act deed next, t => (next t).run (deed t)
  | pause next, t => next.run t

/-- Does the work up to its first pause. -/
def resume : Work α → Terminal → Standing α × Terminal
  | done value, t => (.ended value, t)
  | act deed next, t => (next t).resume (deed t)
  | pause next, t => (.paused next, t)

def atOnce (f : Terminal → α × Terminal) : Work α := act (fun t => (f t).2) fun t => done (f t).1

def andThen : Work α → (α → Work β) → Work β
  | done value, f => f value
  | act deed next, f => act deed fun t => (next t).andThen f
  | pause next, f => pause (next.andThen f)

@[simp] theorem run_done (value : α) (t : Terminal) : (done value).run t = (value, t) := rfl

@[simp] theorem run_atOnce (f : Terminal → α × Terminal) (t : Terminal) : (atOnce f).run t = f t := rfl

theorem run_andThen (work : Work α) (f : α → Work β) (t : Terminal) :
    (work.andThen f).run t = (f (work.run t).1).run (work.run t).2 := by
  induction work generalizing t with
  | done value => rfl
  | act deed next ih => exact ih t (deed t)
  | pause next ih => exact ih t

end Work

namespace Standing

def finish : Standing α × Terminal → α × Terminal
  | (ended value, t) => (value, t)
  | (paused rest, t) => rest.run t

def proceed : Standing α × Terminal → Standing α × Terminal
  | (ended value, t) => (ended value, t)
  | (paused rest, t) => rest.resume t

theorem finish_resume (work : Work α) (t : Terminal) : finish (work.resume t) = work.run t := by
  induction work generalizing t with
  | done value => rfl
  | act deed next ih => exact ih t (deed t)
  | pause next => rfl

theorem finish_proceed (x : Standing α × Terminal) : finish (proceed x) = finish x := by
  obtain ⟨standing, t⟩ := x
  cases standing with
  | ended value => rfl
  | paused rest => exact finish_resume rest t

theorem finish_iterate (k : Nat) (x : Standing α × Terminal) : finish (proceed^[k] x) = finish x := by
  induction k with
  | zero => rfl
  | succ k ih => rw [Function.iterate_succ_apply', finish_proceed, ih]

end Standing

/-! ## Commands in parts -/

def Command.tell (c : Command) (outcome : Except Failure (Option String)) (t : Terminal) : String × Terminal :=
  match outcome with
  | .ok output => (output.getD "", t)
  | .error failure => t.absorb c.name failure

namespace Registry

/-- A way in which the commands of a registry do their work in parts. -/
structure Splitting (r : Registry) where
  parts : Command → Call → Work (Except Failure (Option String))
  run_parts : ∀ c ∈ r.commands, ∀ call t, (parts c call).run t = c.handler call t

namespace Splitting

def patient (r : Registry) : r.Splitting where
  parts c call := .pause ((Work.atOnce (c.handler call)).andThen fun outcome => .pause (.done outcome))
  run_parts _ _ _ _ := rfl

variable {r : Registry} (s : r.Splitting)

def call (c : Command) (args : List String) : Work String :=
  (s.parts c { args, known := r.summaries }).andThen fun outcome => .atOnce (c.tell outcome)

def runFirst (stage : Stage) : Work String :=
  match r.get stage.name none with
  | .error failure => .done failure.message
  | .ok c => s.call c stage.args

/-- Runs a statement, in parts; only handlers wait. -/
def runStatement : Statement → Work String
  | .pipeline first rest => (s.runFirst first).andThen fun text => .atOnce (r.runRest rest text)
  | .single stage =>
    match r.get stage.name (some helpHint) with
    | .error failure => .atOnce fun t => (failure.message, t.note .info s!"Unknown command: {stage.name}")
    | .ok c => s.call c stage.args

def runStatements : List Statement → Work (List String)
  | [] => .done []
  | statement :: rest =>
    (s.runStatement statement).andThen fun output =>
      (runStatements rest).andThen fun outputs => .done (output :: outputs)

def runClear : Work String :=
  match r.find? clearWord with
  | none => .atOnce fun t => ("", t.clear)
  | some c => s.call c []

def execute (typed : String) : Work String :=
  match Line.parse typed with
  | .blank => .done ""
  | .clear => s.runClear.andThen fun output => .atOnce fun t => (output, t.modifySession .resetCursor)
  | .run text statements =>
    (Work.atOnce fun t => ((), echo text t)).andThen fun _ => (s.runStatements statements).andThen fun outputs =>
      .atOnce fun t => (unlines outputs, (t.record (unlines outputs)).modifySession .resetCursor)

/-! ## Parts make a whole -/

theorem run_call {name : String} {c : Command} (hc : r.find? name = some c) (args : List String) (t : Terminal) :
    (s.call c args).run t = r.call c args t := by
  rw [call, Work.run_andThen, s.run_parts c (mem_of_find? hc).1, Work.run_atOnce, Registry.call]
  rcases c.handler { args, known := r.summaries } t with ⟨outcome, u⟩
  cases outcome <;> rfl

theorem run_runFirst (stage : Stage) (t : Terminal) : (s.runFirst stage).run t = r.runFirst stage t := by
  rcases Option.eq_none_or_eq_some (r.find? stage.name) with hc | ⟨c, hc⟩
  · rw [runFirst, Registry.runFirst, get_of_none hc]
    rfl
  · rw [runFirst, Registry.runFirst, get_of_some hc]
    exact s.run_call hc stage.args t

theorem run_runStatement (statement : Statement) (t : Terminal) :
    (s.runStatement statement).run t = r.runStatement statement t := by
  cases statement with
  | pipeline first rest => rw [runStatement, Work.run_andThen, run_runFirst, Work.run_atOnce, Registry.runStatement]
  | single stage =>
      rcases Option.eq_none_or_eq_some (r.find? stage.name) with hc | ⟨c, hc⟩
      · rw [runStatement, Registry.runStatement, get_of_none hc]
        rfl
      · rw [runStatement, Registry.runStatement, get_of_some hc]
        exact s.run_call hc stage.args t

theorem run_runStatements (statements : List Statement) (t : Terminal) :
    (s.runStatements statements).run t = r.runStatements statements t := by
  induction statements generalizing t with
  | nil => rfl
  | cons statement rest ih =>
      rw [runStatements, Work.run_andThen, Work.run_andThen, run_runStatement, ih, Work.run_done,
        Registry.runStatements]

theorem run_runClear (t : Terminal) : s.runClear.run t = r.runClear t := by
  rcases Option.eq_none_or_eq_some (r.find? clearWord) with hc | ⟨c, hc⟩
  · rw [runClear, Registry.runClear, hc]
    rfl
  · rw [runClear, Registry.runClear, hc]
    exact s.run_call hc [] t

/-- Without the pauses a line in parts is the line. -/
theorem run_execute (typed : String) (t : Terminal) : (s.execute typed).run t = r.execute typed t := by
  unfold execute Registry.execute
  cases Line.parse typed with
  | blank => rfl
  | clear => rw [Work.run_andThen, run_runClear, Work.run_atOnce, runLine]
  | run text statements =>
      rw [Work.run_andThen, Work.run_atOnce, Work.run_andThen, run_runStatements, Work.run_atOnce, runLine]

end Splitting

end Registry

end LineShell
