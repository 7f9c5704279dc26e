import LineShell.Proofs.Pipeline
import Mathlib.Data.List.Nodup

/-!
# Registration

What any sequence of calls that register commands leaves: of the commands that were tried the first of each name, in
order. A call that fails has registered what came before the command that it fails at.
-/

namespace LineShell

/-! ## Calls -/

inductive RegistryCall
  | one (command : Command)
  | all (commands : List Command)

def RegistryCall.commands : RegistryCall → List Command
  | .one command => [command]
  | .all commands => commands

namespace Registry

def names (r : Registry) : List String := r.commands.map Command.name

/-- Makes a call. Gives the failure in which it ends, if it does, and the registry that it leaves. -/
def perform (call : RegistryCall) (r : Registry) : Option Failure × Registry :=
  match call with
  | .one command =>
    match r.register command with
    | .ok r => (none, r)
    | .error failure => (some failure, r)
  | .all commands => registerAll commands r

def performAll (calls : List RegistryCall) (r : Registry) : Registry :=
  calls.foldl (fun r call => (r.perform call).2) r

/-! ## What was tried -/

def tryFrom (before : List Command) : List Command → List Command
  | [] => before
  | command :: rest =>
    if command.name ∈ before.map Command.name then before ++ [command] else tryFrom (before ++ [command]) rest

/-- The commands that calls try to register, in order. -/
def tried (calls : List RegistryCall) : List Command :=
  calls.foldl (fun before call => tryFrom before call.commands) []

/-- The first command of each name. -/
def firsts : List Command → List Command
  | [] => []
  | command :: rest => command :: (firsts rest).filter (·.name != command.name)

theorem mem_names_firsts (commands : List Command) (name : String) :
    name ∈ (firsts commands).map Command.name ↔ name ∈ commands.map Command.name := by
  induction commands with
  | nil => rfl
  | cons command rest ih =>
      by_cases hname : name = command.name
      · simp [firsts, hname]
      · rw [firsts, List.map_cons, List.map_cons, List.mem_cons, List.mem_cons, ← ih]
        simp only [hname, false_or, List.mem_map, List.mem_filter, bne_iff_ne]
        refine exists_congr fun c => ⟨fun ⟨⟨hc, _⟩, hn⟩ => ⟨hc, hn⟩, fun ⟨hc, hn⟩ => ⟨⟨hc, ?_⟩, hn⟩⟩
        rwa [hn]

theorem nodup_names_firsts (commands : List Command) : ((firsts commands).map Command.name).Nodup := by
  induction commands with
  | nil => exact List.nodup_nil
  | cons command rest ih =>
      rw [firsts, List.map_cons, List.nodup_cons]
      refine ⟨fun hmem => ?_, ih.sublist (List.filter_sublist.map Command.name)⟩
      obtain ⟨c, hc, hname⟩ := List.mem_map.mp hmem
      simpa [hname] using (List.mem_filter.mp hc).2

theorem firsts_concat (commands : List Command) (c : Command) :
    firsts (commands ++ [c]) =
      if c.name ∈ commands.map Command.name then firsts commands else firsts commands ++ [c] := by
  induction commands with
  | nil => rfl
  | cons command rest ih =>
      rw [List.cons_append, firsts, ih, firsts]
      by_cases hrest : c.name ∈ rest.map Command.name
      · have hall : c.name ∈ (command :: rest).map Command.name := List.mem_cons_of_mem _ hrest
        rw [if_pos hrest, if_pos hall]
      · rw [if_neg hrest, List.filter_append]
        by_cases hname : c.name = command.name
        · have hall : c.name ∈ (command :: rest).map Command.name := List.mem_cons.mpr (.inl hname)
          simp [hname]
        · have hall : c.name ∉ (command :: rest).map Command.name := by simpa [hname] using hrest
          rw [if_neg hall]
          simp [hname]

/-! ## Looking up -/

section

variable (r : Registry) (name : String)

theorem find?_eq_none_iff : r.find? name = none ↔ name ∉ r.names := by
  simp [find?, names]

theorem find?_eq_some_iff (h : r.names.Nodup) (c : Command) :
    r.find? name = some c ↔ c ∈ r.commands ∧ c.name = name := by
  refine ⟨mem_of_find?, fun ⟨hmem, hname⟩ => ?_⟩
  cases hfind : r.find? name with
  | none => exact absurd (List.mem_map.mpr ⟨c, hmem, hname⟩) ((find?_eq_none_iff r name).mp hfind)
  | some d =>
      obtain ⟨hd, hdname⟩ := mem_of_find? hfind
      exact congrArg some (List.inj_on_of_nodup_map h hd hmem (hdname.trans hname.symm))

theorem contains_iff : r.contains name = true ↔ name ∈ r.names := by
  rw [contains, Option.isSome_iff_ne_none, ne_eq, find?_eq_none_iff, not_not]

end

/-! ## Registering -/

theorem register_eq (c : Command) (r : Registry) : r.register c =
    if c.name ∈ r.names then .error (.duplicateCommand c.name) else .ok ⟨r.commands ++ [c]⟩ := by
  simp only [register, contains_iff]

theorem perform_eq (call : RegistryCall) (r : Registry) : r.perform call = registerAll call.commands r := by
  cases call with
  | one c =>
      rw [perform, RegistryCall.commands, registerAll]
      cases r.register c with
      | ok => rfl
      | error => rfl
  | all => rfl

/-- A call registers the commands in front of the first whose name is taken, by an older command or by one of its
own. -/
theorem registerAll_cases (commands : List Command) {r : Registry} (h : r.names.Nodup) :
    ∃ new rest, commands = new ++ rest ∧ (registerAll commands r).2 = ⟨r.commands ++ new⟩ ∧
      (registerAll commands r).2.names.Nodup ∧
      (rest = [] ∧ (registerAll commands r).1 = none ∨
        ∃ c later, rest = c :: later ∧ c.name ∈ (registerAll commands r).2.names ∧
          (registerAll commands r).1 = some (.duplicateCommand c.name)) := by
  induction commands generalizing r with
  | nil => exact ⟨[], [], rfl, by simp [registerAll], h, .inl ⟨rfl, rfl⟩⟩
  | cons c rest ih =>
      rw [registerAll, register_eq]
      by_cases hname : c.name ∈ r.names
      · rw [if_pos hname]
        exact ⟨[], c :: rest, rfl, by simp, h, .inr ⟨c, rest, rfl, hname, rfl⟩⟩
      · rw [if_neg hname]
        have hnext : (names ⟨r.commands ++ [c]⟩).Nodup := by
          rw [names, List.map_append, List.map_singleton, ← List.concat_eq_append]
          exact h.concat hname
        obtain ⟨new, later, hsplit, hleft, hnodup, hend⟩ := ih hnext
        exact ⟨c :: new, later, by rw [hsplit, List.cons_append], by simp [hleft], hnodup, hend⟩

theorem commands_registerAll (commands : List Command) {before : List Command} {r : Registry}
    (h : r.commands = firsts before) : (registerAll commands r).2.commands = firsts (tryFrom before commands) := by
  induction commands generalizing r before with
  | nil => exact h
  | cons c rest ih =>
      have hnames : c.name ∈ r.names ↔ c.name ∈ before.map Command.name := by
        rw [names, h, mem_names_firsts]
      rw [registerAll, register_eq, tryFrom]
      by_cases hname : c.name ∈ before.map Command.name
      · rw [if_pos (hnames.mpr hname), if_pos hname, firsts_concat, if_pos hname]
        exact h
      · rw [if_neg (mt hnames.mp hname), if_neg hname]
        refine ih ?_
        rw [firsts_concat, if_neg hname, h]

theorem commands_performAll (calls : List RegistryCall) : (performAll calls {}).commands = firsts (tried calls) := by
  -- from any registry that has the first ones of what was tried until then
  have hrun : ∀ {before : List Command} {r : Registry}, r.commands = firsts before →
      (performAll calls r).commands = firsts (calls.foldl (fun before call => tryFrom before call.commands) before) := by
    induction calls with
    | nil => exact id
    | cons call rest ih =>
        intro before r h
        have hcall := commands_registerAll call.commands h
        rw [← perform_eq] at hcall
        exact ih hcall
  exact hrun rfl

theorem nodup_names_performAll (calls : List RegistryCall) : (performAll calls {}).names.Nodup := by
  rw [names, commands_performAll]
  exact nodup_names_firsts (tried calls)

/-- Whatever calls are made, the commands are the first ones of each name among those that were tried, and a name leads
to the one command that has it. Where a name is taken, registering it fails and changes nothing; several commands are
registered up to the first whose name is taken, and none behind it. -/
theorem performAll_laws (calls : List RegistryCall) :
    let r := performAll calls {}
    r.commands = firsts (tried calls) ∧ r.names.Nodup ∧ r.size = r.commands.length ∧
    (∀ name, (r.find? name = none ↔ name ∉ r.names) ∧ (r.contains name = true ↔ name ∈ r.names) ∧
      (∀ c, r.find? name = some c ↔ c ∈ r.commands ∧ c.name = name) ∧
      ∀ hint, r.get name hint = (r.find? name).elim (.error (.commandNotFound name hint)) .ok) ∧
    (∀ c, r.perform (.one c) =
      if c.name ∈ r.names then (some (.duplicateCommand c.name), r) else (none, ⟨r.commands ++ [c]⟩)) ∧
    ∀ batch, ∃ new rest, batch = new ++ rest ∧ (r.perform (.all batch)).2 = ⟨r.commands ++ new⟩ ∧
      (r.perform (.all batch)).2.names.Nodup ∧
      (rest = [] ∧ (r.perform (.all batch)).1 = none ∨
        ∃ c later, rest = c :: later ∧ c.name ∈ (r.perform (.all batch)).2.names ∧
          (r.perform (.all batch)).1 = some (.duplicateCommand c.name)) := by
  intro r
  have hnodup : r.names.Nodup := nodup_names_performAll calls
  refine ⟨commands_performAll calls, hnodup, rfl, fun name => ⟨find?_eq_none_iff r name, contains_iff r name,
    find?_eq_some_iff r name hnodup, fun hint => ?get⟩, fun c => ?one, fun batch => registerAll_cases batch hnodup⟩
  case get =>
    cases hfind : r.find? name with
    | none => exact get_of_none hfind hint
    | some c => exact get_of_some hfind hint
  case one =>
    rw [perform, register_eq]
    by_cases hname : c.name ∈ r.names
    · rw [if_pos hname, if_pos hname]
    · rw [if_neg hname, if_neg hname]

end Registry

end LineShell
