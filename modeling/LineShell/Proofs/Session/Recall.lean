import LineShell.Proofs.Session.Operations
import LineShell.Proofs.Sparing

/-!
# Recalling typed lines

Wherever a session has been, its cursor is at one of the typed lines or there is none. So recalling never leaves
the typed lines, and a walk through them is told by steps that stop at both ends.
-/

namespace LineShell

open Terminal

/-! ## Places among the typed lines -/

def Direction.step : Direction → Int
  | .up => 1
  | .down => -1

namespace Session

/-- The cursor, if there is one, is at a typed line. -/
def InRange (s : Session) : Prop := ∀ k, s.cursor = some k → k < s.commands.length

variable {s u : Session}

theorem inRange_of_none (h : s.cursor = none) : s.InRange := by
  intro k hk
  rw [h] at hk
  cases hk

theorem InRange.of_typedPart (hs : s.InRange) (h : typedPart u = typedPart s) : u.InRange := by
  obtain ⟨hcommands, hcursor⟩ := Prod.mk.inj h
  intro k hk
  rw [hcommands]
  exact hs k (hcursor.symm.trans hk)

theorem browse_of_nil (h : s.commands = []) (direction : Direction) : s.browse direction = ("", s) := by
  simp [browse, h]

theorem browse_of_ne_nil (h : s.commands ≠ []) (direction : Direction) :
    s.browse direction = (recalled { s with cursor := step s.commands.length direction s.cursor },
      { s with cursor := step s.commands.length direction s.cursor }) := by
  simp [browse, h]

namespace InRange

theorem cursor_of_nil (hs : s.InRange) (h : s.commands = []) : s.cursor = none := by
  cases hk : s.cursor with
  | none => rfl
  | some k =>
      have hlt := hs k hk
      rw [h] at hlt
      exact absurd hlt (Nat.not_lt_zero k)

theorem browse (hs : s.InRange) (direction : Direction) : (s.browse direction).2.InRange := by
  by_cases hnil : s.commands = []
  · rw [browse_of_nil hnil]
    exact hs
  · have hlength : 0 < s.commands.length := List.length_pos_iff.mpr hnil
    rw [browse_of_ne_nil hnil]
    intro k hk
    change k < s.commands.length
    change step s.commands.length direction s.cursor = some k at hk
    cases hcursor : s.cursor with
    | none =>
        rw [hcursor] at hk
        cases direction with
        | up =>
            obtain rfl : 0 = k := by simpa [step, hnil] using hk
            exact hlength
        | down => cases hk
    | some j =>
        have hj := hs j hcursor
        rw [hcursor] at hk
        cases direction with
        | up =>
            obtain rfl : min (j + 1) (s.commands.length - 1) = k := by simpa [step] using hk
            omega
        | down =>
            cases j with
            | zero => cases hk
            | succ j =>
                obtain rfl : j = k := by simpa [step] using hk
                exact Nat.lt_of_succ_lt hj

theorem perform (hs : s.InRange) (operation : Operation) : (s.perform operation).InRange := by
  cases operation with
  | append line => exact hs
  | clear => exact hs
  | remember line => exact inRange_of_none rfl
  | browse direction => exact hs.browse direction
  | resetCursor => exact inRange_of_none rfl
  | enter directory => exact hs

theorem recalled (hs : s.InRange) : s.position = -1 ∧ s.recalled = "" ∨
    ∃ k : Nat, s.position = k ∧ k < s.commands.length ∧
      s.commands[s.commands.length - 1 - k]? = some s.recalled := by
  cases hcursor : s.cursor with
  | none => exact .inl ⟨by rw [position, hcursor], by rw [Session.recalled, hcursor]⟩
  | some k =>
      have hk := hs k hcursor
      refine .inr ⟨k, by rw [position, hcursor], hk, ?_⟩
      rw [Session.recalled, hcursor, ← List.getElem?_reverse hk]
      have hrev : k < s.commands.reverse.length := by simpa using hk
      simp only [List.getD_eq_getElem?_getD, List.getElem?_eq_getElem hrev, Option.getD_some]

theorem browse_fst (hs : s.InRange) (direction : Direction) :
    (s.browse direction).1 = (s.browse direction).2.recalled := by
  by_cases hnil : s.commands = []
  · rw [browse_of_nil hnil, Session.recalled, hs.cursor_of_nil hnil]
  · rw [browse_of_ne_nil hnil]

theorem position_le (hs : s.InRange) : -1 ≤ s.position ∧ s.position ≤ s.commands.length - 1 := by
  unfold position
  cases hcursor : s.cursor with
  | none => simp only; omega
  | some k =>
      have hk := hs k hcursor
      simp only
      omega

theorem position_browse (hs : s.InRange) (direction : Direction) : (s.browse direction).2.position =
    max (-1) (min (s.position + direction.step) (s.commands.length - 1)) := by
  by_cases hnil : s.commands = []
  · rw [browse_of_nil hnil, position, hs.cursor_of_nil hnil, hnil]
    cases direction <;> decide
  · have hlength : 0 < s.commands.length := List.length_pos_iff.mpr hnil
    rw [browse_of_ne_nil hnil, position, position]
    cases hcursor : s.cursor with
    | none =>
        cases direction with
        | up =>
            simp only [Session.step, Direction.step, beq_iff_eq, hlength.ne', if_false]
            omega
        | down =>
            simp only [Session.step, Direction.step]
            omega
    | some k =>
        have hk := hs k hcursor
        cases direction with
        | up =>
            simp only [Session.step, Direction.step]
            omega
        | down =>
            cases k with
            | zero =>
                simp only [Session.step, Direction.step]
                omega
            | succ k =>
                simp only [Session.step, Direction.step]
                omega

theorem browse_spec (hs : s.InRange) (direction : Direction) :
    let after := (s.browse direction).2
    after.commands = s.commands ∧
    after.position = (if s.commands = [] then s.position
      else max (-1) (min (s.position + direction.step) (s.commands.length - 1))) ∧
    (after.position = -1 ∧ (s.browse direction).1 = "" ∨
      ∃ k : Nat, after.position = k ∧ k < s.commands.length ∧
        s.commands[s.commands.length - 1 - k]? = some (s.browse direction).1) := by
  intro after
  have hcommands : after.commands = s.commands := commands_browse direction s
  refine ⟨hcommands, ?position, ?line⟩
  case position =>
    by_cases hnil : s.commands = []
    · rw [if_pos hnil]
      exact congrArg (·.2.position) (browse_of_nil hnil direction)
    · rw [if_neg hnil]
      exact hs.position_browse direction
  case line =>
    have hrecalled := (hs.browse direction).recalled
    rw [hs.browse_fst direction, ← hcommands]
    exact hrecalled

end InRange

/-! ## Up to the oldest line -/

/-- How many lines lie between the line being typed and the cursor, its own included. -/
def walked (s : Session) : Nat :=
  match s.cursor with
  | none => 0
  | some k => k + 1

theorem walked_eq (s : Session) : (s.walked : Int) = s.position + 1 := by
  unfold walked position
  cases s.cursor with
  | none => rfl
  | some k => rfl

theorem browse_up_of_lt (h : s.walked < s.commands.length) :
    s.browse .up = (s.commands.reverse.getD s.walked "", { s with cursor := some s.walked }) := by
  have hnil : s.commands ≠ [] := List.ne_nil_of_length_pos (Nat.zero_lt_of_lt h)
  have hstep : step s.commands.length .up s.cursor = some s.walked := by
    unfold walked at h ⊢
    cases hcursor : s.cursor with
    | none => simp [step, hnil]
    | some k =>
        rw [hcursor] at h
        simp only [step, Option.some.injEq]
        exact Nat.min_eq_left (Nat.le_sub_one_of_lt h)
  rw [browse_of_ne_nil hnil, hstep]
  rfl

theorem InRange.browse_up_of_le (hs : s.InRange) (h : s.commands.length ≤ s.walked) :
    s.browse .up = (s.commands.headD "", s) := by
  by_cases hnil : s.commands = []
  · rw [browse_of_nil hnil, hnil]
    rfl
  · have hlength : 0 < s.commands.length := List.length_pos_iff.mpr hnil
    have hcursor : s.cursor = some (s.commands.length - 1) := by
      unfold walked at h
      cases hk : s.cursor with
      | none =>
          rw [hk] at h
          exact absurd hlength (Nat.not_lt.mpr h)
      | some k =>
          have hlt := hs k hk
          simp only [hk] at h
          rw [Option.some.injEq]
          omega
    have hstep : step s.commands.length .up s.cursor = s.cursor := by
      rw [hcursor]
      simp [step]
    rw [browse_of_ne_nil hnil, hstep]
    refine Prod.ext ?_ rfl
    change s.recalled = s.commands.headD ""
    rw [Session.recalled, hcursor, List.headD_eq_head?_getD, List.head?_eq_getElem?]
    simp only [List.getD_eq_getElem?_getD]
    rw [List.getElem?_reverse (by omega), Nat.sub_self]

end Session

/-! ## Walks -/

namespace Terminal

/-- Steps through the typed lines, and what each step gave. -/
def walk : List Direction → Terminal → List String × Terminal
  | [], t => ([], t)
  | direction :: word, t =>
    let (line, t) := t.browse direction
    let (lines, t) := walk word t
    (line :: lines, t)

variable {t : Terminal}

theorem walk_inRange (word : List Direction) (hs : t.session.InRange) :
    (t.walk word).2.session.InRange ∧ (t.walk word).2.session.commands = t.session.commands := by
  induction word generalizing t with
  | nil => exact ⟨hs, rfl⟩
  | cons direction word ih =>
      obtain ⟨hrange, hcommands⟩ := ih (t := (t.browse direction).2) (hs.browse direction)
      exact ⟨hrange, hcommands.trans (Session.commands_browse direction t.session)⟩

/-- Going up gives the lines not met yet, from the newest on, and then the oldest again and again. -/
theorem walk_up (k : Nat) (hs : t.session.InRange) :
    (t.walk (List.replicate k .up)).1 = (t.session.commands.reverse.drop t.session.walked).take k ++
      List.replicate (k - (t.session.commands.length - t.session.walked)) (t.session.commands.headD "") := by
  induction k generalizing t with
  | zero => simp [walk]
  | succ k ih =>
      rw [List.replicate_succ, walk]
      dsimp only
      rcases Nat.lt_or_ge t.session.walked t.session.commands.length with h | h
      · -- a line that was not met yet
        have hrev : t.session.walked < t.session.commands.reverse.length := by simpa using h
        have hbrowse : t.browse .up = (t.session.commands.reverse[t.session.walked],
            t.modifySession fun s => { s with cursor := some s.walked }) := by
          rw [Terminal.browse, Session.browse_up_of_lt h, List.getD_eq_getElem?_getD,
            List.getElem?_eq_getElem hrev]
          rfl
        have hwalk := ih (t := (t.browse .up).2) (hs.browse .up)
        rw [hbrowse] at hwalk ⊢
        dsimp only at hwalk ⊢
        rw [hwalk, List.drop_eq_getElem_cons hrev, List.take_succ_cons, List.cons_append]
        -- what is left to meet is one line less, whatever the number of steps
        have hleft : k + 1 - (t.session.commands.length - t.session.walked) =
            k - (t.session.commands.length - (t.session.walked + 1)) := by omega
        rw [hleft]
        rfl
      · -- the oldest line, where going up stays
        have hbrowse : t.browse .up = (t.session.commands.headD "", t) := by
          rw [Terminal.browse, hs.browse_up_of_le h]
        have hmet : t.session.commands.reverse.drop t.session.walked = [] :=
          List.drop_eq_nil_of_le (by simpa using h)
        rw [hbrowse]
        dsimp only
        rw [ih hs, hmet, Nat.sub_eq_zero_of_le h, List.take_nil, List.take_nil, Nat.sub_zero, Nat.sub_zero,
          List.replicate_succ]
        rfl

theorem walk_down (k : Nat) (hs : t.session.InRange) :
    (t.walk (List.replicate k .down)).2.session.position = max (-1) (t.session.position - k) := by
  induction k generalizing t with
  | zero =>
      have hle := hs.position_le
      simp only [List.replicate_zero, walk]
      omega
  | succ k ih =>
      have hwalk := ih (t := (t.browse .down).2) (hs.browse .down)
      have hstep : (t.browse .down).2.session.position = _ := hs.position_browse .down
      have hle := hs.position_le
      rw [List.replicate_succ, walk]
      dsimp only
      rw [hwalk, hstep, Direction.step]
      omega

end Terminal

/-! ## Sessions in use -/

/-- What a session is used for: its operations, abandoning a line, and executing one. -/
inductive Action
  | operation (operation : Operation)
  | cancel
  | execute (typed : String)
deriving Repr, DecidableEq

namespace Registry

def act (r : Registry) (action : Action) (t : Terminal) : Terminal :=
  match action with
  | .operation operation => t.perform operation
  | .cancel => t.cancel
  | .execute typed => (r.execute typed t).2

def actAll (r : Registry) (actions : List Action) (t : Terminal) : Terminal :=
  actions.foldl (fun t action => r.act action t) t

variable {t : Terminal}

theorem inRange_act (r : Registry) (action : Action) (hs : t.session.InRange) :
    (r.act action t).session.InRange := by
  cases action with
  | operation operation => exact (hs.perform operation).of_typedPart (Told.perform operation t).session
  | cancel => exact Session.inRange_of_none rfl
  | execute typed =>
      rw [act]
      by_cases hb : Text.strip typed = ""
      · rw [r.execute_of_blank hb]
        exact hs
      · have hcursor := r.cursor_execute hb t
        exact Session.inRange_of_none hcursor

theorem inRange_actAll (r : Registry) (actions : List Action) (hs : t.session.InRange) :
    (r.actAll actions t).session.InRange := by
  induction actions generalizing t with
  | nil => exact hs
  | cons action rest ih => exact ih (r.inRange_act action hs)

/-- The statements of a line do not change the typed lines, so the line itself is the newest of them. -/
theorem getLast?_execute {r : Registry} (hr : r.Spares fun t => t.session.commands) {typed : String}
    (hb : Text.strip typed ≠ "") (hc : Text.strip typed ≠ clearWord) (t : Terminal) :
    (r.execute typed t).2.session.commands.getLast? = some (Text.strip typed) := by
  have hecho : (echo (Text.strip typed) t).session.commands = (t.session.remember (Text.strip typed)).commands :=
    congrArg Prod.fst (Told.echo (Text.strip typed) t).session
  have hstatements := hr.carries.runStatements (readings typed) (echo (Text.strip typed) t)
  generalize hran : r.runStatements (readings typed) (echo (Text.strip typed) t) = ran at hstatements
  have hexecute : r.execute typed t =
      (Text.unlines ran.1, (ran.2.record (Text.unlines ran.1)).modifySession .resetCursor) := by
    rw [r.execute_of_run hb hc, hran]
  have hrecord : (ran.2.record (Text.unlines ran.1)).session.commands = ran.2.session.commands :=
    congrArg Prod.fst (Told.record (Text.unlines ran.1) ran.2).session
  have hreset : (r.execute typed t).2.session.commands = (ran.2.record (Text.unlines ran.1)).session.commands := by
    rw [hexecute]
    rfl
  rw [hreset, hrecord, hstatements, hecho, Session.getLast?_remember]

theorem recall_execute {r : Registry} (hr : r.Spares fun t => t.session.commands) {typed : String}
    (hb : Text.strip typed ≠ "") (hc : Text.strip typed ≠ clearWord) (t : Terminal) :
    ((r.execute typed t).2.browse .up).1 = Text.strip typed := by
  have hcursor := r.cursor_execute hb t
  have hlast := getLast?_execute hr hb hc t
  generalize (r.execute typed t).2 = u at hcursor hlast
  have hwalked : u.session.walked = 0 := by rw [Session.walked, hcursor]
  have hpos : 0 < u.session.commands.length := by
    rcases Nat.eq_zero_or_pos u.session.commands.length with h | h
    · rw [List.length_eq_zero_iff.mp h] at hlast
      cases hlast
    · exact h
  rw [Terminal.browse, Session.browse_up_of_lt (by rw [hwalked]; exact hpos), hwalked]
  dsimp only
  rw [List.getD_eq_getElem?_getD, List.getElem?_reverse hpos, Nat.sub_zero, ← List.getLast?_eq_getElem?, hlast]
  rfl

/-- Recalling in every session that is used in any way, with any commands and whoever watches. The cursor is at
a typed line or there is none, and stays so. Each step of each walk counts one up or down between the line being
typed and the oldest line, and gives the line at its place. Going up gives all lines from the newest on and
then repeats the oldest, and as many steps down as there are lines lead back to the line being typed. A line
just executed is the first that is recalled, where no command types lines of its own; none of the catalog does. -/
theorem recall_walk (r : Registry) (actions : List Action) {user host : String} {t : Terminal}
    (hnew : t.session = { user, host }) :
    let u := r.actAll actions t
    let lines := u.session.commands
    (u.session.position = -1 ∨ 0 ≤ u.session.position ∧ u.session.position < lines.length) ∧
    (∀ word direction,
      let before := (u.walk word).2
      let after := (before.browse direction).2
      after.session.commands = lines ∧
      after.session.position = (if lines = [] then before.session.position
        else max (-1) (min (before.session.position + direction.step) (lines.length - 1))) ∧
      (after.session.position = -1 ∧ (before.browse direction).1 = "" ∨
        ∃ k : Nat, after.session.position = k ∧ k < lines.length ∧
          lines[lines.length - 1 - k]? = some (before.browse direction).1)) ∧
    (u.session.position = -1 → ∀ k, (u.walk (List.replicate k .up)).1 =
      lines.reverse.take k ++ List.replicate (k - lines.length) (lines.headD "")) ∧
    (u.walk (List.replicate lines.length .down)).2.session.position = -1 ∧
    ((r.Spares fun t => t.session.commands) → ∀ typed, Text.strip typed ≠ "" → Text.strip typed ≠ "clear" →
      ((r.execute typed u).2.browse .up).1 = Text.strip typed) ∧
    ∀ entries endpoints, (standard entries endpoints).Spares fun t => t.session.commands := by
  intro u lines
  have hs : u.session.InRange := r.inRange_actAll actions (by rw [hnew]; exact Session.inRange_of_none rfl)
  have hplace := hs.position_le
  refine ⟨?range, fun word direction => ?step, fun hstart k => ?up, ?down,
    fun hr typed hb hc => recall_execute hr hb hc u, spares_commands_standard⟩
  case range =>
    rcases hs.recalled with ⟨h, -⟩ | ⟨k, h, hk, -⟩
    · exact .inl h
    · exact .inr ⟨by omega, by rw [h]; exact Int.ofNat_lt.mpr hk⟩
  case step =>
    intro before after
    obtain ⟨hrange, hcommands⟩ : before.session.InRange ∧ before.session.commands = lines := walk_inRange word hs
    have hspec := hrange.browse_spec direction
    rw [hcommands] at hspec
    exact hspec
  case up =>
    have hwalked : u.session.walked = 0 := by
      have heq := u.session.walked_eq
      omega
    have hup := walk_up k hs
    rw [hwalked, List.drop_zero, Nat.sub_zero] at hup
    exact hup
  case down =>
    rw [walk_down lines.length hs]
    have : (lines.length : Int) = u.session.commands.length := rfl
    omega

theorem recall_walk_catalog :
    let r := standard [] ⟨"/api", "/entities", "here"⟩
    let u := r.actAll [.operation (.remember "ls"), .execute "cd /tmp", .operation (.browse .up),
      .operation (.browse .up)] {}
    u.session.position = 1 ∧ (u.walk [.down, .down]).2.session.position = -1 ∧
      ((r.execute " pwd ; nope " u).2.browse .up).1 = "pwd ; nope" := by
  intro r u
  have hcommands : u.session.commands.length = 2 := by decide +kernel
  obtain ⟨-, -, -, hdown, hrecall, hspares⟩ := recall_walk r
    [.operation (.remember "ls"), .execute "cd /tmp", .operation (.browse .up), .operation (.browse .up)]
    (t := {}) rfl
  have htext : Text.strip " pwd ; nope " = "pwd ; nope" := by decide +kernel
  have hline := hrecall (hspares _ _) " pwd ; nope " (by rw [htext]; decide) (by rw [htext]; decide)
  change (u.walk (List.replicate u.session.commands.length .down)).2.session.position = -1 at hdown
  rw [hcommands] at hdown
  exact ⟨by decide +kernel, hdown, hline.trans htext⟩

end Registry

end LineShell
