import LineShell.Proofs.Session.Operations
import Mathlib.Data.List.Destutter
import Mathlib.Data.List.DropRight

/-!
# Histories in closed form

However long a session runs, each of its histories is the end of the full log, and how much of it is left is
told by the length of the log alone.
-/

namespace LineShell

/-! ## Bounded histories -/

namespace Bound

/-- How many entries of a log of `n` entries stay. Beyond the limit the history falls back to `keep` and
then grows up to the limit again. -/
def kept (bound : Bound) (n : Nat) : Nat :=
  if n ≤ bound.limit then n else bound.keep + (n - (bound.limit + 1)) % (bound.limit + 1 - bound.keep)

variable {bound : Bound} {n : Nat}

theorem kept_of_le (hn : n ≤ bound.limit) : bound.kept n = n := if_pos hn

theorem kept_of_lt (hn : bound.limit < n) : bound.kept n =
    bound.keep + (n - (bound.limit + 1)) % (bound.limit + 1 - bound.keep) := if_neg (Nat.not_le.mpr hn)

theorem kept_le_limit (h : bound.keep ≤ bound.limit) (n : Nat) : bound.kept n ≤ bound.limit := by
  rcases le_or_gt n bound.limit with hn | hn
  · rw [kept_of_le hn]
    exact hn
  · rw [kept_of_lt hn]
    have hmod : (n - (bound.limit + 1)) % (bound.limit + 1 - bound.keep) < bound.limit + 1 - bound.keep :=
      Nat.mod_lt _ (by omega)
    omega

theorem kept_le (h : bound.keep ≤ bound.limit) (n : Nat) : bound.kept n ≤ n := by
  rcases le_or_gt n bound.limit with hn | hn
  · exact (kept_of_le hn).le
  · exact (kept_le_limit h n).trans hn.le

theorem min_keep_le_kept (bound : Bound) (n : Nat) : min bound.keep n ≤ bound.kept n := by
  rcases le_or_gt n bound.limit with hn | hn
  · rw [kept_of_le hn]
    exact Nat.min_le_right _ _
  · rw [kept_of_lt hn]
    exact (Nat.min_le_left _ _).trans (Nat.le_add_right _ _)

theorem kept_succ (h : bound.keep ≤ bound.limit) (n : Nat) :
    bound.kept (n + 1) = if bound.limit < bound.kept n + 1 then bound.keep else bound.kept n + 1 := by
  rcases Nat.lt_trichotomy n bound.limit with hn | rfl | hn
  · rw [kept_of_le hn.le, kept_of_le (Nat.succ_le_of_lt hn), if_neg (by omega)]
  · rw [kept_of_le (Nat.le_refl _), kept_of_lt (Nat.lt_succ_self _), if_pos (Nat.lt_succ_self _), Nat.sub_self,
      Nat.zero_mod, Nat.add_zero]
  · have hperiod : n + 1 - (bound.limit + 1) = n - (bound.limit + 1) + 1 := by omega
    have hmod : (n - (bound.limit + 1)) % (bound.limit + 1 - bound.keep) < bound.limit + 1 - bound.keep :=
      Nat.mod_lt _ (by omega)
    rw [kept_of_lt hn, kept_of_lt (hn.trans (Nat.lt_succ_self n)), hperiod, ← Nat.mod_add_mod]
    generalize (n - (bound.limit + 1)) % (bound.limit + 1 - bound.keep) = r at hmod
    -- the period ends with the entry that passes the limit
    by_cases hr : r + 1 = bound.limit + 1 - bound.keep
    · rw [hr, Nat.mod_self, if_pos (by omega), Nat.add_zero]
    · rw [Nat.mod_eq_of_lt (by omega), if_neg (by omega), Nat.add_assoc]

/-- Pushing an entry onto the kept end of a log leaves the kept end of the longer log. -/
theorem push_rtake (h : bound.keep ≤ bound.limit) (log : List α) (entry : α) :
    bound.push (log.rtake (bound.kept log.length)) entry =
      (log ++ [entry]).rtake (bound.kept (log.length + 1)) := by
  have hle := kept_le h log.length
  have hlength : ((log ++ [entry]).rtake (bound.kept log.length + 1)).length = bound.kept log.length + 1 := by
    rw [List.rtake, List.length_drop, List.length_append, List.length_singleton]
    omega
  rw [push, trim, ← List.rtake_concat_succ, hlength, kept_succ h]
  split
  · rw [List.rtake, List.rtake, List.drop_drop, List.length_append, List.length_singleton]
    congr 1
    omega
  · rfl

end Bound

/-! ## Full logs -/

namespace Operation

def shown? : Operation → Option String
  | .append line => some line
  | _ => none

def typed? : Operation → Option String
  | .remember line => some line
  | _ => none

def empties : Operation → Bool
  | .clear => true
  | _ => false

end Operation

/-- The lines added to the transcript since it was last emptied. -/
def shownLines (operations : List Operation) : List String :=
  (operations.rtakeWhile (!·.empties)).filterMap Operation.shown?

/-- The lines typed, each repetition of the line before it left out. -/
def typedLines (operations : List Operation) : List String :=
  (operations.filterMap Operation.typed?).destutter (· ≠ ·)

/-! ## Collapsed repetitions -/

section

variable {α : Type} [DecidableEq α]

theorem destutter'_concat (a : α) (entries : List α) (entry : α) :
    (entries ++ [entry]).destutter' (· ≠ ·) a =
      if (entries.destutter' (· ≠ ·) a).getLast? = some entry then entries.destutter' (· ≠ ·) a
      else entries.destutter' (· ≠ ·) a ++ [entry] := by
  induction entries generalizing a with
  | nil =>
      by_cases h : a = entry
      · simp [h]
      · simp [h]
  | cons b entries ih =>
      by_cases h : a = b
      · rw [List.cons_append, List.destutter'_cons_neg _ (not_not.mpr h), List.destutter'_cons_neg _ (not_not.mpr h),
          ih]
      · have hne : entries.destutter' (· ≠ ·) b ≠ [] := List.destutter'_ne_nil _ _
        rw [List.cons_append, List.destutter'_cons_pos _ h, List.destutter'_cons_pos _ h, ih,
          List.getLast?_cons_of_ne_nil hne]
        split
        · rfl
        · rfl

theorem destutter_concat (entries : List α) (entry : α) :
    (entries ++ [entry]).destutter (· ≠ ·) =
      if (entries.destutter (· ≠ ·)).getLast? = some entry then entries.destutter (· ≠ ·)
      else entries.destutter (· ≠ ·) ++ [entry] := by
  cases entries with
  | nil => simp
  | cons a entries =>
      rw [List.cons_append, List.destutter_cons', List.destutter_cons', destutter'_concat]

end

/-! ## Logs of one more operation -/

theorem shownLines_clear (operations : List Operation) : shownLines (operations ++ [.clear]) = [] := by
  rw [shownLines, List.rtakeWhile_concat_neg _ _ _ (by simp [Operation.empties]), List.filterMap_nil]

theorem shownLines_concat {operation : Operation} (h : operation.empties = false) (operations : List Operation) :
    shownLines (operations ++ [operation]) = shownLines operations ++ operation.shown?.toList := by
  rw [shownLines, List.rtakeWhile_concat_pos _ _ _ (by simp [h]), List.filterMap_append]
  cases operation <;> rfl

theorem shownLines_append (operations : List Operation) (line : String) :
    shownLines (operations ++ [.append line]) = shownLines operations ++ [line] := shownLines_concat rfl _

theorem shownLines_of_none {operation : Operation} (hempties : operation.empties = false)
    (hshown : operation.shown? = none) (operations : List Operation) :
    shownLines (operations ++ [operation]) = shownLines operations := by
  rw [shownLines_concat hempties, hshown, Option.toList_none, List.append_nil]

theorem typedLines_of_none {operation : Operation} (h : operation.typed? = none) (operations : List Operation) :
    typedLines (operations ++ [operation]) = typedLines operations := by
  rw [typedLines, List.filterMap_append, List.filterMap_cons_none h, List.filterMap_nil, List.append_nil]
  rfl

theorem typedLines_remember (operations : List Operation) (line : String) :
    typedLines (operations ++ [.remember line]) =
      if (typedLines operations).getLast? = some line then typedLines operations
      else typedLines operations ++ [line] := by
  rw [typedLines, List.filterMap_append]
  exact destutter_concat _ _

/-! ## What a session holds -/

/-- The histories of the session are the kept ends of the logs. -/
structure Session.Logged (operations : List Operation) (s : Session) : Prop where
  transcript : s.transcript = (shownLines operations).rtake (transcriptBound.kept (shownLines operations).length)
  commands : s.commands = (typedLines operations).rtake (commandBound.kept (typedLines operations).length)

namespace Session

namespace Logged

variable {operations : List Operation} {s : Session}

theorem getLast?_commands (h : Logged operations s) : s.commands.getLast? = (typedLines operations).getLast? := by
  have hkept := commandBound.min_keep_le_kept (typedLines operations).length
  have hkeep : commandBound.keep = 50 := rfl
  rw [h.commands, List.rtake, List.getLast?_drop]
  split
  · have hnil : typedLines operations = [] := List.length_eq_zero_iff.mp (by omega)
    rw [hnil, List.getLast?_nil]
  · rfl

theorem unlogged {operation : Operation} (h : Logged operations s) (hempties : operation.empties = false)
    (hshown : operation.shown? = none) (htyped : operation.typed? = none) {u : Session}
    (htranscript : u.transcript = s.transcript) (hcommands : u.commands = s.commands) :
    Logged (operations ++ [operation]) u where
  transcript := by
    rw [shownLines_of_none hempties hshown, htranscript]
    exact h.transcript
  commands := by
    rw [typedLines_of_none htyped, hcommands]
    exact h.commands

theorem append (h : Logged operations s) (line : String) :
    Logged (operations ++ [.append line]) (s.append line) where
  transcript := by
    rw [shownLines_append, List.length_append, List.length_singleton, ← Bound.push_rtake (by decide),
      ← h.transcript]
    rfl
  commands := by
    rw [typedLines_of_none rfl]
    exact h.commands

theorem clear (h : Logged operations s) : Logged (operations ++ [.clear]) s.clear where
  transcript := by
    rw [shownLines_clear]
    rfl
  commands := by
    rw [typedLines_of_none rfl]
    exact h.commands

theorem remember (h : Logged operations s) (line : String) :
    Logged (operations ++ [.remember line]) (s.remember line) where
  transcript := by
    rw [shownLines_of_none rfl rfl]
    exact h.transcript
  commands := by
    rw [typedLines_remember, ← h.getLast?_commands]
    by_cases hlast : s.commands.getLast? = some line
    · rw [if_pos hlast, remember_of_getLast? hlast]
      exact h.commands
    · rw [if_neg hlast, remember_of_getLast?_ne hlast, List.length_append, List.length_singleton,
        ← Bound.push_rtake (by decide), ← h.commands]

theorem perform (h : Logged operations s) (operation : Operation) :
    Logged (operations ++ [operation]) (s.perform operation) := by
  cases operation with
  | append line => exact h.append line
  | clear => exact h.clear
  | remember line => exact h.remember line
  | browse direction => exact h.unlogged rfl rfl rfl (transcript_browse _ _) (commands_browse _ _)
  | resetCursor => exact h.unlogged rfl rfl rfl rfl rfl
  | enter directory => exact h.unlogged rfl rfl rfl rfl rfl

end Logged

theorem logged_performAll (operations : List Operation) {s : Session} (htranscript : s.transcript = [])
    (hcommands : s.commands = []) : Logged operations (s.performAll operations) := by
  induction operations using List.reverseRecOn with
  | nil => exact ⟨htranscript, hcommands⟩
  | append_singleton operations operation ih =>
      rw [performAll_concat]
      exact ih.perform operation

end Session

/-! ## Both histories -/

theorem length_rtake_kept (bound : Bound) (h : bound.keep ≤ bound.limit) (log : List α) :
    (log.rtake (bound.kept log.length)).length ≤ bound.limit := by
  have hle := bound.kept_le_limit h log.length
  rw [List.rtake, List.length_drop]
  omega

theorem rtake_suffix_kept (bound : Bound) (log : List α) :
    log.rtake bound.keep <:+ log.rtake (bound.kept log.length) := by
  have hle := bound.min_keep_le_kept log.length
  rw [List.rtake, List.rtake]
  exact List.drop_suffix_drop_left log (by omega)

/-- Both histories after any operations on a new session, whoever watches without adding lines. The transcript
is the end of what was shown since it was last emptied, and the typed lines are the end of all that was typed
with repetitions collapsed; up to their limits they hold everything, and beyond them the newest half and what
came since the last cut. So they never pass their limits, no typed line repeats the one before it, and the
newest half is always there. -/
theorem Terminal.histories_eq (operations : List Operation) {user host : String} {t : Terminal}
    (hq : t.Quiet) (hnew : t.session = { user, host }) :
    let s := (t.performAll operations).session
    let shown := shownLines operations
    let typed := typedLines operations
    s.transcript = shown.rtake
      (if shown.length ≤ 1000 then shown.length else 500 + (shown.length - 1001) % 501) ∧
    s.commands = typed.rtake
      (if typed.length ≤ 100 then typed.length else 50 + (typed.length - 101) % 51) ∧
    s.transcript.length ≤ 1000 ∧ s.commands.length ≤ 100 ∧
    s.commands.IsChain (· ≠ ·) ∧
    shown.rtake 500 <:+ s.transcript ∧ typed.rtake 50 <:+ s.commands := by
  intro s shown typed
  have hs : s.Logged operations := by
    have hrun : s = t.session.performAll operations := hq.session_performAll operations
    rw [hrun, hnew]
    exact Session.logged_performAll operations rfl rfl
  have hchain : typed.IsChain (· ≠ ·) := List.isChain_destutter _ _
  refine ⟨hs.transcript, hs.commands, ?_, ?_, ?_, ?_, ?_⟩
  · rw [hs.transcript]
    exact length_rtake_kept transcriptBound (by decide) shown
  · rw [hs.commands]
    exact length_rtake_kept commandBound (by decide) typed
  · rw [hs.commands]
    exact hchain.suffix (List.drop_suffix _ _)
  · rw [hs.transcript]
    exact rtake_suffix_kept transcriptBound shown
  · rw [hs.commands]
    exact rtake_suffix_kept commandBound typed

/-- Both histories are cut once and then grow by one entry. -/
theorem Terminal.histories_eq_past_limits :
    let operations := List.replicate 1002 (Operation.append "hello") ++
      (List.replicate 51 [Operation.remember "ls", .remember "ls", .browse .up, .remember "pwd"]).flatten
    let s := (Terminal.performAll operations {}).session
    s.transcript.length = 501 ∧ s.commands.length = 51 ∧ s.commands.head? = some "pwd" := by
  intro operations s
  have hquiet : Quiet {} := by simp [Quiet]
  obtain ⟨htranscript, hcommands, -⟩ := histories_eq operations hquiet rfl
  rw [htranscript, hcommands]
  exact ⟨by decide +kernel, by decide +kernel, by decide +kernel⟩

end LineShell
