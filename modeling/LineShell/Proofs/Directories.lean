import LineShell.Proofs.Sparing
import Mathlib.Logic.Function.Iterate

/-!
# Working directories

Wherever `cd` leads, the working directory is home, an absolute path, or known names one below the other. The
directory above drops what follows the last slash, so it undoes going down, and going up leads home in as many
steps as there are segments to drop.
-/

namespace LineShell

open Terminal Text

namespace Directory

/-! ## Paths -/

def below (directory name : String) : String := s!"{directory}/{name}"

theorem toList_below (directory name : String) :
    (below directory name).toList = directory.toList ++ '/' :: name.toList := by
  simp [below, toString]

theorem split_below (directory : String) {name : String} (h : hasChar '/' name = false) :
    split '/' (below directory name) = split '/' directory ++ [name] := by
  have hsplit : split '/' (below directory name) = split '/' directory ++ split '/' name :=
    split_append_sep '/' directory name
  rw [hsplit, split_of_not_hasChar h]

theorem parent_below (directory : String) {name : String} (h : hasChar '/' name = false) :
    parent (below directory name) = if directory = "" then home else directory := by
  have hjoin : join "/" (split '/' directory) = directory := join_split '/' directory
  simp only [parent, split_below directory h, List.dropLast_concat, hjoin, String.isEmpty_iff]

theorem parent_of_not_hasChar {directory : String} (h : hasChar '/' directory = false) : parent directory = home := by
  rw [parent, split_of_not_hasChar h]
  rfl

theorem exists_below {directory : String} (h : hasChar '/' directory = true) :
    ∃ upper name, hasChar '/' name = false ∧ directory = below upper name := by
  obtain ⟨first, second, rest, hsplit⟩ := exists_split_of_hasChar h
  obtain ⟨init, last, hlast⟩ : ∃ init last, second :: rest = init ++ [last] :=
    ⟨_, _, (List.dropLast_append_getLast (List.cons_ne_nil second rest)).symm⟩
  have hpieces : split '/' directory = (first :: init) ++ [last] := by rw [hsplit, hlast, List.cons_append]
  refine ⟨join "/" (first :: init), last, ?_, ?_⟩
  · have hmem : last ∈ split '/' directory := by simp [hpieces]
    exact (hasChar_eq_false_iff '/' last).mpr fun hslash => (of_mem_split hmem '/' hslash).2 rfl
  · have hjoin : join "/" (split '/' directory) = directory := join_split '/' directory
    rw [← hjoin, hpieces, join_append "/" (List.cons_ne_nil first init) (List.cons_ne_nil last [])]
    simp [below, toString, join]

def slashes (directory : String) : Nat := directory.toList.count '/'

theorem slashes_below (directory : String) {name : String} (h : hasChar '/' name = false) :
    slashes (below directory name) = slashes directory + 1 := by
  have hname : name.toList.count '/' = 0 := List.count_eq_zero.mpr ((hasChar_eq_false_iff '/' name).mp h)
  simp [slashes, toList_below, hname]

theorem isAbsolute_below {directory name : String} (hne : directory ≠ "") :
    isAbsolute (below directory name) = isAbsolute directory := by
  have hne' : directory.toList ≠ [] := by simpa using hne
  simp [isAbsolute, toList_below, List.head?_append_of_ne_nil _ hne']

/-! ## Going up -/

theorem parent_home : parent home = home := by decide

theorem iterate_parent_home (k : Nat) : parent^[k] home = home := Function.iterate_fixed parent_home k

theorem hasChar_of_isAbsolute {directory : String} (h : isAbsolute directory = true) :
    hasChar '/' directory = true := by
  have hmem : '/' ∈ directory.toList := List.mem_of_head? (by simpa [isAbsolute] using h)
  rw [← Bool.not_eq_false, hasChar_eq_false_iff]
  exact not_not_intro hmem

/-- An absolute path is as many steps below home as it has slashes. -/
theorem iterate_parent_absolute {directory : String} (h : isAbsolute directory = true) (k : Nat) :
    parent^[k] directory = home ↔ slashes directory ≤ k := by
  induction k generalizing directory with
  | zero =>
      obtain ⟨upper, name, hname, rfl⟩ := exists_below (hasChar_of_isAbsolute h)
      rw [slashes_below upper hname]
      refine ⟨fun hhome => ?_, fun hle => absurd hle (by omega)⟩
      rw [Function.iterate_zero_apply] at hhome
      rw [hhome] at h
      exact absurd h (by decide)
  | succ k ih =>
      obtain ⟨upper, name, hname, rfl⟩ := exists_below (hasChar_of_isAbsolute h)
      rw [Function.iterate_succ_apply, parent_below upper hname, slashes_below upper hname]
      by_cases hupper : upper = ""
      · subst hupper
        simp [iterate_parent_home, slashes]
      · rw [if_neg hupper, ih ((isAbsolute_below hupper).symm.trans h)]
        omega

/-! ## Places -/

/-- A working directory: home, an absolute path, or known names one below the other. -/
inductive IsPlace : String → Prop
  | home : IsPlace home
  | absolute {path} (h : isAbsolute path = true) : IsPlace path
  | named {names} (hne : names ≠ []) (h : ∀ name ∈ names, name ∈ known) : IsPlace (join "/" names)

theorem of_mem_known {name : String} (h : name ∈ known) :
    hasChar '/' name = false ∧ name ≠ home ∧ name ≠ "" ∧ name ≠ above ∧ isAbsolute name = false := by
  revert name
  decide

theorem hasChar_of_mem_known {name : String} (h : name ∈ known) : hasChar '/' name = false := (of_mem_known h).1

theorem exists_concat {names : List String} (hne : names ≠ []) : ∃ init last, names = init ++ [last] :=
  ⟨_, _, (List.dropLast_append_getLast hne).symm⟩

theorem join_singleton (name : String) : join "/" [name] = name := by simp [join]

theorem join_concat {names : List String} (hne : names ≠ []) (name : String) :
    join "/" (names ++ [name]) = below (join "/" names) name := by
  rw [join_append "/" hne (List.cons_ne_nil name [])]
  simp [below, toString, join]

section

variable {names : List String} (hne : names ≠ []) (h : ∀ name ∈ names, name ∈ known)

include hne h

theorem split_named : split '/' (join "/" names) = names :=
  split_join hne fun name hname => (of_mem_known (h name hname)).1

theorem named_ne {directory : String} (hsplit : ∀ name ∈ split '/' directory, name ∉ known) :
    join "/" names ≠ directory := by
  rintro rfl
  rw [split_named hne h] at hsplit
  obtain ⟨name, hname⟩ := List.exists_mem_of_ne_nil names hne
  exact hsplit name hname (h name hname)

theorem iterate_parent_named (k : Nat) : parent^[k] (join "/" names) = home ↔ names.length ≤ k := by
  induction k generalizing names with
  | zero =>
      have hpos := List.length_pos_iff.mpr hne
      refine ⟨fun hhome => absurd hhome (named_ne hne h ?_), fun hle => absurd hle (by omega)⟩
      decide
  | succ k ih =>
      obtain ⟨init, last, rfl⟩ := exists_concat hne
      obtain ⟨hinit, hlast⟩ := List.forall_mem_append.mp h
      have hname := hasChar_of_mem_known (hlast last List.mem_cons_self)
      rw [Function.iterate_succ_apply, List.length_append, List.length_singleton, Nat.add_le_add_iff_right]
      by_cases hnil : init = []
      · subst hnil
        rw [List.nil_append, join_singleton, parent_of_not_hasChar hname]
        simp [iterate_parent_home]
      · have hne' : join "/" init ≠ "" := named_ne hnil hinit (by decide)
        rw [join_concat hnil, parent_below _ hname, if_neg hne', ih hnil hinit]

end

/-- Where a target leads: up, to itself, or to a known name below the directory. -/
theorem move_cases {target directory place : String} (h : move target directory = .ok place) :
    (target = above ∧ place = parent directory) ∨
    ((target = home ∨ isAbsolute target = true) ∧ place = target) ∨
    (target ∈ known ∧ place = if directory = home then target else below directory target) := by
  unfold move at h
  split at h
  · exact .inl ⟨beq_iff_eq.mp ‹_›, (Except.ok.inj h).symm⟩
  · split at h
    · rename_i hfree
      refine .inr (.inl ⟨?_, (Except.ok.inj h).symm⟩)
      simpa using hfree
    · split at h
      · refine .inr (.inr ⟨List.contains_iff_mem.mp ‹_›, ?_⟩)
        rw [← Except.ok.inj h]
        simp only [beq_iff_eq, below]
      · cases h

namespace IsPlace

variable {directory : String}

theorem ne_empty (h : IsPlace directory) : directory ≠ "" := by
  cases h with
  | home => decide
  | absolute h =>
      rintro rfl
      exact absurd h (by decide)
  | named hne h => exact named_ne hne h (by decide)

/-- A known name is entered below the working directory; home does not show in it. -/
theorem enter (h : IsPlace directory) {name : String} (hname : name ∈ known) :
    IsPlace (if directory = LineShell.home then name else below directory name) := by
  by_cases hhome : directory = LineShell.home
  · rw [if_pos hhome, ← join_singleton name]
    exact named (List.cons_ne_nil name []) (by simpa using hname)
  · rw [if_neg hhome]
    cases h with
    | home => exact absurd rfl hhome
    | absolute h => exact .absolute ((isAbsolute_below (IsPlace.absolute h).ne_empty).trans h)
    | named hne h =>
        rw [← join_concat hne]
        exact .named (by simp) (List.forall_mem_append.mpr ⟨h, by simpa using hname⟩)

theorem parent (h : IsPlace directory) : IsPlace (parent directory) := by
  cases h with
  | home =>
      rw [parent_home]
      exact .home
  | absolute h =>
      obtain ⟨upper, name, hname, rfl⟩ := exists_below (hasChar_of_isAbsolute h)
      rw [parent_below upper hname]
      split
      · exact .home
      · rename_i hupper
        exact .absolute ((isAbsolute_below hupper).symm.trans h)
  | named hne h =>
      rename_i names
      obtain ⟨init, last, rfl⟩ := exists_concat hne
      obtain ⟨hinit, hlast⟩ := List.forall_mem_append.mp h
      have hname := hasChar_of_mem_known (hlast last List.mem_cons_self)
      by_cases hnil : init = []
      · subst hnil
        rw [List.nil_append, join_singleton, parent_of_not_hasChar hname]
        exact .home
      · rw [join_concat hnil, parent_below _ hname, if_neg (IsPlace.named hnil hinit).ne_empty]
        exact .named hnil hinit

theorem move (h : IsPlace directory) {target place : String} (hmove : move target directory = .ok place) :
    IsPlace place := by
  rcases move_cases hmove with ⟨-, hplace⟩ | ⟨hhome | habsolute, hplace⟩ | ⟨hknown, hplace⟩ <;> rw [hplace]
  · exact h.parent
  · rw [hhome]
    exact .home
  · exact .absolute habsolute
  · exact h.enter hknown

/-- Going up undoes going down. -/
theorem parent_enter (h : IsPlace directory) {name : String} (hname : name ∈ known) :
    Directory.parent (if directory = LineShell.home then name else below directory name) = directory := by
  have hslash := hasChar_of_mem_known hname
  by_cases hhome : directory = LineShell.home
  · rw [if_pos hhome, parent_of_not_hasChar hslash, hhome]
  · rw [if_neg hhome, parent_below directory hslash, if_neg h.ne_empty]

end IsPlace

/-! ## Where a command leads -/

def after (args : List String) (directory : String) : String :=
  match args with
  | [] => home
  | target :: _ => (move target directory).toOption.getD directory

theorem IsPlace.after (h : IsPlace directory) (args : List String) : IsPlace (after args directory) := by
  cases args with
  | nil => exact .home
  | cons target more =>
      simp only [Directory.after]
      cases hmove : Directory.move target directory with
      | error failure => exact h
      | ok place => exact h.move hmove

theorem after_above (directory : String) : after [above] directory = parent directory := by
  simp only [after, move, beq_self_eq_true, if_true, Except.toOption, Option.getD_some]

theorem after_known {name : String} (hname : name ∈ known) (directory : String) :
    after [name] directory = if directory = home then name else below directory name := by
  obtain ⟨-, hhome, -, habove, habsolute⟩ := of_mem_known hname
  have hmove : move name directory = .ok (if directory = home then name else below directory name) := by
    simp [move, habove, hhome, habsolute, hname, below]
  simp only [after, hmove, Except.toOption, Option.getD_some]

end Directory

/-! ## Commands -/

namespace Builtin

theorem directory_cd (call : Call) (t : Terminal) :
    (cd call t).2.session.directory = Directory.after call.args t.session.directory := by
  unfold cd Directory.after
  cases call.args with
  | nil => rfl
  | cons target more =>
      dsimp only
      cases Directory.move target t.session.directory with
      | error failure => rfl
      | ok place => rfl

theorem cd_error {call : Call} {t : Terminal} {failure : Failure} (h : (cd call t).1 = .error failure) :
    (cd call t).2 = t := by
  unfold cd at h ⊢
  split at h
  · cases h
  · split at h
    · rfl
    · cases h

end Builtin

theorem directory_catalog (entries : List FileEntry) (endpoints : Endpoints) : ∀ c ∈ catalog entries endpoints,
    c.handler = Builtin.cd ∨ ∀ call t, (c.handler call t).2.session.directory = t.session.directory := by
  intro c hc
  rcases asked_catalog entries endpoints c hc with h | h | h
  · rw [h]
    exact .inr fun _ t => directory_eq_of_desk_eq (Told.clear t).desk
  · exact .inl h
  · exact .inr fun call t => congrArg Session.directory (h call t).session

/-! ## Lines -/

namespace Registry

open Directory

variable (entries : List FileEntry) (endpoints : Endpoints)

theorem carries_isPlace : (standard entries endpoints).Carries fun t u =>
    IsPlace t.session.directory → IsPlace u.session.directory where
  refl _ := id
  trans h h' := h' ∘ h
  noteAll _ _ := id
  handler c hc call t ht := by
    rcases directory_catalog entries endpoints c hc with h | h
    · rw [h, Builtin.directory_cd]
      exact ht.after call.args
    · rw [h]
      exact ht

theorem isPlace_executeAll (inputs : List String) {t : Terminal} (h : IsPlace t.session.directory) :
    IsPlace ((standard entries endpoints).executeAll inputs t).2.session.directory := by
  induction inputs generalizing t with
  | nil => exact h
  | cons typed rest ih =>
      have hdesk : ∀ {t u : Terminal}, u.desk = t.desk →
          IsPlace t.session.directory → IsPlace u.session.directory := by
        intro t u hdesk ht
        rwa [directory_eq_of_desk_eq hdesk]
      have hplace := (carries_isPlace entries endpoints).execute hdesk typed t h
      have hrest := ih hplace
      simp only [executeAll]
      exact hrest

theorem firstCommand_of_single {typed : String} {stage : Stage} (h : readings typed = [.single stage]) :
    segments typed ≠ [] ∧ ∀ segment ∈ segments typed, firstCommand segment = stage.name := by
  constructor
  · intro hnil
    rw [(readings_eq_nil_iff typed).mpr hnil] at h
    cases h
  · intro segment hsegment
    have hmem : Statement.parse segment ∈ readings typed := List.mem_map_of_mem hsegment
    rw [h, List.mem_singleton] at hmem
    rw [← Statement.first_parse, hmem]
    rfl

theorem execute_cd {typed : String} {args : List String} (h : readings typed = [.single ⟨"cd", args⟩])
    (t : Terminal) : ∃ (c : Command) (call : Call), c.name = "cd" ∧ call.args = args ∧
      ((standard entries endpoints).execute typed t).1 = c.said (Builtin.cd call t).1 ∧
      ((standard entries endpoints).execute typed t).2.session.directory = after args t.session.directory := by
  obtain ⟨hne, hfirst⟩ := firstCommand_of_single h
  obtain ⟨c, hfind, hname, hhandler⟩ : ∃ c, find? "cd" (standard entries endpoints) = some c ∧ c.name = "cd" ∧
      c.handler = Builtin.cd := ⟨_, rfl, rfl, rfl⟩
  obtain ⟨htext, hdesk⟩ := execute_same entries endpoints hne
    (fun segment hsegment => hfirst segment hsegment ▸ (by decide : "cd" ≠ "history")) (rfl : t.desk = t.desk)
  let call : Call := { args, known := (standard entries endpoints).summaries }
  obtain ⟨more, hcall⟩ : ∃ more, (standard entries endpoints).call c args t =
      (c.said (Builtin.cd call t).1, (Builtin.cd call t).2.noteAll more) :=
    hhandler ▸ (standard entries endpoints).call_eq c args t
  have hrun : (standard entries endpoints).runText typed t = (standard entries endpoints).call c args t := by
    rw [runText_eq _ h]
    simp only [runStatements, runStatement, get_of_some hfind, unlines_singleton]
  rw [hrun, hcall] at htext hdesk
  exact ⟨c, call, hname, rfl, htext, (directory_eq_of_desk_eq hdesk).trans (Builtin.directory_cd call t)⟩

theorem execute_up (t : Terminal) : ((standard entries endpoints).execute "cd .." t).2.session.directory =
    parent t.session.directory := by
  have hreadings : readings "cd .." = [.single ⟨"cd", [above]⟩] := by decide
  obtain ⟨-, -, -, -, -, hdirectory⟩ := execute_cd entries endpoints hreadings t
  rw [hdirectory, after_above]

theorem executeAll_up (k : Nat) (t : Terminal) :
    ((standard entries endpoints).executeAll (List.replicate k "cd ..") t).2.session.directory =
      parent^[k] t.session.directory := by
  induction k generalizing t with
  | zero => rfl
  | succ k ih =>
      rw [List.replicate_succ, executeAll, Function.iterate_succ_apply, ← execute_up entries endpoints t]
      exact ih _

theorem readings_down {name : String} (h : name ∈ known) : readings ("cd " ++ name) = [.single ⟨"cd", [name]⟩] := by
  revert name
  decide

/-- Whatever lines are executed, the working directory of a new session is home, an absolute path, or known names one
below the other, and never empty. In every such place, a `cd` that fails changes nothing, going down to a known name
and up again leads back, and going up leads home in as many steps as an absolute path has slashes and other paths
have names, and then stays there. -/
theorem directory_laws {user host : String} {t : Terminal} (hnew : t.session = { user, host }) :
    let r := standard entries endpoints
    (∀ inputs, IsPlace (r.executeAll inputs t).2.session.directory) ∧
    (∀ u, IsPlace u.session.directory →
      let place := u.session.directory
      place ≠ "" ∧
      (∀ call failure, (Builtin.cd call u).1 = .error failure → (Builtin.cd call u).2 = u) ∧
      (∀ typed target more, readings typed = [.single ⟨"cd", target :: more⟩] → target ∉ known → target ≠ ".." →
        target ≠ "~" → isAbsolute target = false →
        (r.execute typed u).1 = s!"cd: {target}: No such file or directory" ∧
        (r.execute typed u).2.session.directory = place) ∧
      (∀ name ∈ known, (r.executeAll ["cd " ++ name, "cd .."] u).2.session.directory = place) ∧
      ∀ k,
        let top := (r.executeAll (List.replicate k "cd ..") u).2.session.directory
        (place = "~" → top = "~") ∧
        (isAbsolute place = true → (top = "~" ↔ place.toList.count '/' ≤ k)) ∧
        ∀ names, names ≠ [] → (∀ name ∈ names, name ∈ known) → place = join "/" names →
          (top = "~" ↔ names.length ≤ k)) := by
  intro r
  refine ⟨fun inputs => isPlace_executeAll entries endpoints inputs ?new, fun u hplace => ?laws⟩
  case new =>
    rw [hnew]
    exact .home
  case laws =>
    refine ⟨hplace.ne_empty, fun call failure h => Builtin.cd_error h,
      fun typed target more hread hknown habove hhome habsolute => ?fails, fun name hname => ?down, fun k => ?up⟩
    case fails =>
      obtain ⟨c, call, hname, hargs, htext, hdirectory⟩ := execute_cd entries endpoints hread u
      -- the target is none of those that `cd` goes to, so the last case of a move is left
      have hmove : move target u.session.directory =
          .error (.invalidTarget s!"cd: {target}: No such file or directory") := by
        simp [move, above, habove, home, hhome, habsolute, hknown]
      have hcd : (Builtin.cd call u).1 = .error (.invalidTarget s!"cd: {target}: No such file or directory") := by
        simp only [Builtin.cd, hargs, hmove]
      refine ⟨?_, ?_⟩
      · rw [htext, hcd]
        rfl
      · rw [hdirectory, after, hmove]
        rfl
    case down =>
      obtain ⟨-, -, -, -, -, hdirectory⟩ := execute_cd entries endpoints (readings_down hname) u
      simp only [executeAll]
      rw [execute_up, hdirectory, after_known hname, hplace.parent_enter hname]
    case up =>
      intro top
      have htop : top = parent^[k] u.session.directory := executeAll_up entries endpoints k u
      rw [htop]
      refine ⟨fun h => ?_, fun h => iterate_parent_absolute h k, fun names hne h hjoin => ?_⟩
      · rw [h]
        exact iterate_parent_home k
      · rw [hjoin]
        exact iterate_parent_named hne h k

theorem directory_laws_rooms :
    let r := standard [] ⟨"/api", "/entities", "here"⟩
    let u := (r.executeAll ["cd musica; cd downloads", "cd nowhere"] {}).2
    IsPlace u.session.directory ∧ u.session.directory = "musica/downloads" ∧
    (r.executeAll (List.replicate 1 "cd ..") u).2.session.directory ≠ "~" ∧
    (r.executeAll (List.replicate 2 "cd ..") u).2.session.directory = "~" := by
  intro r u
  obtain ⟨hplaces, hlaws⟩ := directory_laws [] ⟨"/api", "/entities", "here"⟩ (t := {}) rfl
  have hplace := hplaces ["cd musica; cd downloads", "cd nowhere"]
  have hdirectory : u.session.directory = join "/" ["musica", "downloads"] := by decide +kernel
  obtain ⟨-, -, -, -, hup⟩ := hlaws u hplace
  have hnames := fun k => (hup k).2.2 ["musica", "downloads"] (by decide) (by decide) hdirectory
  refine ⟨hplace, hdirectory.trans (by decide +kernel), fun h => ?_, (hnames 2).mpr (Nat.le_refl 2)⟩
  exact absurd ((hnames 1).mp h) (by decide)

end Registry

end LineShell
