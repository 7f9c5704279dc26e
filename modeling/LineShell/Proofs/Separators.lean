import LineShell.Proofs.Directories

/-!
# Doubled separators

A known name is put behind the working directory with a separator of its own, except at home. So the separator is
doubled exactly where the directory ends in one, as the root does and an absolute path that was typed so.
-/

namespace LineShell

open Text

namespace Directory

/-! ## Paths -/

def endsOpen (path : String) : Bool := path.toList.getLast? == some '/'

def isDoubled (path : String) : Bool := hasPart "//" path

theorem isInfix_append_slash {name : List Char} (h : '/' ∉ name) (cs : List Char) :
    ['/', '/'] <:+: cs ++ '/' :: name ↔ ['/', '/'] <:+: cs ∨ cs.getLast? = some '/' := by
  induction cs with
  | nil =>
      have hname : ¬ ['/', '/'] <:+: '/' :: name := by
        rw [List.infix_cons_iff, not_or]
        refine ⟨fun hfront => h ?_, fun hwithin => h (hwithin.subset (by simp))⟩
        exact (List.cons_prefix_cons.mp hfront).2.subset (by simp)
      simp [hname]
  | cons c cs ih =>
      rw [List.cons_append, List.infix_cons_iff, ih, List.infix_cons_iff]
      cases cs with
      | nil => simp [eq_comm (a := '/')]
      | cons d cs => simp [or_assoc]

theorem isDoubled_below (directory : String) {name : String} (h : hasChar '/' name = false) :
    isDoubled (below directory name) = true ↔ isDoubled directory = true ∨ endsOpen directory = true := by
  have hname : '/' ∉ name.toList := (hasChar_eq_false_iff '/' name).mp h
  have hslashes : "//".toList = ['/', '/'] := rfl
  rw [isDoubled, isDoubled, hasPart_iff, hasPart_iff, toList_below, hslashes, isInfix_append_slash hname, endsOpen,
    beq_iff_eq]

theorem endsOpen_below (directory : String) {name : String} (h : hasChar '/' name = false) (hne : name ≠ "") :
    endsOpen (below directory name) = false := by
  have hlast : (below directory name).toList.getLast? = name.toList.getLast? := by
    rw [toList_below, List.getLast?_append, List.getLast?_cons, Option.some_or]
    cases hname : name.toList.getLast? with
    | none => exact absurd (List.getLast?_eq_none_iff.mp hname) (by simpa using hne)
    | some c => rfl
  rw [endsOpen, hlast, beq_eq_false_iff_ne]
  exact fun hslash => (hasChar_eq_false_iff '/' name).mp h (List.mem_of_getLast? hslash)

theorem closed_home : isDoubled home = false ∧ endsOpen home = false := by decide

/-! ## Steps -/

section

variable {directory : String} {args : List String}

theorem parent_cases (directory : String) : parent directory = home ∨
    ∃ name, hasChar '/' name = false ∧ directory = below (parent directory) name := by
  cases hslash : hasChar '/' directory with
  | false => exact .inl (parent_of_not_hasChar hslash)
  | true =>
      obtain ⟨upper, name, hname, rfl⟩ := exists_below hslash
      rw [parent_below upper hname]
      by_cases hupper : upper = ""
      · exact .inl (if_pos hupper)
      · rw [if_neg hupper]
        exact .inr ⟨name, hname, rfl⟩

theorem not_doubled_parent (h : isDoubled directory = false) :
    isDoubled (parent directory) = false ∧ endsOpen (parent directory) = false := by
  rcases parent_cases directory with hhome | ⟨name, hname, hbelow⟩
  · rw [hhome]
    exact closed_home
  · rw [hbelow, ← Bool.not_eq_true, isDoubled_below _ hname, not_or, Bool.not_eq_true, Bool.not_eq_true] at h
    exact h

theorem isDoubled_enter {name : String} (hname : name ∈ known) (hopen : endsOpen directory = true)
    (more : List String) : isDoubled (after (name :: more) directory) = true := by
  have hne : directory ≠ home := by
    rintro rfl
    exact absurd hopen (by decide)
  have hafter : after (name :: more) directory = below directory name :=
    (after_known hname directory).trans (if_neg hne)
  rw [hafter, isDoubled_below directory (hasChar_of_mem_known hname)]
  exact .inr hopen

theorem after_cases (args : List String) (directory : String) :
    after args directory = home ∨ after args directory = directory ∨ after args directory = parent directory ∨
    ∃ target ∈ args.head?, after args directory = target ∨
      target ∈ known ∧ after args directory = below directory target := by
  cases args with
  | nil => exact .inl rfl
  | cons target more =>
      have hafter : after (target :: more) directory = (move target directory).toOption.getD directory := rfl
      rw [hafter]
      cases hmove : move target directory with
      | error failure => exact .inr (.inl rfl)
      | ok place =>
          change place = home ∨ place = directory ∨ place = parent directory ∨ _
          rcases move_cases hmove with ⟨-, hplace⟩ | ⟨-, hplace⟩ | ⟨hknown, hplace⟩
          · exact .inr (.inr (.inl hplace))
          · exact .inr (.inr (.inr ⟨target, rfl, .inl hplace⟩))
          · by_cases hhome : directory = home
            · rw [if_pos hhome] at hplace
              exact .inr (.inr (.inr ⟨target, rfl, .inl hplace⟩))
            · rw [if_neg hhome] at hplace
              exact .inr (.inr (.inr ⟨target, rfl, .inr ⟨hknown, hplace⟩⟩))

/-- No separator is doubled by a target without a doubled one, unless it is a known name and the directory ends in a
separator. -/
theorem not_doubled_after (hdirectory : isDoubled directory = false)
    (hargs : ∀ target ∈ args.head?, isDoubled target = false)
    (hopen : ∀ target ∈ args.head?, target ∈ known → endsOpen directory = false) :
    isDoubled (after args directory) = false := by
  rcases after_cases args directory with h | h | h | ⟨target, htarget, h | ⟨hknown, h⟩⟩ <;> rw [h]
  · exact closed_home.1
  · exact hdirectory
  · exact (not_doubled_parent hdirectory).1
  · exact hargs target htarget
  · rw [← Bool.not_eq_true, isDoubled_below directory (hasChar_of_mem_known hknown), hdirectory,
      hopen target htarget hknown]
    simp

theorem not_endsOpen_after (hdirectory : isDoubled directory = false) (hclosed : endsOpen directory = false)
    (hargs : ∀ target ∈ args.head?, endsOpen target = false) : endsOpen (after args directory) = false := by
  rcases after_cases args directory with h | h | h | ⟨target, htarget, h | ⟨hknown, h⟩⟩ <;> rw [h]
  · exact closed_home.2
  · exact hclosed
  · exact (not_doubled_parent hdirectory).2
  · exact hargs target htarget
  · obtain ⟨hslash, -, hne, -⟩ := of_mem_known hknown
    exact endsOpen_below directory hslash hne

end

end Directory

/-! ## Runs -/

namespace Registry

open Directory

section

variable (entries : List FileEntry) (endpoints : Endpoints)

theorem directory_concat_cd {typed : String} {args : List String} (h : readings typed = [.single ⟨"cd", args⟩])
    (done : List String) (t : Terminal) :
    ((standard entries endpoints).executeAll (done ++ [typed]) t).2.session.directory =
      after args ((standard entries endpoints).executeAll done t).2.session.directory := by
  obtain ⟨-, -, -, -, -, hdirectory⟩ :=
    execute_cd entries endpoints h ((standard entries endpoints).executeAll done t).2
  simp only [executeAll_concat]
  exact hdirectory

/-- The places of lines of which each is one `cd`, from home on, with targets that have no doubled separator. -/
structure IsWalk (inputs : List String) (place : List String → String) : Prop where
  start : place [] = home
  step : ∀ {done typed}, done ++ [typed] <+: inputs → ∃ args, readings typed = [.single ⟨"cd", args⟩] ∧
    (∀ target ∈ args.head?, isDoubled target = false) ∧ place (done ++ [typed]) = after args (place done)

namespace IsWalk

variable {inputs : List String} {place : List String → String}

theorem not_doubled (h : IsWalk inputs place)
    (hclosed : ∀ done typed name more, done ++ [typed] <+: inputs → readings typed = [.single ⟨"cd", name :: more⟩] →
      name ∈ known → endsOpen (place done) = false) {done : List String} (hfront : done <+: inputs) :
    isDoubled (place done) = false := by
  induction done using List.reverseRecOn with
  | nil =>
      rw [h.start]
      exact closed_home.1
  | append_singleton done typed ih =>
      have hdone := ih ((List.prefix_append done [typed]).trans hfront)
      obtain ⟨args, hread, hclean, hplace⟩ := h.step hfront
      rw [hplace]
      refine not_doubled_after hdone hclean fun target htarget hknown => ?_
      obtain ⟨more, rfl⟩ : ∃ more, args = target :: more := List.head?_eq_some_iff.mp htarget
      exact hclosed done typed target more hfront hread hknown

/-- Where no target ends in a separator no place does, so no name is entered behind one. -/
theorem tidy (h : IsWalk inputs place)
    (htargets : ∀ typed ∈ inputs, ∀ target more, readings typed = [.single ⟨"cd", target :: more⟩] →
      endsOpen target = false) {done : List String} (hfront : done <+: inputs) :
    isDoubled (place done) = false ∧ endsOpen (place done) = false := by
  induction done using List.reverseRecOn with
  | nil =>
      rw [h.start]
      exact closed_home
  | append_singleton done typed ih =>
      obtain ⟨hdoubled, hopen⟩ := ih ((List.prefix_append done [typed]).trans hfront)
      obtain ⟨args, hread, hclean, hplace⟩ := h.step hfront
      rw [hplace]
      refine ⟨not_doubled_after hdoubled hclean fun _ _ _ => hopen,
        not_endsOpen_after hdoubled hopen fun target htarget => ?_⟩
      obtain ⟨more, rfl⟩ : ∃ more, args = target :: more := List.head?_eq_some_iff.mp htarget
      exact htargets typed (hfront.subset (by simp)) target more hread

end IsWalk

/-- While nothing but `cd` is executed in a new session, and no target has a doubled separator, no directory has one
exactly if no known name is entered from a directory that ends in a separator. None does where no target ends in
one. -/
theorem never_doubled_iff {user host : String} {t : Terminal} (hnew : t.session = { user, host })
    {inputs : List String} (hinputs : ∀ typed ∈ inputs, ∃ args, readings typed = [.single ⟨"cd", args⟩] ∧
      ∀ target ∈ args.head?, isDoubled target = false) :
    let place (done : List String) := ((standard entries endpoints).executeAll done t).2.session.directory
    ((∀ done, done <+: inputs → isDoubled (place done) = false) ↔
      ∀ done typed name more, done ++ [typed] <+: inputs → readings typed = [.single ⟨"cd", name :: more⟩] →
        name ∈ known → endsOpen (place done) = false) ∧
    ((∀ typed ∈ inputs, ∀ target more, readings typed = [.single ⟨"cd", target :: more⟩] → endsOpen target = false) →
      ∀ done, done <+: inputs → isDoubled (place done) = false) := by
  intro place
  have hwalk : IsWalk inputs place := by
    refine ⟨?_, fun {done typed} hfront => ?_⟩
    · change t.session.directory = home
      rw [hnew]
    · obtain ⟨args, hread, hclean⟩ := hinputs typed (hfront.subset (by simp))
      exact ⟨args, hread, hclean, directory_concat_cd entries endpoints hread done t⟩
  refine ⟨⟨fun hnever done typed name more hfront hread hname => ?_, fun hclosed done => hwalk.not_doubled hclosed⟩,
    fun htargets done hfront => (hwalk.tidy htargets hfront).1⟩
  -- behind a separator at the end the name would stand with two
  by_contra hopen
  obtain ⟨args, hread', -, hplace⟩ := hwalk.step hfront
  obtain rfl : name :: more = args := by
    rw [hread] at hread'
    simpa using hread'
  have hdoubled := isDoubled_enter hname (by simpa using hopen) more
  rw [← hplace, hnever _ hfront] at hdoubled
  cases hdoubled

end

/-- Names below a directory that was typed without a separator at its end. -/
theorem never_doubled_iff_rooms :
    let r := standard [] ⟨"/api", "/entities", "here"⟩
    let inputs := ["/srv/data", "musica", "downloads", "..", "nowhere"].map ("cd " ++ ·)
    (∀ typed ∈ inputs, ∃ args, readings typed = [.single ⟨"cd", args⟩] ∧
      ∀ target ∈ args.head?, isDoubled target = false) ∧
      (∀ done, done <+: inputs → isDoubled (r.executeAll done {}).2.session.directory = false) ∧
      (r.executeAll inputs {}).2.session.directory = "/srv/data/musica" := by
  intro r inputs
  have hread : ∀ target ∈ ["/srv/data", "musica", "downloads", "..", "nowhere"],
      readings ("cd " ++ target) = [.single ⟨"cd", [target]⟩] ∧ isDoubled target = false ∧ endsOpen target = false := by
    decide
  have hinputs : ∀ typed ∈ inputs, ∃ args, readings typed = [.single ⟨"cd", args⟩] ∧
      ∀ target ∈ args.head?, isDoubled target = false := by
    intro typed htyped
    obtain ⟨target, htarget, rfl⟩ := List.mem_map.mp htyped
    obtain ⟨hcd, hclean, -⟩ := hread target htarget
    exact ⟨[target], hcd, by simpa using hclean⟩
  refine ⟨hinputs, (never_doubled_iff [] ⟨"/api", "/entities", "here"⟩ rfl hinputs).2 ?_, by decide⟩
  intro typed htyped target more hcd
  obtain ⟨target', htarget', rfl⟩ := List.mem_map.mp htyped
  obtain ⟨hcd', -, hclosed⟩ := hread target' htarget'
  obtain ⟨rfl, -⟩ : target' = target ∧ [] = more := by
    rw [hcd'] at hcd
    simpa using hcd
  exact hclosed

/-- Entering a known name from the root doubles the separator. -/
theorem directory_below_root :
    let r := standard [] ⟨"/api", "/entities", "here"⟩
    (∀ typed ∈ ["cd /", "cd musica"], ∃ target, readings typed = [.single ⟨"cd", [target]⟩] ∧
      isDoubled target = false) ∧
      (r.executeAll ["cd /", "cd musica"] {}).2.session.directory = "//musica" ∧ isDoubled "//musica" = true := by
  have hread : readings "cd /" = [.single ⟨"cd", ["/"]⟩] ∧ readings "cd musica" = [.single ⟨"cd", ["musica"]⟩] := by
    decide
  refine ⟨?_, by decide, by decide⟩
  simp only [List.forall_mem_cons]
  exact ⟨⟨"/", hread.1, by decide⟩, ⟨"musica", hread.2, by decide⟩, fun _ h => absurd h List.not_mem_nil⟩

end Registry

end LineShell
