import LineShell.Http.Address

/-!
# Roots

A client at the root of a service calls the paths of that service as they are.
-/

namespace LineShell.Http.Address

open Text

/-- The address of the root of a service. -/
structure IsRoot (a : Address) : Prop where
  good : (ofParts a.parts).toOption = some a
  scheme : a.scheme = "http" ∨ a.scheme = "https"
  host : a.host ≠ ""
  path : a.path = "/"
  query : a.query = none
  short : longPart? a.parts = none
  readable : a.unreadable? = none

/-- A path that is written as it is meant, without a query or a fragment. -/
structure IsPlain (path : String) : Prop where
  read : (ofText path).toOption = some { path }
  rooted : "/" ++ dropLeading '/' path = path
  undivided : path.toList.takeWhile (· != '?') = path.toList ∧ behind? '?' path.toList = none
  kept : escapedFor safeInPath (normalPath path.toList) = path.toList
  short : path.toList.length ≤ lengthLimit
  taken : percentDecoded path = path

variable {a : Address} {p : AddressParts} {path : String} {query : Option (List Char)}

/-! ## Other parts -/

/-- With another path from the root and another query, all else is read as before. -/
theorem ofParts_of_good (h : ofParts p = .ok a) (hscheme : p.scheme ≠ []) {cs : List Char}
    (hroot : cs.head? = some '/') : ofParts { p with path := cs, query } = .ok { a with
      path := String.ofList (escapedFor safeInPath (normalPath cs))
      query := query.map fun query => String.ofList (escapedFor safeInQuery query) } := by
  have hisEmpty : p.scheme.isEmpty = false := List.isEmpty_eq_false_iff.mpr hscheme
  have hfault : ∀ hasAuthority, pathFault? (!p.scheme.isEmpty) hasAuthority cs = none := fun hasAuthority => by
    cases hasAuthority <;> simp [pathFault?, hisEmpty, hroot]
  unfold ofParts at h ⊢
  dsimp only at h ⊢
  simp only [bind, Except.bind, pure, Except.pure] at h ⊢
  split at h
  · cases h
  · split at h
    · cases h
    · split at h
      · cases h
      · obtain rfl := Except.ok.inj h
        rw [hfault, hisEmpty]
        rfl

/-! ## Kinds -/

theorem exists_text (h : a.scheme ≠ "") : ∃ rest, a.text.toList = a.scheme.toList ++ ':' :: rest := by
  have hne : a.scheme.isEmpty = false := Bool.of_not_eq_true fun he => h (String.isEmpty_iff.mp he)
  unfold text
  rw [if_neg (ne_true_of_eq_false hne)]
  simp only [String.toList_append, List.append_assoc]
  exact ⟨_, rfl⟩

theorem exists_plainText (h : a.scheme = "http" ∨ a.scheme = "https") :
    ∃ rest, a.plainText.toList = a.scheme.toList ++ ':' :: rest := by
  obtain ⟨rest, htext⟩ := exists_text (a := a) (by rcases h with h | h <;> simp [h])
  have hmark : "URL:".toList.isPrefixOf (a.scheme.toList ++ ':' :: rest) = false := by
    rcases h with h | h <;> rw [h] <;> rfl
  unfold plainText
  simp only [htext, hmark, Bool.false_eq_true, if_false, String.toList_ofList]
  split
  · cases rest with
    | nil => simp_all
    | cons c rest =>
        refine ⟨(c :: rest).dropLast, ?_⟩
        rw [List.dropLast_append_of_ne_nil (List.cons_ne_nil _ _)]
        rfl
  · exact ⟨rest, rfl⟩

theorem hasKind_of_scheme (h : a.scheme = "http" ∨ a.scheme = "https") : a.hasKind = true := by
  obtain ⟨rest, htext⟩ := exists_plainText h
  have hrest : a.plainText.toList.dropWhile (fun c => c != '/' && c != ':') = ':' :: rest := by
    rw [htext]
    rcases h with h | h <;> rw [h] <;> rfl
  unfold hasKind
  simp only [hrest, List.head?_cons, beq_self_eq_true, Bool.true_and, decide_eq_true_eq]
  rw [htext, List.length_append]
  exact Nat.lt_add_of_pos_left (by rcases h with h | h <;> rw [h] <;> decide)

/-! ## References -/

theorem eq_ok_of_toOption {x : Except AddressFault Address} (h : x.toOption = some a) : x = .ok a := by
  cases x with
  | error fault => cases h
  | ok b => exact congrArg Except.ok (Option.some.inj h)

theorem longPart?_eq_none_iff : longPart? p = none ↔ p.scheme.length ≤ lengthLimit ∧ p.authority.length ≤ lengthLimit ∧
    p.path.length ≤ lengthLimit ∧ (p.query.getD []).length ≤ lengthLimit ∧
    (p.fragment.getD []).length ≤ lengthLimit := by
  simp [longPart?]

theorem remade_of_root (h : a.IsRoot) (hpath : IsPlain path) (hquery : (query.getD []).length ≤ lengthLimit) :
    remade { a.parts with path := path.toList, query } = .ok { a with
      path, query := query.map fun query => String.ofList (escapedFor safeInQuery query) } := by
  have hroot : path.toList.head? = some '/' := by
    rw [← hpath.rooted, String.toList_append]
    rfl
  have hscheme : a.parts.scheme ≠ [] := by
    rcases h.scheme with hs | hs <;> simp [parts, hs]
  have hshort : longPart? { a.parts with path := path.toList, query } = none := by
    obtain ⟨hscheme, hauthority, -, -, hfragment⟩ := longPart?_eq_none_iff.mp h.short
    exact longPart?_eq_none_iff.mpr ⟨hscheme, hauthority, hpath.short, hquery, hfragment⟩
  rw [remade, hshort]
  dsimp only
  rw [ofParts_of_good (eq_ok_of_toOption h.good) hscheme hroot, hpath.kept, String.ofList_toList]

theorem IsPlain.isEmpty (hpath : IsPlain path) : path.isEmpty = false := by
  rw [← hpath.rooted]
  refine Bool.of_not_eq_true fun he => ?_
  have hlist := congrArg String.toList (String.isEmpty_iff.mp he)
  rw [String.toList_append] at hlist
  cases hlist

theorem IsPlain.pathTaken (hpath : IsPlain path) (a : Address) : ({ a with path } : Address).pathTaken = path := by
  rw [Address.pathTaken, hpath.isEmpty]
  exact hpath.taken

section

variable (h : a.IsRoot) (hpath : IsPlain path)
include h hpath

theorem merge_of_root : a.merge { path } = .ok { a with path } := by
  have hpathTarget : ({ path } : Address).target = path := by
    rw [target, hpath.isEmpty, if_neg Bool.false_ne_true]
    exact String.append_empty
  have htarget : a.target = "/" := by
    rw [target, h.path, h.query]
    rfl
  have habsolute : ({ path } : Address).isAbsolute = false := rfl
  rw [merge, habsolute, if_neg Bool.false_ne_true, htarget, hpathTarget, hpath.rooted, withTarget, hpath.undivided.1,
    hpath.undivided.2, remade_of_root h hpath (Nat.zero_le _), h.query]
  rfl

theorem resolve_of_root : a.resolve path none = .ok { a with path } := by
  rw [resolve, eq_ok_of_toOption hpath.read]
  simp only [bind, Except.bind, merge_of_root h hpath]
  rfl

theorem resolve_params_of_root {params : List (String × String)} (hshort : (formQuery params).length ≤ lengthLimit) :
    ∃ query, a.resolve path (some params) = .ok { a with path, query } := by
  have hquery : ((if params.isEmpty then none else some (formQuery params)).getD []).length ≤ lengthLimit := by
    split
    · exact Nat.zero_le _
    · exact hshort
  rw [resolve, eq_ok_of_toOption hpath.read]
  simp only [bind, Except.bind, merge_of_root h hpath]
  have hremade := remade_of_root h hpath hquery
  exact ⟨_, hremade⟩

end

end LineShell.Http.Address
