import LineShell.Assembly

/-!
# Parts of an assembly

Each part is made with the parts of the assembly that it needs, and once: a getter keeps what is there and makes the
rest of what the part needs. It gives the part unless that needs a transport and the settings give none.
-/

namespace LineShell

/-! ## What parts need -/

namespace Part

def needs : Part → List Part
  | .session | .bus | .transport => []
  | .registry => [.session, .transport]
  | .interpreter => [.session, .registry, .bus]
  | .caller => [.transport]

/-- The parts that come with a part: those that it needs, what they need in turn, and the part itself. -/
def reaches : Part → List Part
  | .session => [.session]
  | .bus => [.bus]
  | .transport => [.transport]
  | .registry => [.session, .transport, .registry]
  | .interpreter => [.session, .transport, .registry, .bus, .interpreter]
  | .caller => [.transport, .caller]

def before (p : Part) : List Part := p.needs.flatMap reaches

theorem self_mem_reaches (p : Part) : p ∈ p.reaches := by cases p <;> decide

theorem not_mem_before (p : Part) : p ∉ p.before := by cases p <;> decide

theorem mem_reaches_iff (p q : Part) : q ∈ p.reaches ↔ q = p ∨ ∃ r ∈ p.needs, q ∈ r.reaches := by
  cases p <;> cases q <;> decide

end Part

namespace Assembly

/-! ## Assemblies between two resets -/

def number? (a : Assembly) (p : Part) : Option Nat := (a.parts.lookup p).map Made.number

/-- A part is made with these objects, and they are the ones of the assembly that it needs. -/
def Wired (a : Assembly) (p : Part) (uses : List (Part × Nat)) : Prop :=
  uses.map (fun (q, n) => (q, some n)) = p.needs.map fun q => (q, a.number? q)

/-- No object stands for two parts, each part is made with what it needs, and there is a transport only if the settings
give one. -/
structure Coherent (a : Assembly) : Prop where
  lt : ∀ {p n}, a.number? p = some n → n < a.next
  unique : ∀ {p q n}, a.number? p = some n → a.number? q = some n → p = q
  wired : ∀ {p made}, a.parts.lookup p = some made → a.Wired p made.uses
  connects : ∀ {n}, a.number? .transport = some n → a.connects = true

/-- From `a` to `b` some of the given parts were made, with numbers that were not given before. -/
structure Grows (a b : Assembly) (made : List Part) : Prop where
  connects : b.connects = a.connects
  closed : b.closed = a.closed
  next : a.next ≤ b.next
  kept : ∀ {p part}, a.parts.lookup p = some part → b.parts.lookup p = some part
  fresh : ∀ {p n}, b.number? p = some n → a.number? p = some n ∨ p ∈ made ∧ a.next ≤ n

theorem number?_of_lookup {a : Assembly} {p : Part} {made : Made} (h : a.parts.lookup p = some made) :
    a.number? p = some made.number := by
  rw [number?, h]
  rfl

theorem exists_lookup_of_number? {a : Assembly} {p : Part} {n : Nat} (h : a.number? p = some n) :
    ∃ made, a.parts.lookup p = some made ∧ made.number = n := Option.map_eq_some_iff.mp h

namespace Wired

variable {a : Assembly} {p q : Part} {uses : List (Part × Nat)}

theorem number?_of_mem (h : a.Wired p uses) {n : Nat} (hmem : (q, n) ∈ uses) : a.number? q = some n := by
  have hmap : (q, some n) ∈ p.needs.map fun q => (q, a.number? q) :=
    h ▸ List.mem_map_of_mem (f := fun (q, n) => (q, some n)) hmem
  obtain ⟨q', -, heq⟩ := List.mem_map.mp hmap
  obtain ⟨rfl, hn⟩ := Prod.mk.inj heq
  exact hn

theorem exists_number? (h : a.Wired p uses) (hq : q ∈ p.needs) : ∃ n, a.number? q = some n := by
  have hmap : (q, a.number? q) ∈ uses.map fun (q, n) => (q, some n) := h ▸ List.mem_map_of_mem hq
  obtain ⟨⟨q', n⟩, -, heq⟩ := List.mem_map.mp hmap
  exact ⟨n, (Prod.mk.inj heq).2.symm⟩

theorem eq_map (h : a.Wired p uses) {objects : Part → Nat} (hobjects : ∀ {q n}, a.number? q = some n → objects q = n) :
    uses = p.needs.map fun q => (q, objects q) :=
  calc uses
    _ = uses.map fun use => (use.1, objects use.1) := by
        refine (List.map_id uses).symm.trans (List.map_congr_left fun ⟨q, n⟩ hmem => ?_)
        rw [id, hobjects (h.number?_of_mem hmem)]
    _ = (uses.map fun (q, n) => (q, some n)).map fun use => (use.1, objects use.1) := by
        rw [List.map_map]
        rfl
    _ = (p.needs.map fun q => (q, a.number? q)).map fun use => (use.1, objects use.1) := by rw [h]
    _ = p.needs.map fun q => (q, objects q) := by
        rw [List.map_map]
        rfl

end Wired

namespace Grows

variable {a b c : Assembly} {made made' : List Part}

theorem refl (a : Assembly) : Grows a a [] := ⟨rfl, rfl, Nat.le_refl _, id, .inl⟩

theorem trans (h : Grows a b made) (h' : Grows b c made') : Grows a c (made ++ made') where
  connects := h'.connects.trans h.connects
  closed := h'.closed.trans h.closed
  next := Nat.le_trans h.next h'.next
  kept hp := h'.kept (h.kept hp)
  fresh hp := by
    rcases h'.fresh hp with hp | ⟨hmem, hle⟩
    · rcases h.fresh hp with hp | ⟨hmem, hle⟩
      · exact .inl hp
      · exact .inr ⟨List.mem_append_left _ hmem, hle⟩
    · exact .inr ⟨List.mem_append_right _ hmem, Nat.le_trans h.next hle⟩

theorem mono (h : Grows a b made) (hsub : made ⊆ made') : Grows a b made' :=
  { h with fresh := fun hp => (h.fresh hp).imp_right fun ⟨hmem, hle⟩ => ⟨hsub hmem, hle⟩ }

theorem number? (h : Grows a b made) {p : Part} {n : Nat} (hp : a.number? p = some n) : b.number? p = some n := by
  obtain ⟨part, hpart, rfl⟩ := exists_lookup_of_number? hp
  exact number?_of_lookup (h.kept hpart)

theorem wired (h : Grows a b made) {p : Part} {uses : List (Part × Nat)} (huses : a.Wired p uses) : b.Wired p uses := by
  refine huses.trans (List.map_congr_left fun q hq => ?_)
  obtain ⟨n, hn⟩ := huses.exists_number? hq
  rw [hn, h.number? hn]

end Grows

/-! ## One part more -/

section

variable {a : Assembly} {p : Part} {uses : List (Part × Nat)}

theorem lookup_add (a : Assembly) (p q : Part) (uses : List (Part × Nat)) : (a.add p uses).2.parts.lookup q =
    (a.parts.lookup q).or (if q = p then some (a.add p uses).1 else none) := by
  have hadd : (a.add p uses).2.parts = a.parts ++ [(p, (a.add p uses).1)] := rfl
  rw [hadd, List.lookup_append]
  congr 1
  by_cases hq : q = p
  · rw [hq, if_pos rfl, List.lookup_cons_self]
  · rw [if_neg hq, List.lookup_cons, beq_eq_false_iff_ne.mpr hq]
    rfl

theorem number?_add (hp : a.number? p = none) (q : Part) :
    (a.add p uses).2.number? q = if q = p then some a.next else a.number? q := by
  have hlookup : a.parts.lookup p = none := Option.map_eq_none_iff.mp hp
  rw [number?, lookup_add]
  split
  case isTrue h =>
    rw [h, hlookup]
    rfl
  case isFalse h =>
    rw [Option.or_none]
    rfl

theorem grows_add (hp : a.number? p = none) : Grows a (a.add p uses).2 [p] where
  connects := rfl
  closed := rfl
  next := Nat.le_succ _
  kept hq := by rw [lookup_add, hq, Option.some_or]
  fresh {q n} hq := by
    rw [number?_add hp] at hq
    split at hq
    case isTrue h => exact .inr ⟨h ▸ List.mem_singleton_self p, Nat.le_of_eq (Option.some.inj hq)⟩
    case isFalse h => exact .inl hq

theorem Coherent.add (h : a.Coherent) (hp : a.number? p = none) (hwired : a.Wired p uses)
    (hconnects : p = .transport → a.connects = true) : (a.add p uses).2.Coherent where
  lt {q n} hq := by
    show n < a.next + 1
    rw [number?_add hp] at hq
    split at hq
    · obtain rfl := Option.some.inj hq
      exact Nat.lt_succ_self _
    · exact Nat.lt_succ_of_lt (h.lt hq)
  unique {q r n} hq hr := by
    rw [number?_add hp] at hq hr
    split at hq <;> split at hr
    · simp_all
    · exact absurd (h.lt hr) (Option.some.inj hq ▸ Nat.lt_irrefl _)
    · exact absurd (h.lt hq) (Option.some.inj hr ▸ Nat.lt_irrefl _)
    · exact h.unique hq hr
  wired {q made} hq := by
    refine (grows_add hp).wired ?_
    rw [lookup_add] at hq
    cases hold : a.parts.lookup q with
    | some made' =>
        rw [hold, Option.some_or] at hq
        exact Option.some.inj hq ▸ h.wired hold
    | none =>
        rw [hold, Option.none_or] at hq
        split at hq
        · rename_i hqp
          obtain rfl := Option.some.inj hq
          exact hqp ▸ hwired
        · cases hq
  connects {n} hn := by
    show a.connects = true
    rw [number?_add hp] at hn
    split at hn
    · rename_i htransport
      exact hconnects htransport.symm
    · exact h.connects hn

end

/-! ## Making parts -/

/-- What is given or refused by a part: it is there afterwards, or it needs a transport and there can be none. -/
structure Gets (p : Part) (a : Assembly) (result : Option Made × Assembly) : Prop where
  coherent : result.2.Coherent
  grows : Grows a result.2 p.reaches
  given : ∀ {made}, result.1 = some made → result.2.parts.lookup p = some made
  refused : result.1 = none → a.connects = false ∧ .transport ∈ p.reaches

structure Gathers (needs : List Part) (a : Assembly) (result : Option (List (Part × Nat)) × Assembly) : Prop where
  coherent : result.2.Coherent
  grows : Grows a result.2 (needs.flatMap Part.reaches)
  given : ∀ {uses}, result.1 = some uses →
    uses.map (fun (q, n) => (q, some n)) = needs.map fun q => (q, result.2.number? q)
  refused : result.1 = none → a.connects = false ∧ ∃ q ∈ needs, .transport ∈ q.reaches

theorem gathers_gather (needs : List (Part × Making Made))
    (h : ∀ need ∈ needs, ∀ {a : Assembly}, a.Coherent → Gets need.1 a (need.2 a)) {a : Assembly} (ha : a.Coherent) :
    Gathers (needs.map Prod.fst) a (gather needs a) := by
  induction needs generalizing a with
  | nil => exact ⟨ha, Grows.refl a, fun h => by rw [← Option.some.inj h]; rfl, nofun⟩
  | cons need needs ih =>
      obtain ⟨p, obtainPart⟩ := need
      obtain ⟨hfirst, hrest⟩ := List.forall_mem_cons.mp h
      have hgets : Gets p a (obtainPart a) := hfirst ha
      rw [gather]
      rcases hobtain : obtainPart a with ⟨_ | made, b⟩
      · rw [hobtain] at hgets
        obtain ⟨hconnects, htransport⟩ := hgets.refused rfl
        exact ⟨hgets.coherent, hgets.grows.mono (List.subset_append_left _ _), nofun,
          fun _ => ⟨hconnects, p, List.mem_cons_self, htransport⟩⟩
      · rw [hobtain] at hgets
        have hgathers : Gathers (needs.map Prod.fst) b (gather needs b) := ih hrest hgets.coherent
        dsimp only at hgathers ⊢
        rcases hgather : gather needs b with ⟨_ | uses, c⟩
        · rw [hgather] at hgathers
          obtain ⟨hconnects, q, hq, htransport⟩ := hgathers.refused rfl
          exact ⟨hgathers.coherent, hgets.grows.trans hgathers.grows, nofun,
            fun _ => ⟨hgets.grows.connects ▸ hconnects, q, List.mem_cons_of_mem _ hq, htransport⟩⟩
        · rw [hgather] at hgathers
          refine ⟨hgathers.coherent, hgets.grows.trans hgathers.grows, fun h => ?_, nofun⟩
          have hpart : c.number? p = some made.number :=
            hgathers.grows.number? (number?_of_lookup (hgets.given rfl))
          rw [← Option.some.inj h, List.map_cons, List.map_cons, List.map_cons, hgathers.given rfl]
          exact congrArg (fun n => (p, n) :: _) hpart.symm

structure Makes (p : Part) (a : Assembly) (result : Option (List (Part × Nat)) × Assembly) : Prop where
  coherent : result.2.Coherent
  grows : Grows a result.2 p.before
  given : ∀ {uses}, result.1 = some uses → result.2.Wired p uses ∧ (p = .transport → a.connects = true)
  refused : result.1 = none → a.connects = false ∧ .transport ∈ p.reaches

theorem Gathers.makes {p : Part} {a : Assembly} {result : Option (List (Part × Nat)) × Assembly} (hp : p ≠ .transport)
    (h : Gathers p.needs a result) : Makes p a result where
  coherent := h.coherent
  grows := h.grows
  given huses := ⟨h.given huses, fun htransport => absurd htransport hp⟩
  refused hnone := by
    obtain ⟨hconnects, q, hq, hreached⟩ := h.refused hnone
    exact ⟨hconnects, (p.mem_reaches_iff _).mpr (.inr ⟨q, hq, hreached⟩)⟩

theorem makes_transport {a : Assembly} (ha : a.Coherent) :
    Makes .transport a (if a.connects then some [] else none, a) := by
  cases hconnects : a.connects with
  | true => exact ⟨ha, Grows.refl a, fun h => ⟨by rw [← Option.some.inj h]; rfl, fun _ => hconnects⟩, nofun⟩
  | false => exact ⟨ha, Grows.refl a, nofun, fun _ => ⟨hconnects, by decide⟩⟩

/-- A part is given if it is there, and else made of what it needs. -/
theorem gets_obtainWith {p : Part} {make : Making (List (Part × Nat))} {a : Assembly} (ha : a.Coherent)
    (hmake : Makes p a (make a)) : Gets p a (obtainWith p make a) := by
  have hbefore : p.before ⊆ p.reaches := fun q hq => by
    obtain ⟨r, hr, hqr⟩ := List.mem_flatMap.mp hq
    exact (p.mem_reaches_iff q).mpr (.inr ⟨r, hr, hqr⟩)
  rw [obtainWith]
  cases hp : a.parts.lookup p with
  | some made => exact ⟨ha, (Grows.refl a).mono (List.nil_subset _), fun h => Option.some.inj h ▸ hp, nofun⟩
  | none =>
      obtain ⟨gathered, b, hgathered⟩ : ∃ gathered b, make a = (gathered, b) := ⟨_, _, rfl⟩
      rw [hgathered] at hmake ⊢
      -- making what the part needs does not make the part itself
      have hmissing : b.number? p = none := by
        refine Option.eq_none_iff_forall_ne_some.mpr fun n hn => ?_
        rcases hmake.grows.fresh hn with hn | ⟨hmem, -⟩
        · rw [number?, hp] at hn
          cases hn
        · exact p.not_mem_before hmem
      cases gathered with
      | none => exact ⟨hmake.coherent, hmake.grows.mono hbefore, nofun, fun _ => hmake.refused rfl⟩
      | some uses =>
          obtain ⟨hwired, hconnects⟩ := hmake.given rfl
          have hcoherent : (b.add p uses).2.Coherent := hmake.coherent.add hmissing hwired fun h =>
            hmake.grows.connects.trans (hconnects h)
          have hall : p.before ++ [p] ⊆ p.reaches := List.append_subset.mpr ⟨hbefore,
            List.cons_subset.mpr ⟨p.self_mem_reaches, List.nil_subset _⟩⟩
          refine ⟨hcoherent, (hmake.grows.trans (grows_add hmissing)).mono hall, fun h => ?_, nofun⟩
          rw [← Option.some.inj h]
          show (b.add p uses).2.parts.lookup p = _
          rw [lookup_add, Option.map_eq_none_iff.mp hmissing, if_pos rfl]
          rfl

section

variable {a : Assembly}

theorem gets_session (ha : a.Coherent) : Gets .session a (session a) :=
  gets_obtainWith ha ((gathers_gather [] (List.forall_mem_nil _) ha).makes (by decide))

theorem gets_bus (ha : a.Coherent) : Gets .bus a (bus a) :=
  gets_obtainWith ha ((gathers_gather [] (List.forall_mem_nil _) ha).makes (by decide))

theorem gets_transport (ha : a.Coherent) : Gets .transport a (transport a) :=
  gets_obtainWith ha (makes_transport ha)

theorem gets_registry (ha : a.Coherent) : Gets .registry a (registry a) := by
  refine gets_obtainWith ha (Gathers.makes (by decide)
    (gathers_gather [(.session, session), (.transport, transport)] ?_ ha))
  simp only [List.forall_mem_cons]
  exact ⟨gets_session, gets_transport, nofun⟩

theorem gets_interpreter (ha : a.Coherent) : Gets .interpreter a (interpreter a) := by
  refine gets_obtainWith ha (Gathers.makes (by decide)
    (gathers_gather [(.session, session), (.registry, registry), (.bus, bus)] ?_ ha))
  simp only [List.forall_mem_cons]
  exact ⟨gets_session, gets_registry, gets_bus, nofun⟩

theorem gets_caller (ha : a.Coherent) : Gets .caller a (caller a) := by
  refine gets_obtainWith ha (Gathers.makes (by decide) (gathers_gather [(.transport, transport)] ?_ ha))
  simp only [List.forall_mem_cons]
  exact ⟨gets_transport, nofun⟩

theorem gets_get (p : Part) (ha : a.Coherent) : Gets p a (a.get p) := by
  cases p with
  | session => exact gets_session ha
  | bus => exact gets_bus ha
  | transport => exact gets_transport ha
  | registry => exact gets_registry ha
  | interpreter => exact gets_interpreter ha
  | caller => exact gets_caller ha

end

end Assembly

end LineShell
