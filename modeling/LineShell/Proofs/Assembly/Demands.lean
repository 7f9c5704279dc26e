import Mathlib.Data.List.Induction
import Mathlib.Data.Nat.Pairing
import LineShell.Proofs.Assembly.Parts

/-!
# Demands on an assembly

Whatever is asked of an assembly and in whatever order, between two ends there is one object for each part, made with
the objects of the parts that it needs. No object outlives an end, and closing reaches the transport that there is.
-/

namespace LineShell

namespace Assembly

/-! ## Demands -/

/-- What is asked of an assembly: a part, to forget all parts, or to close the transport, which may fail at it. -/
inductive Demand
  | get (part : Part)
  | reset
  | close (fails : Bool)

/-- What comes of a demand: a part, none because the settings give no transport, or an end, after which the parts are
forgotten or not. An end shows the transports that were told to close so far. -/
inductive Outcome
  | given (made : Made)
  | refused
  | ended (forgotten : Bool) (closed : List Nat)
deriving DecidableEq

def run {σ : Type} (meet : Demand → σ → Outcome × σ) (demands : List Demand) (state : σ) : List Outcome × σ :=
  demands.foldl (fun (outcomes, state) demand =>
    let (outcome, state) := meet demand state
    (outcomes ++ [outcome], state)) ([], state)

theorem run_concat {σ : Type} (meet : Demand → σ → Outcome × σ) (demands : List Demand) (demand : Demand) (state : σ) :
    run meet (demands ++ [demand]) state = ((run meet demands state).1 ++ [(meet demand (run meet demands state).2).1],
      (meet demand (run meet demands state).2).2) := by
  rw [run, List.foldl_append]
  rfl

def meet : Demand → Assembly → Outcome × Assembly
  | .get part, a => ((a.get part).1.elim .refused .given, (a.get part).2)
  | .reset, a => (.ended true a.closed, a.reset)
  | .close fails, a => (.ended (a.closeWith fails).1 (a.closeWith fails).2.closed, (a.closeWith fails).2)

/-! ## What is due -/

/-- How often all parts were forgotten, whether there is a transport, and which were told to close. -/
structure Stage where
  span : Nat := 0
  connected : Bool := false
  closed : List Nat := []

/-- A part when each part has an object: made with the objects of the parts that it needs. -/
def madeOf (objects : Part → Nat) (p : Part) : Made := ⟨objects p, p.needs.map fun q => (q, objects q)⟩

namespace Stage

def forgotten (s : Stage) : Stage := { s with span := s.span + 1, connected := false }

/-- What is due for a demand, and the next stage, when `objects` gives the object of each part in each span: a getter
gives the object of the current span, and closing tells the transport of the current span, if there is one. -/
def meet (connects : Bool) (objects : Nat → Part → Nat) : Demand → Stage → Outcome × Stage
  | .get part, s =>
    if .transport ∉ part.reaches then (.given (madeOf (objects s.span) part), s)
    else if connects then (.given (madeOf (objects s.span) part), { s with connected := true })
    else (.refused, s)
  | .reset, s => (.ended true s.closed, s.forgotten)
  | .close fails, s =>
    if s.connected then
      let s := { s with closed := s.closed ++ [objects s.span .transport] }
      if fails then (.ended false s.closed, s) else (.ended true s.closed, s.forgotten)
    else (.ended true s.closed, s.forgotten)

structure Fits (s : Stage) (span : Nat) (a : Assembly) : Prop where
  span : s.span = span
  connected : s.connected = (a.number? .transport).isSome
  closed : s.closed = a.closed

end Stage

/-- An assembly after a history of which these objects are known. -/
structure History (span : Nat) (known : Nat → Part → Option Nat) (a : Assembly) : Prop where
  coherent : a.Coherent
  current : known span = a.number?
  later : ∀ {e p}, span < e → known e p = none
  lt : ∀ {e p n}, known e p = some n → n < a.next
  unique : ∀ {e p e' p' n}, known e p = some n → known e' p' = some n → e = e' ∧ p = p'

def Extends (objects : Nat → Part → Nat) (known : Nat → Part → Option Nat) : Prop :=
  ∀ {e p n}, known e p = some n → objects e p = n

section

variable {a b : Assembly} {s : Stage} {span : Nat} {known : Nat → Part → Option Nat} {objects : Nat → Part → Nat}
  {p : Part} {made : Made}

theorem history_start (connects : Bool) : History 0 (fun _ _ => none) { connects } where
  coherent := ⟨nofun, nofun, nofun, nofun⟩
  current := rfl
  later _ := rfl
  lt := nofun
  unique := nofun

theorem History.forgotten (h : History span known a) (closed : List Nat) :
    History (span + 1) known { a with parts := [], closed } where
  coherent := ⟨nofun, nofun, nofun, nofun⟩
  current := funext fun _ => h.later (Nat.lt_succ_self span)
  later he := h.later (Nat.lt_of_succ_lt he)
  lt := h.lt
  unique := h.unique

theorem History.closing (h : History span known a) (closed : List Nat) : History span known { a with closed } where
  coherent := ⟨h.coherent.lt, h.coherent.unique, h.coherent.wired, h.coherent.connects⟩
  current := h.current
  later := h.later
  lt := h.lt
  unique := h.unique

theorem History.grown {made : List Part} (h : History span known a) (hb : b.Coherent) (hgrows : Grows a b made) :
    History span (Function.update known span b.number?) b := by
  -- what is known afterwards was known before, or has a number that nothing known has
  have hcases : ∀ {e p n}, Function.update known span b.number? e p = some n →
      known e p = some n ∨ e = span ∧ b.number? p = some n ∧ a.next ≤ n := fun {e p n} hn => by
    by_cases he : e = span
    · subst he
      rw [Function.update_self] at hn
      exact (hgrows.fresh hn).imp (fun hn => by rw [h.current, hn]) fun ⟨_, hle⟩ => ⟨rfl, hn, hle⟩
    · rw [Function.update_of_ne he] at hn
      exact .inl hn
  constructor
  case coherent => exact hb
  case current => exact Function.update_self ..
  case later =>
    intro e p he
    rw [Function.update_of_ne (Nat.ne_of_gt he), h.later he]
  case lt =>
    intro e p n hn
    rcases hcases hn with hn | ⟨-, hn, -⟩
    · exact Nat.lt_of_lt_of_le (h.lt hn) hgrows.next
    · exact hb.lt hn
  case unique =>
    intro e p e' p' n hn hn'
    rcases hcases hn with hold | ⟨rfl, hnew, hle⟩ <;> rcases hcases hn' with hold' | ⟨rfl, hnew', hle'⟩
    · exact h.unique hold hold'
    · exact absurd (h.lt hold) (Nat.not_lt.mpr hle')
    · exact absurd (h.lt hold') (Nat.not_lt.mpr hle)
    · exact ⟨rfl, hb.unique hnew hnew'⟩

theorem Coherent.eq_madeOf (hb : b.Coherent) {p : Part} {made : Made} (hmade : b.parts.lookup p = some made)
    {objects : Part → Nat} (hobjects : ∀ {q n}, b.number? q = some n → objects q = n) : made = madeOf objects p := by
  rw [madeOf, hobjects (number?_of_lookup hmade), ← (hb.wired hmade).eq_map hobjects]

theorem Coherent.exists_needed (hb : b.Coherent) {p q : Part} {n : Nat} (hp : b.number? p = some n) (hq : q ∈ p.needs) :
    ∃ m, b.number? q = some m := by
  obtain ⟨made, hmade, -⟩ := exists_lookup_of_number? hp
  exact (hb.wired hmade).exists_number? hq

theorem Coherent.exists_transport (hb : b.Coherent) {p : Part} {n : Nat} (hp : b.number? p = some n)
    (htransport : .transport ∈ p.reaches) : ∃ m, b.number? .transport = some m := by
  cases p with
  | transport => exact ⟨n, hp⟩
  | registry | caller => exact hb.exists_needed hp (by decide)
  | interpreter =>
      obtain ⟨m, hregistry⟩ := hb.exists_needed hp (q := .registry) (by decide)
      exact hb.exists_needed hregistry (by decide)
  | session | bus => exact absurd htransport (by decide)

/-- There is a transport after a getter if there was one, or else if the part needs one. -/
theorem isSome_transport_get (hgets : Gets p a (some made, b)) : (b.number? .transport).isSome =
    ((a.number? .transport).isSome || decide (.transport ∈ p.reaches)) := by
  rw [Bool.eq_iff_iff, Bool.or_eq_true, decide_eq_true_iff, Option.isSome_iff_exists, Option.isSome_iff_exists]
  constructor
  · rintro ⟨n, hn⟩
    rcases hgets.grows.fresh hn with hn | ⟨htransport, -⟩
    · exact .inl ⟨n, hn⟩
    · exact .inr htransport
  · rintro (⟨n, hn⟩ | htransport)
    · exact ⟨n, hgets.grows.number? hn⟩
    · exact hgets.coherent.exists_transport (number?_of_lookup (hgets.given rfl)) htransport

theorem Coherent.isSome_transport (ha : a.Coherent) (hconnects : a.connects = false) :
    (a.number? .transport).isSome = false := by
  cases hn : a.number? .transport with
  | none => rfl
  | some n => exact absurd (ha.connects hn) (hconnects ▸ Bool.false_ne_true)

theorem meet_get (ha : a.Coherent) (hs : s.Fits span a) (p : Part)
    (hobjects : ∀ {q n}, (a.get p).2.number? q = some n → objects span q = n) :
    (meet (.get p) a).1 = (s.meet a.connects objects (.get p)).1 ∧
      (s.meet a.connects objects (.get p)).2.Fits span (meet (.get p) a).2 := by
  have hgets : Gets p a (a.get p) := gets_get p ha
  have hclosed : s.closed = (a.get p).2.closed := hs.closed.trans hgets.grows.closed.symm
  rw [meet, Stage.meet, hs.span]
  rcases hget : a.get p with ⟨_ | made, b⟩ <;> rw [hget] at hgets hobjects hclosed
  case none =>
    obtain ⟨hconnects, htransport⟩ := hgets.refused rfl
    have hb : (b.number? .transport).isSome = false :=
      hgets.coherent.isSome_transport (hgets.grows.connects.trans hconnects)
    rw [if_neg (not_not_intro htransport), hconnects]
    exact ⟨rfl, hs.span, (hs.connected.trans (ha.isSome_transport hconnects)).trans hb.symm, hclosed⟩
  case some =>
    have hmade : made = madeOf (objects span) p := hgets.coherent.eq_madeOf (hgets.given rfl) hobjects
    have hthere := isSome_transport_get hgets
    by_cases htransport : .transport ∈ p.reaches
    · rw [decide_eq_true htransport, Bool.or_true] at hthere
      obtain ⟨n, hn⟩ := Option.isSome_iff_exists.mp hthere
      rw [if_neg (not_not_intro htransport), if_pos (hgets.grows.connects.symm.trans (hgets.coherent.connects hn))]
      exact ⟨congrArg Outcome.given hmade, rfl, hthere.symm, hclosed⟩
    · rw [decide_eq_false htransport, Bool.or_false, ← hs.connected] at hthere
      rw [if_pos htransport]
      exact ⟨congrArg Outcome.given hmade, hs.span, hthere.symm, hclosed⟩

/-- A demand is met as is due for all objects among which are those that are known then, and the history goes on. -/
structure Met (demand : Demand) (span : Nat) (known : Nat → Part → Option Nat) (a : Assembly) (span' : Nat)
    (known' : Nat → Part → Option Nat) : Prop where
  history : History span' known' (meet demand a).2
  connects : (meet demand a).2.connects = a.connects
  kept : ∀ {objects}, Extends objects known' → Extends objects known
  due : ∀ {objects} {s : Stage}, Extends objects known' → s.Fits span a →
    (meet demand a).1 = (s.meet a.connects objects demand).1 ∧
      (s.meet a.connects objects demand).2.Fits span' (meet demand a).2

theorem met_get (h : History span known a) (p : Part) :
    Met (.get p) span known a span (Function.update known span (a.get p).2.number?) := by
  have hgets : Gets p a (a.get p) := gets_get p h.coherent
  constructor
  case history => exact h.grown hgets.coherent hgets.grows
  case connects => exact hgets.grows.connects
  case kept =>
    intro objects hobjects e q n hn
    refine hobjects ?_
    by_cases he : e = span
    · rw [he, h.current] at hn
      rw [he, Function.update_self, hgets.grows.number? hn]
    · rw [Function.update_of_ne he, hn]
  case due =>
    intro objects s hobjects hs
    refine meet_get h.coherent hs p fun hn => hobjects ?_
    rw [Function.update_self, hn]

theorem met_reset (h : History span known a) : Met .reset span known a (span + 1) known where
  history := h.forgotten a.closed
  connects := rfl
  kept hobjects := hobjects
  due _ hs := ⟨congrArg (Outcome.ended true) hs.closed.symm, congrArg (· + 1) hs.span, rfl, hs.closed⟩

theorem met_close_none (h : History span known a) (hnone : a.number? .transport = none) (fails : Bool) :
    Met (.close fails) span known a (span + 1) known := by
  have hclose : a.closeWith fails = (true, a.reset) := by rw [closeWith, Option.map_eq_none_iff.mp hnone]
  have hmeet : meet (.close fails) a = meet .reset a := by
    simp only [meet, hclose]
    rfl
  have hreset := met_reset h
  refine ⟨hmeet ▸ hreset.history, hmeet ▸ hreset.connects, id, fun {objects s} hobjects hs => ?_⟩
  have hdue : s.meet a.connects objects (.close fails) = s.meet a.connects objects .reset := by
    simp only [Stage.meet, hs.connected, hnone]
    rfl
  rw [hmeet, hdue]
  exact hreset.due hobjects hs

theorem met_close_some (h : History span known a) {n : Nat} (hn : a.number? .transport = some n) (fails : Bool) :
    Met (.close fails) span known a (if fails then span else span + 1) known := by
  obtain ⟨transport, hlookup, rfl⟩ := exists_lookup_of_number? hn
  have hclosed : ∀ {objects : Nat → Part → Nat} {s : Stage}, Extends objects known → s.Fits span a →
      s.closed ++ [objects s.span .transport] = a.closed ++ [transport.number] := fun hobjects hs => by
    rw [hs.closed, hs.span, hobjects (h.current ▸ hn)]
  have hconnected : ∀ {s : Stage}, s.Fits span a → s.connected = true := fun hs => by
    rw [hs.connected, hn]
    rfl
  cases fails with
  | true =>
      have hclose : a.closeWith true = (false, { a with closed := a.closed ++ [transport.number] }) := by
        rw [closeWith, hlookup]
        rfl
      refine ⟨?_, ?_, id, fun {objects s} hobjects hs => ?_⟩
      all_goals rw [meet, hclose]
      · exact h.closing _
      · rw [Stage.meet, if_pos (hconnected hs)]
        exact ⟨congrArg (Outcome.ended false) (hclosed hobjects hs).symm, hs.span, hs.connected, hclosed hobjects hs⟩
  | false =>
      have hclose : a.closeWith false = (true, { a with closed := a.closed ++ [transport.number], parts := [] }) := by
        rw [closeWith, hlookup]
        rfl
      refine ⟨?_, ?_, id, fun {objects s} hobjects hs => ?_⟩
      all_goals rw [meet, hclose]
      · exact h.forgotten _
      · rw [Stage.meet, if_pos (hconnected hs)]
        exact ⟨congrArg (Outcome.ended true) (hclosed hobjects hs).symm, congrArg (· + 1) hs.span, rfl,
          hclosed hobjects hs⟩

theorem exists_met (h : History span known a) (demand : Demand) :
    ∃ span' known', Met demand span known a span' known' := by
  cases demand with
  | get p => exact ⟨_, _, met_get h p⟩
  | reset => exact ⟨_, _, met_reset h⟩
  | close fails =>
      cases hn : a.number? .transport with
      | none => exact ⟨_, _, met_close_none h hn fails⟩
      | some n => exact ⟨_, _, met_close_some h hn fails⟩

theorem exists_history (connects : Bool) (demands : List Demand) :
    ∃ span known, History span known (run meet demands { connects }).2 ∧
      (run meet demands { connects }).2.connects = connects ∧ ∀ {objects}, Extends objects known →
        (run meet demands { connects }).1 = (run (Stage.meet connects objects) demands {}).1 ∧
        (run (Stage.meet connects objects) demands {}).2.Fits span (run meet demands { connects }).2 := by
  induction demands using List.reverseRecOn with
  | nil => exact ⟨0, _, history_start connects, rfl, fun _ => ⟨rfl, rfl, rfl, rfl⟩⟩
  | append_singleton demands demand ih =>
      obtain ⟨span, known, hhistory, hconnects, hdue⟩ := ih
      obtain ⟨span', known', hmet⟩ := exists_met hhistory demand
      simp only [run_concat]
      refine ⟨span', known', hmet.history, hmet.connects.trans hconnects, fun {objects} hobjects => ?_⟩
      obtain ⟨houtcomes, hfits⟩ := hdue (hmet.kept hobjects)
      obtain ⟨houtcome, hfits'⟩ := hmet.due hobjects hfits
      rw [hconnects] at houtcome hfits'
      exact ⟨by rw [houtcomes, houtcome], hfits'⟩

theorem History.exists_objects (h : History span known a) :
    ∃ objects : Nat → Part → Nat, Function.Injective2 objects ∧ Extends objects known := by
  -- the numbers from the next one on stand for the parts that were never made
  refine ⟨fun e p => (known e p).getD (a.next + Nat.pair e p.ctorIdx), fun e e' p p' heq => ?_, fun {e p n} hn => ?_⟩
  · dsimp only at heq
    cases hknown : known e p <;> cases hknown' : known e' p' <;> simp only [hknown, hknown', Option.getD] at heq
    case none.none =>
      obtain ⟨he, hp⟩ := Nat.pair_eq_pair.mp (Nat.add_left_cancel heq)
      refine ⟨he, ?_⟩
      cases p <;> cases p' <;> first | rfl | cases hp
    case none.some n => exact absurd (h.lt hknown') (Nat.not_lt.mpr (heq ▸ Nat.le_add_right ..))
    case some.none n => exact absurd (h.lt hknown) (Nat.not_lt.mpr (heq ▸ Nat.le_add_right ..))
    case some.some n m => exact h.unique hknown (heq ▸ hknown')
  · exact congrArg (Option.getD · _) hn

theorem closeWith_next (a : Assembly) (fails : Bool) : (a.closeWith fails).2.next = a.next := by
  rw [closeWith]
  cases a.parts.lookup .transport <;> cases fails <;> rfl

end

/-- Whatever is asked and in whatever order: between two ends there is one object for each part, made with the objects
of the parts that it needs; no object stands for two parts or outlives an end; and closing tells the transport that
there is, once, and makes none. -/
theorem exists_objects_run (connects : Bool) (demands : List Demand) :
    ∃ objects : Nat → Part → Nat, Function.Injective2 objects ∧
      (run meet demands { connects }).1 = (run (Stage.meet connects objects) demands {}).1 ∧
      ∀ fails, ((run meet demands { connects }).2.closeWith fails).2.next = (run meet demands { connects }).2.next := by
  obtain ⟨span, known, hhistory, -, hdue⟩ := exists_history connects demands
  obtain ⟨objects, hinjective, hobjects⟩ := hhistory.exists_objects
  exact ⟨objects, hinjective, (hdue hobjects).1, closeWith_next _⟩

/-- The transport that failed to close is still the one of the registry; the one after it was closed is another. -/
example : (run meet [.get .caller, .get .registry, .close true, .get .transport, .close false, .close false,
    .get .transport] {}).1 =
    [.given ⟨1, [(.transport, 0)]⟩, .given ⟨3, [(.session, 2), (.transport, 0)]⟩, .ended false [0], .given ⟨0, []⟩,
      .ended true [0, 0], .ended true [0, 0], .given ⟨4, []⟩] := by
  decide

end Assembly

end LineShell
