import LineShell.Proofs.Api.Direct
import LineShell.Proofs.Number.Overflow

/-!
# Descriptions of a machine

What a backend says of its machine, for every text of the operating system: the figures, or the word for what is not
known. A time without an end and shares of nothing have no description, and so the machine has none.
-/

namespace LineShell

open Text

namespace Machine

/-! ## Uptime -/

def firstWord? (text : Option String) : Option String := text.bind fun text => (words text).head?

def seconds? (text : Option String) : Option Int := ((firstWord? text).bind Numeral.real?).bind Binary64.wholePart?

/-- The first word of the text spells a number past the range of the format. -/
def Endless (text : Option String) : Prop := ∃ word, firstWord? text = some word ∧ Numeral.Overflows word

theorem endless_iff {text : Option String} :
    Endless text ↔ ∃ x, (firstWord? text).bind Numeral.real? = some x ∧ x.Infinite := by
  constructor
  · rintro ⟨word, hword, hover⟩
    obtain ⟨x, hx, hinfinite⟩ := Numeral.real?_infinite_iff.mpr hover
    exact ⟨x, Option.bind_eq_some_iff.mpr ⟨word, hword, hx⟩, hinfinite⟩
  · rintro ⟨x, hbind, hinfinite⟩
    obtain ⟨word, hword, hx⟩ := Option.bind_eq_some_iff.mp hbind
    exact ⟨word, hword, Numeral.real?_infinite_iff.mp ⟨x, hx, hinfinite⟩⟩

theorem readUptime_of_endless {text : Option String} (h : Endless text) : readUptime text = none := by
  obtain ⟨x, hx, hinfinite⟩ := endless_iff.mp h
  cases x with
  | infinite negative =>
      unfold firstWord? at hx
      rw [readUptime, hx]
  | finite | nan => exact hinfinite.elim

theorem readUptime_of_not_endless {text : Option String} (h : ¬ Endless text) :
    readUptime text = some (((seconds? text).map uptimeOfSeconds).getD unknown) := by
  rw [endless_iff] at h
  unfold seconds?
  unfold readUptime
  rw [show (text.bind fun text => (words text).head?) = firstWord? text from rfl]
  cases hx : (firstWord? text).bind Numeral.real? with
  | none => rfl
  | some x =>
      cases x with
      | infinite negative => exact absurd ⟨_, hx, trivial⟩ h
      | finite | nan => rfl

theorem readUptime_eq_none_iff (text : Option String) : readUptime text = none ↔ Endless text := by
  refine ⟨fun h => ?_, readUptime_of_endless⟩
  by_contra hends
  rw [readUptime_of_not_endless hends] at h
  cases h

/-- The text gives the full minutes of the seconds, a day having 24 hours and an hour 60 minutes. -/
def TellsTime (seconds : Int) (text : String) : Prop :=
  ∃ days hours minutes : Int, text = s!"{days} giorni, {hours} ore, {minutes} minuti" ∧
    0 ≤ hours ∧ hours < 24 ∧ 0 ≤ minutes ∧ minutes < 60 ∧
    days * 86400 + hours * 3600 + minutes * 60 ≤ seconds ∧
    seconds < days * 86400 + hours * 3600 + minutes * 60 + 60

theorem tellsTime_uptimeOfSeconds (seconds : Int) : TellsTime seconds (uptimeOfSeconds seconds) := by
  refine ⟨seconds / 86400, seconds % 86400 / 3600, seconds % 3600 / 60, rfl, ?_⟩
  omega

theorem TellsTime.ne_empty {seconds : Int} {text : String} (h : TellsTime seconds text) : text ≠ "" := by
  obtain ⟨days, hours, minutes, rfl, -⟩ := h
  intro h
  have hlast : " minuti" = "" := (String.append_eq_empty_iff.mp h).2
  exact absurd hlast (by decide)

/-! ## Memory -/

/-- The amount of memory and what of it is available, each by the last line that names it. -/
def amounts? (text : Option String) : Option (Int × Int) := do
  let fields ← text.bind memoryFields?
  let total ← fields.reverse.lookup "MemTotal"
  let available ← fields.reverse.lookup "MemAvailable"
  pure (total, available)

/-- One of the quotients that describe the amounts is past the range of the format, or divides by nothing. -/
def Indescribable (total available : Int) : Prop :=
  Binary64.Exceeds ((total - available) / 2 ^ 20) ∨ Binary64.Exceeds (total / 2 ^ 20) ∨
    total = 0 ∨ Binary64.Exceeds ((total - available) * 100 / total)

theorem ratio?_eq_none_iff {num den : Int} : ratio? num den = none ↔ den = 0 ∨ Binary64.Exceeds (num / den) := by
  unfold ratio?
  by_cases hden : den = 0
  · simp only [hden, beq_self_eq_true, ↓reduceIte, true_or]
  · have hmagnitude : ((num.natAbs : ℚ) / den.natAbs) = |(num / den : ℚ)| := by
      rw [Nat.cast_natAbs, Nat.cast_natAbs, Int.cast_abs, Int.cast_abs, abs_div]
    have hinfinite : (Binary64.ofRatio (decide (num < 0) != decide (den < 0)) num.natAbs den.natAbs).Infinite ↔
        Binary64.Exceeds (num / den) := by
      rw [Binary64.ofRatio_infinite_iff (Int.natAbs_ne_zero.mpr hden), hmagnitude]
      unfold Binary64.Exceeds
      rw [abs_abs]
    rw [if_neg (by simpa using hden), or_iff_right hden, ← hinfinite]
    cases Binary64.ofRatio (decide (num < 0) != decide (den < 0)) num.natAbs den.natAbs with
    | infinite negative => exact ⟨fun _ => trivial, fun _ => rfl⟩
    | finite | nan => exact ⟨nofun, False.elim⟩

theorem nearestWhole?_of_ratio? {num den : Int} {x : Binary64} (h : ratio? num den = some x) :
    ∃ n, x.nearestWhole? = some n := by
  unfold ratio? at h
  split at h
  · cases h
  · split at h
    · cases h
    · rename_i hfinite
      obtain rfl := Option.some.inj h
      obtain ⟨m, e, heq⟩ | heq := Binary64.ofRatio_cases (decide (num < 0) != decide (den < 0)) num.natAbs den.natAbs
      · rw [heq]
        exact ⟨_, rfl⟩
      · exact absurd heq (hfinite _)

theorem describeMemory_eq_none_iff_ratio? (used total : Int) : describeMemory used total = none ↔
    ratio? used (1024 * 1024) = none ∨ ratio? total (1024 * 1024) = none ∨ ratio? (used * 100) total = none := by
  unfold describeMemory
  dsimp only
  cases ratio? used (1024 * 1024) with
  | none => exact ⟨fun _ => .inl rfl, fun _ => rfl⟩
  | some part =>
      cases ratio? total (1024 * 1024) with
      | none => exact ⟨fun _ => .inr (.inl rfl), fun _ => rfl⟩
      | some whole =>
          cases h : ratio? (used * 100) total with
          | none => exact ⟨fun _ => .inr (.inr rfl), fun _ => rfl⟩
          | some share =>
              -- the share is finite, so it has a nearest whole number
              obtain ⟨percent, hpercent⟩ := nearestWhole?_of_ratio? h
              simp only [Option.bind_eq_bind, Option.bind_some, hpercent, Option.pure_def, reduceCtorEq, or_self]

theorem describeMemory_eq_none_iff (total available : Int) :
    describeMemory (total - available) total = none ↔ Indescribable total available := by
  have hpart : ratio? (total - available) (1024 * 1024) = none ↔ Binary64.Exceeds ((total - available) / 2 ^ 20) := by
    rw [ratio?_eq_none_iff]
    norm_num
  have hwhole : ratio? total (1024 * 1024) = none ↔ Binary64.Exceeds (total / 2 ^ 20) := by
    rw [ratio?_eq_none_iff]
    norm_num
  have hshare : ratio? ((total - available) * 100) total = none ↔
      total = 0 ∨ Binary64.Exceeds ((total - available) * 100 / total) := by
    rw [ratio?_eq_none_iff]
    push_cast
    rfl
  rw [describeMemory_eq_none_iff_ratio?, hpart, hwhole, hshare, Indescribable]

/-- The text gives amounts that have no description. -/
def Shareless (text : Option String) : Prop :=
  ∃ total available, amounts? text = some (total, available) ∧ Indescribable total available

theorem readMemory_of_some {text : Option String} {total available : Int}
    (h : amounts? text = some (total, available)) : readMemory text = describeMemory (total - available) total := by
  obtain ⟨fields, hfields, h⟩ := Option.bind_eq_some_iff.mp h
  obtain ⟨total', htotal, h⟩ := Option.bind_eq_some_iff.mp h
  obtain ⟨available', havailable, h⟩ := Option.bind_eq_some_iff.mp h
  cases h
  rw [readMemory, hfields]
  dsimp only
  rw [htotal, havailable]

theorem readMemory_of_none {text : Option String} (h : amounts? text = none) : readMemory text = some unknown := by
  unfold readMemory
  split
  · rfl
  · rename_i fields hfields
    split
    · rename_i total available htotal havailable
      have hamounts : amounts? text = some (total, available) := by
        simp only [amounts?, hfields, htotal, havailable, Option.bind_eq_bind, Option.bind_some, Option.pure_def]
      rw [h] at hamounts
      cases hamounts
    · rfl

theorem readMemory_eq_none_iff (text : Option String) : readMemory text = none ↔ Shareless text := by
  cases h : amounts? text with
  | none =>
      rw [readMemory_of_none h]
      constructor
      · exact nofun
      · rintro ⟨total, available, hsome, _⟩
        rw [h] at hsome
        cases hsome
  | some amounts =>
      obtain ⟨total, available⟩ := amounts
      rw [readMemory_of_some h, describeMemory_eq_none_iff]
      constructor
      · exact fun hno => ⟨total, available, h, hno⟩
      · rintro ⟨total', available', hsome, hno⟩
        cases h.symm.trans hsome
        exact hno

/-! ## The machine -/

/-- The description gives each figure that the machine tells, and says of the others that they are not known. -/
structure Describes (m : Machine) (info : SystemInfo) : Prop where
  os : info.os = orUnknown (strip s!"{m.system} {m.release}")
  host : info.host = orUnknown m.node
  kernel : info.kernel = orUnknown m.version
  unknownUptime : seconds? m.uptime = none → info.uptime = unknown
  uptime : ∀ seconds, seconds? m.uptime = some seconds → TellsTime seconds info.uptime
  unknownMemory : amounts? m.memory = none → info.memory = unknown
  memory : ∀ total available, amounts? m.memory = some (total, available) →
    describeMemory (total - available) total = some info.memory

theorem orUnknown_ne_empty (text : String) : orUnknown text ≠ "" := by
  unfold orUnknown
  split
  · decide
  · rename_i h
    exact fun hempty => h (by rw [hempty]; rfl)

theorem describeMemory_ne_empty {used total : Int} {text : String} (h : describeMemory used total = some text) :
    text ≠ "" := by
  obtain ⟨part, _, h⟩ := Option.bind_eq_some_iff.mp h
  obtain ⟨whole, _, h⟩ := Option.bind_eq_some_iff.mp h
  obtain ⟨share, _, h⟩ := Option.bind_eq_some_iff.mp h
  obtain ⟨percent, _, h⟩ := Option.bind_eq_some_iff.mp h
  obtain rfl := Option.some.inj h
  intro h
  have hlast : "%)" = "" := (String.append_eq_empty_iff.mp h).2
  exact absurd hlast (by decide)

theorem Describes.ne_empty {m : Machine} {info : SystemInfo} (h : Describes m info) :
    ∀ text ∈ [info.os, info.host, info.kernel, info.uptime, info.memory], text ≠ "" := by
  have huptime : info.uptime ≠ "" := by
    cases hseconds : seconds? m.uptime with
    | none =>
        rw [h.unknownUptime hseconds]
        decide
    | some seconds => exact (h.uptime seconds hseconds).ne_empty
  have hmemory : info.memory ≠ "" := by
    cases hamounts : amounts? m.memory with
    | none =>
        rw [h.unknownMemory hamounts]
        decide
    | some amounts => exact describeMemory_ne_empty (h.memory amounts.1 amounts.2 hamounts)
  rw [h.os, h.host, h.kernel]
  simp only [List.forall_mem_cons, List.not_mem_nil, false_implies, implies_true, and_true]
  exact ⟨orUnknown_ne_empty _, orUnknown_ne_empty _, orUnknown_ne_empty _, huptime, hmemory⟩

theorem systemInfo_eq_none_iff (m : Machine) : m.systemInfo = none ↔ Endless m.uptime ∨ Shareless m.memory := by
  rw [← readUptime_eq_none_iff, ← readMemory_eq_none_iff]
  unfold systemInfo
  cases readUptime m.uptime with
  | none => exact ⟨fun _ => .inl rfl, fun _ => rfl⟩
  | some uptime =>
      cases readMemory m.memory with
      | none => exact ⟨fun _ => .inr rfl, fun _ => rfl⟩
      | some memory => exact ⟨nofun, nofun⟩

theorem describes_of_systemInfo {m : Machine} {info : SystemInfo} (h : m.systemInfo = some info) :
    m.Describes info := by
  have hends : ¬ Endless m.uptime := fun hends => by
    rw [(systemInfo_eq_none_iff m).mpr (.inl hends)] at h
    cases h
  obtain ⟨uptime, huptime, h⟩ := Option.bind_eq_some_iff.mp h
  obtain ⟨memory, hmemory, h⟩ := Option.bind_eq_some_iff.mp h
  obtain rfl := Option.some.inj h
  rw [readUptime_of_not_endless hends] at huptime
  have huptime := Option.some.inj huptime
  constructor
  case os => dsimp only
  case host => rfl
  case kernel => rfl
  case unknownUptime =>
    intro hnone
    rw [← huptime, hnone]
    rfl
  case uptime =>
    intro seconds hsome
    rw [← huptime, hsome]
    exact tellsTime_uptimeOfSeconds seconds
  case unknownMemory =>
    intro hnone
    rw [readMemory_of_none hnone] at hmemory
    exact (Option.some.inj hmemory).symm
  case memory =>
    intro total available hsome
    exact (readMemory_of_some hsome).symm.trans hmemory

end Machine

namespace Api

open Service

/-- Asked for its machine, a service tells what the machine tells of itself, in five texts of which none is empty. Only
a time past the range of the format and amounts without a share have no reading, and then there is no description. -/
theorem handle_systemInfo (query : List (String × String)) (body : Option Content) (s : Service) :
    (Machine.readUptime s.machine.uptime = none ↔ Machine.Endless s.machine.uptime) ∧
    (Machine.readMemory s.machine.memory = none ↔ Machine.Shareless s.machine.memory) ∧
    ∃ response, s.handle ⟨"GET", "/api/system-info", query, body⟩ = (response, s) ∧
      (response = .broken ∧ (Machine.Endless s.machine.uptime ∨ Machine.Shareless s.machine.memory) ∨
        ¬ (Machine.Endless s.machine.uptime ∨ Machine.Shareless s.machine.memory) ∧ ∃ info,
          s.machine.Describes info ∧
          (∀ text ∈ [info.os, info.host, info.kernel, info.uptime, info.memory], text ≠ "") ∧
          response = .good (.object [("os", .string info.os), ("hostname", .string info.host),
            ("kernel", .string info.kernel), ("uptime", .string info.uptime), ("memory", .string info.memory)])) := by
  have hroute : Route.find? "/api/system-info" = some .systemInfo := by decide +kernel
  refine ⟨Machine.readUptime_eq_none_iff _, Machine.readMemory_eq_none_iff _, answerSystemInfo s.machine, ?_, ?_⟩
  · exact handle_route (r := ⟨"GET", "/api/system-info", query, body⟩) hroute rfl s
  · rw [← Machine.systemInfo_eq_none_iff]
    unfold answerSystemInfo
    cases h : s.machine.systemInfo with
    | none => exact .inl ⟨rfl, rfl⟩
    | some info =>
        have hdescribes := Machine.describes_of_systemInfo h
        exact .inr ⟨nofun, info, hdescribes, hdescribes.ne_empty, rfl⟩

/-- A word for infinity, and a machine that tells of no memory at all: instead of the word for what is not known, an
answer that something broke. -/
theorem systemInfo_of_infinity :
    let registry := Registry.standard [] ⟨"/api", "/terminal/listamaschere", "linux-box"⟩
    let workplace : Workplace := { registry, terminal := { backend := .home }, apiRoot := "/api" }
    let status (m : Machine) : Int :=
      ((Service.ofWorkplace (.ok workplace) m).handle ⟨"GET", "/api/system-info", [], none⟩).1.status
    Machine.readUptime (some "inf 1.0\n") = none ∧ Machine.readUptime (some "1e400 1.0\n") = none ∧
    Machine.readMemory (some "MemTotal: 0 kB\nMemAvailable: 0 kB\n") = none ∧
    status {} = 200 ∧ status { uptime := some "inf 1.0\n" } = 500 ∧
    status { memory := some "MemTotal: 0 kB\nMemAvailable: 0 kB\n" } = 500 := by
  decide +kernel

end Api

end LineShell
