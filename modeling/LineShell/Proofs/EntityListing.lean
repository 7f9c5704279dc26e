import LineShell.Proofs.ControlsOfLines
import LineShell.Proofs.Tokens
import Mathlib.Data.String.Basic

/-!
# The listing of entities

What the listing writes can be read back: its controls are the listed names in order, and on a console each
control stands as a hint in a style of its own, with nothing else changed.
-/

namespace LineShell

open Text

/-! ## Rows -/

def useHint (name : String) : String := "[:use " ++ name ++ "]"

def listingTitle : String := "📋 Entità disponibili:\n\n"

def listingTotal (count : Nat) : String := s!"📊 Totale: {count} entità"

def rowFront (name : String) : String := "   " ++ name ++ " "

def listingRow (control : String → String) (name : String) : String := rowFront name ++ control name ++ "\n"

def listingRows (control : String → String) (names : List String) : String :=
  join "" (names.map (listingRow control))

/-- The listing with another text in place of each control. -/
def listingWith (control : String → String) (names : List String) : String :=
  if names = [] then "📭 Nessuna entità disponibile"
  else listingTitle ++ listingRows control (sortedNames names) ++ "\n" ++ listingTotal names.length

theorem toList_useHint (name : String) : (useHint name).toList = "[:use ".toList ++ name.toList ++ [']'] := by
  rw [useHint, String.toList_append, String.toList_append]
  rfl

@[simp] theorem listingRows_cons (control : String → String) (name : String) (names : List String) :
    listingRows control (name :: names) = listingRow control name ++ listingRows control names := by
  apply String.toList_inj.mp
  simp [listingRows, toList_join_empty]

theorem listingRows_append (control : String → String) (first second : List String) :
    listingRows control (first ++ second) = listingRows control first ++ listingRows control second := by
  apply String.toList_inj.mp
  simp [listingRows, toList_join_empty]

theorem toList_listingWith {names : List String} (hne : names ≠ []) (control : String → String) :
    (listingWith control names).toList = "📋 Entità disponibili:\n".toList ++ '\n' ::
      ((listingRows control (sortedNames names)).toList ++ '\n' :: (listingTotal names.length).toList) := by
  have htitle : listingTitle.toList = "📋 Entità disponibili:\n".toList ++ ['\n'] := by decide
  simp [listingWith, hne, htitle]

theorem entityListing_eq (names : List String) : entityListing names = listingWith entityControl names := by
  cases names with
  | nil => rfl
  | cons name names =>
      have hrow : listingRow entityControl = fun name => s!"   {name} {entityControl name}\n" := by
        funext name
        simp [listingRow, rowFront, String.append_assoc]
        rfl
      apply String.toList_inj.mp
      simp [entityListing, listingWith, listingRows, hrow, toList_join_empty, listingTitle, listingTotal]
      rfl

/-! ## Characters of the listing -/

/-- A character that stands for itself: it closes no control, starts no directive and is not dropped. -/
def isInert (c : Char) : Bool := c != ']' && c != '\x1b' && !isDropped c

/-- The names that the listing carries unchanged. -/
def IsListable (name : String) : Prop :=
  name ≠ "" ∧ ∀ c ∈ name.toList, isBlank c = false ∧ c ≠ ']' ∧ c ≠ '\x1b' ∧ c ≠ '\x07' ∧ c ≠ '\x08'

-- named, as another instance would go through all characters there are
instance (name : String) : Decidable (IsListable name) :=
  @instDecidableAnd _ _ inferInstance (List.decidableBAll _ name.toList)

theorem isDropped_eq_false_iff (c : Char) :
    isDropped c = false ↔ c ≠ '\x07' ∧ c ≠ '\x08' ∧ c ≠ '\x0b' ∧ c ≠ '\x0c' ∧ c ≠ '\x0d' := by
  simp [isDropped, Char.ext_iff, ← UInt32.toNat_inj]

theorem isInert_iff (c : Char) : isInert c = true ↔ c ≠ ']' ∧ c ≠ '\x1b' ∧ isDropped c = false := by
  simp [isInert, and_assoc]

namespace IsListable

variable {name : String}

theorem isEntityName (h : IsListable name) : IsEntityName name.toList := by
  obtain ⟨hne, hname⟩ := h
  refine ⟨by simpa using hne, fun c hc => (inName_iff c).mpr ?_⟩
  obtain ⟨hblank, hclosing, -⟩ := hname c hc
  exact ⟨hclosing, hblank⟩

theorem isInert (h : IsListable name) : name.toList.all LineShell.isInert = true := by
  refine List.all_eq_true.mpr fun c hc => ?_
  obtain ⟨hblank, hclosing, hescape, hbell, hback⟩ := h.2 c hc
  have hspace : ∀ d, isBlank d = true → c ≠ d := by
    rintro d hd rfl
    rw [hblank] at hd
    cases hd
  exact (isInert_iff c).mpr ⟨hclosing, hescape, (isDropped_eq_false_iff c).mpr
    ⟨hbell, hback, hspace _ (by decide), hspace _ (by decide), hspace _ (by decide)⟩⟩

end IsListable

theorem ne_of_isDigit {c d : Char} (hc : c.isDigit = true) (hd : d.toNat < '0'.toNat ∨ '9'.toNat < d.toNat) :
    c ≠ d := by
  obtain ⟨hlow, hhigh⟩ := Char.isDigit_iff_toNat.mp hc
  rintro rfl
  omega

theorem isInert_of_isDigit {c : Char} (h : c.isDigit = true) : isInert c = true :=
  (isInert_iff c).mpr ⟨ne_of_isDigit h (by decide), ne_of_isDigit h (by decide), (isDropped_eq_false_iff c).mpr
    ⟨ne_of_isDigit h (by decide), ne_of_isDigit h (by decide), ne_of_isDigit h (by decide),
      ne_of_isDigit h (by decide), ne_of_isDigit h (by decide)⟩⟩

theorem all_listingTotal {p : Char → Bool} (hdigit : ∀ c, c.isDigit = true → p c = true)
    (htext : "📊 Totale:  entità".toList.all p = true) (count : Nat) : (listingTotal count).toList.all p = true := by
  have htotal : (listingTotal count).toList = "📊 Totale: ".toList ++ (toString count).toList ++ " entità".toList := by
    simp [listingTotal]
    rfl
  have hdigits : (toString count).toList.all p = true := by
    refine List.all_eq_true.mpr fun c hc => ?_
    rw [Nat.toString_eq_ofList_toDigits, String.toList_ofList] at hc
    exact hdigit c (Nat.isDigit_of_mem_toDigits (by decide) (by decide) hc)
  have hsplit : "📊 Totale:  entità".toList = "📊 Totale: ".toList ++ " entità".toList := by decide
  rw [hsplit, List.all_append, Bool.and_eq_true] at htext
  rw [htotal, List.all_append, List.all_append, htext.1, htext.2, hdigits]
  rfl

theorem isInert_listingTotal (count : Nat) : (listingTotal count).toList.all isInert = true :=
  all_listingTotal (fun _ => isInert_of_isDigit) (by decide) count

/-! ## Reading the controls -/

theorem escape_not_mem {cs : List Char} (h : cs.all isInert = true) : '\x1b' ∉ cs := by
  intro hmem
  exact absurd (List.all_eq_true.mp h _ hmem) (by decide)

theorem closing_not_mem {cs : List Char} (h : cs.all isInert = true) : ']' ∉ cs := by
  intro hmem
  exact absurd (List.all_eq_true.mp h _ hmem) (by decide)

theorem controlsFrom_row {name : String} (h : IsListable name) (rest : List Char) :
    controlsFrom ((listingRow entityControl name).toList ++ rest) = name.toList :: controlsFrom rest := by
  have hfront : ']' ∉ "   ".toList ++ name.toList := by
    simpa using closing_not_mem h.isInert
  have hcontrol : controlsFrom (entityControl name).toList = [name.toList] := by
    rw [toList_entityControl, controlsFrom_of_some (control?_eq_some_iff.mpr ⟨h.isEntityName, rfl⟩), controlsFrom_nil]
  calc controlsFrom ((listingRow entityControl name).toList ++ rest)
    _ = controlsFrom (("   ".toList ++ name.toList) ++ ' ' :: ((entityControl name).toList ++ '\n' :: rest)) := by
      simp [listingRow, rowFront]
    _ = controlsFrom ((entityControl name).toList ++ '\n' :: rest) := by
      rw [controlsFrom_append_blank (by decide), controlsFrom_of_not_mem hfront, List.nil_append]
    _ = name.toList :: controlsFrom rest := by
      rw [controlsFrom_append_blank (by decide), hcontrol, List.singleton_append]

theorem controlsFrom_rows {names : List String} (h : ∀ name ∈ names, IsListable name) (rest : List Char) :
    controlsFrom ((listingRows entityControl names).toList ++ rest) = names.map String.toList ++ controlsFrom rest := by
  induction names with
  | nil => rfl
  | cons name names ih =>
      obtain ⟨hname, hnames⟩ := List.forall_mem_cons.mp h
      rw [listingRows_cons, String.toList_append, List.append_assoc, controlsFrom_row hname, ih hnames,
        List.map_cons, List.cons_append]

theorem mem_sortedNames {names : List String} {name : String} : name ∈ sortedNames names ↔ name ∈ names :=
  List.mem_mergeSort

theorem entityControls_listingWith {names : List String} (h : ∀ name ∈ names, IsListable name) :
    entityControls (listingWith entityControl names) = sortedNames names := by
  by_cases hnil : names = []
  · subst hnil
    decide +kernel
  · have hrows : ∀ name ∈ sortedNames names, IsListable name := fun name hname => h name (mem_sortedNames.mp hname)
    have htotal : ']' ∉ '\n' :: (listingTotal names.length).toList := by
      simpa using closing_not_mem (isInert_listingTotal names.length)
    rw [entityControls, toList_listingWith hnil, controlsFrom_append_blank (by decide),
      controlsFrom_of_not_mem (by decide), controlsFrom_rows hrows, controlsFrom_of_not_mem htotal]
    simp [Function.comp_def]

/-! ## Rendering -/

section

variable {u : List Char} {c : Char}

theorem noneBegins_inert (hu : u.all isInert = true) : NoneBegins u [] :=
  noneBegins_plain (escape_not_mem hu) (controlsFrom_of_not_mem (closing_not_mem hu))

theorem noneBegins_inert_blank (hu : u.all isInert = true) (hc : isBlank c = true) (rest : List Char) :
    NoneBegins (u ++ [c]) rest :=
  noneBegins_plain_blank (escape_not_mem hu) (controlsFrom_of_not_mem (closing_not_mem hu)) hc rest

theorem renderFrom_append_blank (hu : u.all isInert = true) (hc : isBlank c = true) (rest : List Char)
    (text : StyledText) : renderFrom text (u ++ c :: rest) = renderFrom (text.append (u ++ [c]) none) rest := by
  rw [← renderFrom_append (noneBegins_inert_blank hu hc rest), List.append_assoc, List.singleton_append]

theorem renderFrom_of_inert (hu : u.all isInert = true) (text : StyledText) :
    renderFrom text u = text.append u none := by
  have hend := renderFrom_append (noneBegins_inert hu) text
  rwa [List.append_nil, renderFrom_nil] at hend

theorem renderFrom_control {name : List Char} (h : IsEntityName name) (after : List Char) (text : StyledText) :
    renderFrom text (controlOpening ++ (name ++ ']' :: after)) =
      renderFrom (text.append ("[:use ".toList ++ name ++ [']']) (some "entity.control")) after := by
  have hwhole : (Token.control name).IsWhole := h
  have htoken := renderFrom_token hwhole after text
  rw [Token.spelling, List.append_assoc, List.append_assoc, List.singleton_append] at htoken
  exact htoken

end

def hintSpan (front name : String) : Span := ⟨size front, size front + size (useHint name), "entity.control"⟩

def StyledText.addRow (text : StyledText) (name : String) : StyledText := { text with
  plain := text.plain ++ listingRow useHint name
  spans := text.spans ++ [hintSpan (text.plain ++ rowFront name) name] }

theorem printed_eq_self {cs : List Char} (h : ∀ c ∈ cs, isDropped c = false) : printed cs = cs :=
  List.filter_eq_self.mpr fun c hc => by rw [h c hc]; rfl

theorem printed_of_inert {cs : List Char} (h : cs.all isInert = true) : printed cs = cs :=
  printed_eq_self fun c hc => ((isInert_iff c).mp (List.all_eq_true.mp h c hc)).2.2

theorem renderFrom_row {name : String} (h : IsListable name) (rest : List Char) (text : StyledText) :
    renderFrom text ((listingRow entityControl name).toList ++ rest) = renderFrom (text.addRow name) rest := by
  have hfront : ("   ".toList ++ name.toList).all isInert = true := by
    rw [List.all_append, h.isInert]
    rfl
  have hprinted : printed ("   ".toList ++ name.toList ++ [' ']) = (rowFront name).toList := by
    rw [printed_of_inert (by rw [List.all_append, hfront]; rfl)]
    simp [rowFront]
  have hhint : printed ("[:use ".toList ++ name.toList ++ [']']) = (useHint name).toList := by
    calc printed ("[:use ".toList ++ name.toList ++ [']'])
      _ = printed "[:use ".toList ++ printed name.toList ++ printed [']'] := by
        simp only [printed, List.filter_append]
      _ = "[:use ".toList ++ name.toList ++ [']'] := by rw [printed_of_inert h.isInert]; rfl
      _ = (useHint name).toList := (toList_useHint name).symm
  -- three pieces: the front of the row, the control, and the newline
  calc renderFrom text ((listingRow entityControl name).toList ++ rest)
    _ = renderFrom text (("   ".toList ++ name.toList) ++ ' ' ::
          (controlOpening ++ (name.toList ++ ']' :: ([] ++ '\n' :: rest)))) := by
      simp [listingRow, rowFront, toList_entityControl]
    _ = renderFrom (((text.append ("   ".toList ++ name.toList ++ [' ']) none).append
          ("[:use ".toList ++ name.toList ++ [']']) (some "entity.control")).append ['\n'] none) rest := by
      rw [renderFrom_append_blank hfront (by decide), renderFrom_control h.isEntityName,
        renderFrom_append_blank rfl (by decide)]
      rfl
    _ = renderFrom (text.addRow name) rest := by
      have hnewline : printed ['\n'] = ['\n'] := by decide
      rw [StyledText.append_none, StyledText.append_none, StyledText.append_some (by simp), hprinted, hhint,
        hnewline]
      simp [StyledText.addRow, hintSpan, listingRow, size, String.append_assoc]

theorem renderFrom_rows {names : List String} (h : ∀ name ∈ names, IsListable name) (rest : List Char)
    (text : StyledText) : renderFrom text ((listingRows entityControl names).toList ++ rest) =
      renderFrom (names.foldl StyledText.addRow text) rest := by
  induction names generalizing text with
  | nil => rfl
  | cons name names ih =>
      obtain ⟨hname, hnames⟩ := List.forall_mem_cons.mp h
      rw [listingRows_cons, String.toList_append, List.append_assoc, renderFrom_row hname, ih hnames, List.foldl_cons]

namespace StyledText

variable (text : StyledText) (names : List String)

theorem plain_addRows : (names.foldl addRow text).plain = text.plain ++ listingRows useHint names := by
  induction names generalizing text with
  | nil => simp [listingRows, join]
  | cons name names ih => rw [List.foldl_cons, ih, listingRows_cons, addRow, String.append_assoc]

theorem length_spans_addRows : (names.foldl addRow text).spans.length = text.spans.length + names.length := by
  induction names generalizing text with
  | nil => rfl
  | cons name names ih =>
      rw [List.foldl_cons, ih, addRow, List.length_append, List.length_singleton, List.length_cons]
      omega

theorem spans_prefix_addRows : text.spans <+: (names.foldl addRow text).spans := by
  induction names generalizing text with
  | nil => exact List.prefix_rfl
  | cons name names ih => exact (List.prefix_append _ _).trans (ih (text.addRow name))

end StyledText

/-- The listing as a console shows it: the title, the rows one after the other, and the total. -/
theorem renderLine_listingWith {names : List String} (hne : names ≠ []) (h : ∀ name ∈ names, IsListable name) :
    renderLine (listingWith entityControl names) =
      ((sortedNames names).foldl StyledText.addRow { plain := listingTitle }).append
        ('\n' :: (listingTotal names.length).toList) none := by
  have hrows : ∀ name ∈ sortedNames names, IsListable name := fun name hname => h name (mem_sortedNames.mp hname)
  have htotal : ('\n' :: (listingTotal names.length).toList).all isInert = true := by
    rw [List.all_cons, isInert_listingTotal]
    rfl
  have htitle : StyledText.append listingTitle.toList none {} = { plain := listingTitle } := by decide
  rw [renderLine_eq, toList_listingWith hne, renderFrom_append_blank (by decide) (by decide),
    renderFrom_rows hrows, renderFrom_of_inert htotal]
  congr 2

/-! ## The whole listing -/

theorem perm_sortedNames (names : List String) : (sortedNames names).Perm names := List.mergeSort_perm names _

theorem pairwise_sortedNames (names : List String) : (sortedNames names).Pairwise (· ≤ ·) := by
  have hpairs := @List.pairwise_mergeSort String (fun a b => !decide (b < a))
    (fun a b c hab hbc => by
      simp only [Bool.not_eq_true', decide_eq_false_iff_not, not_lt] at hab hbc ⊢
      exact le_trans hab hbc)
    (fun a b => by
      simp only [Bool.or_eq_true, Bool.not_eq_true', decide_eq_false_iff_not, not_lt]
      exact le_total a b) names
  refine hpairs.imp fun {a b} hab => ?_
  simpa only [Bool.not_eq_true', decide_eq_false_iff_not, not_lt] using hab

theorem sortedNames_eq {names order : List String} (hperm : names.Perm order) (hsorted : order.Pairwise (· ≤ ·)) :
    sortedNames names = order :=
  ((perm_sortedNames names).trans hperm).eq_of_pairwise (fun _ _ _ _ => le_antisymm) (pairwise_sortedNames names) hsorted

theorem getLast?_lines_listingWith {names : List String} (hne : names ≠ []) (control : String → String) :
    (lines (listingWith control names)).getLast? = some (listingTotal names.length) := by
  have hnewline : hasChar '\n' (listingTotal names.length) = false := by
    have hall : (listingTotal names.length).toList.all (· != '\n') = true :=
      all_listingTotal (fun c hc => by simpa using ne_of_isDigit hc (by decide)) (by decide) names.length
    rw [hasChar_eq_false_iff]
    intro hmem
    simpa using List.all_eq_true.mp hall _ hmem
  rw [listingWith, if_neg hne, lines, show "\n" = String.singleton '\n' from rfl, split_append_sep,
    split_of_not_hasChar hnewline, List.getLast?_concat]

section

variable {names : List String}

theorem plain_entityListing (h : ∀ name ∈ names, IsListable name) :
    (renderLine (entityListing names)).plain = listingWith useHint names := by
  rw [entityListing_eq]
  by_cases hnil : names = []
  · subst hnil
    decide +kernel
  · have htotal : String.ofList (printed ('\n' :: (listingTotal names.length).toList)) =
        "\n" ++ listingTotal names.length := by
      rw [printed_of_inert (by rw [List.all_cons, isInert_listingTotal]; rfl)]
      apply String.toList_inj.mp
      simp
    rw [renderLine_listingWith hnil h, StyledText.append_none, listingWith, if_neg hnil]
    simp only [StyledText.plain_addRows, htotal, String.append_assoc]

theorem spans_entityListing (hne : names ≠ []) (h : ∀ name ∈ names, IsListable name) :
    (renderLine (entityListing names)).spans =
      ((sortedNames names).foldl StyledText.addRow { plain := listingTitle }).spans := by
  rw [entityListing_eq, renderLine_listingWith hne h, StyledText.append_none]

theorem length_spans_entityListing (h : ∀ name ∈ names, IsListable name) :
    (renderLine (entityListing names)).spans.length = names.length := by
  by_cases hnil : names = []
  · subst hnil
    decide +kernel
  · rw [spans_entityListing hnil h, StyledText.length_spans_addRows, (perm_sortedNames names).length_eq]
    exact Nat.zero_add names.length

/-- The hint of a row stands behind the rows before it. -/
theorem getElem?_spans_entityListing (h : ∀ name ∈ names, IsListable name) {before after : List String} {name : String}
    (horder : sortedNames names = before ++ name :: after) :
    (renderLine (entityListing names)).spans[before.length]? =
      some (hintSpan (listingTitle ++ listingRows useHint before ++ rowFront name) name) := by
  have hne : names ≠ [] := by
    rintro rfl
    simp [sortedNames] at horder
  let text := before.foldl StyledText.addRow { plain := listingTitle }
  have hplain : text.plain = listingTitle ++ listingRows useHint before := StyledText.plain_addRows _ before
  have hlength : text.spans.length = before.length :=
    (StyledText.length_spans_addRows _ before).trans (Nat.zero_add before.length)
  have hrow : (text.addRow name).spans[before.length]? =
      some (hintSpan (listingTitle ++ listingRows useHint before ++ rowFront name) name) := by
    rw [← hlength, ← hplain]
    exact List.getElem?_concat_length
  obtain ⟨later, hlater⟩ := StyledText.spans_prefix_addRows (text.addRow name) after
  have hbound : before.length < (text.addRow name).spans.length := (List.getElem?_eq_some_iff.mp hrow).1
  rw [spans_entityListing hne h, horder, List.foldl_append, List.foldl_cons, ← hlater,
    List.getElem?_append_left hbound, hrow]

theorem listingWith_of_order {before after : List String} {name : String}
    (horder : sortedNames names = before ++ name :: after) (control : String → String) :
    listingWith control names = listingTitle ++ listingRows control before ++ rowFront name ++ control name ++
      ("\n" ++ listingRows control after ++ "\n" ++ listingTotal names.length) := by
  have hne : names ≠ [] := by
    rintro rfl
    simp [sortedNames] at horder
  rw [listingWith, if_neg hne, horder, listingRows_append, listingRows_cons]
  simp only [listingRow, String.append_assoc]

end

/-- Reading a listing gives the names in order. A console shows the same listing with a hint for each control, each
hint in the style of controls and nothing else in a style. -/
theorem entityListing_read_back {names : List String} (h : ∀ name ∈ names, IsListable name) :
    (entityControls (entityListing names) = sortedNames names ∧ (sortedNames names).Perm names ∧
      (sortedNames names).Pairwise (· ≤ ·)) ∧
    (renderLine (entityListing names)).plain = listingWith useHint names ∧
    (renderLine (entityListing names)).style = "" ∧
    (renderLine (entityListing names)).spans.length = names.length ∧
    (∀ before name after, sortedNames names = before ++ name :: after →
      let front := listingTitle ++ listingRows useHint before ++ rowFront name
      (renderLine (entityListing names)).spans[before.length]? =
          some ⟨size front, size front + size (useHint name), "entity.control"⟩ ∧
        (renderLine (entityListing names)).plain = front ++ useHint name ++
          ("\n" ++ listingRows useHint after ++ "\n" ++ listingTotal names.length)) ∧
    (names ≠ [] → (lines (entityListing names)).getLast? = some (listingTotal names.length) ∧
      (lines (renderLine (entityListing names)).plain).getLast? = some (listingTotal names.length)) := by
  have hplain := plain_entityListing h
  refine ⟨⟨?_, perm_sortedNames names, pairwise_sortedNames names⟩, hplain, style_renderLine _,
    length_spans_entityListing h, fun before name after horder => ⟨?_, ?_⟩, fun hne => ⟨?_, ?_⟩⟩
  · rw [entityListing_eq, entityControls_listingWith h]
  · exact getElem?_spans_entityListing h horder
  · rw [hplain, listingWith_of_order horder]
  · rw [entityListing_eq, getLast?_lines_listingWith hne]
  · rw [hplain, getLast?_lines_listingWith hne]

theorem entityListing_read_back_openings :
    let names := ["utenti", "a[utilizza:", "[utilizza:b", "utenti"]
    (∀ name ∈ names, IsListable name) ∧
      entityControls (entityListing names) = ["[utilizza:b", "a[utilizza:", "utenti", "utenti"] ∧
      (renderLine (entityListing names)).plain = listingWith useHint names ∧
      (renderLine (entityListing names)).spans.length = 4 ∧
      (renderLine (entityListing names)).spans[2]? = some ⟨101, 114, "entity.control"⟩ ∧
      (lines (entityListing names)).getLast? = some "📊 Totale: 4 entità" := by
  intro names
  have hnames : ∀ name ∈ names, IsListable name := by decide
  have horder : sortedNames names = ["[utilizza:b", "a[utilizza:", "utenti", "utenti"] :=
    sortedNames_eq (by decide) (by decide)
  obtain ⟨⟨hcontrols, -, -⟩, hplain, -, hlength, hhints, htotal⟩ := entityListing_read_back hnames
  have hfront : size (listingTitle ++ listingRows useHint ["[utilizza:b", "a[utilizza:"] ++ rowFront "utenti") = 101 := by
    decide +kernel
  have hhint := (hhints ["[utilizza:b", "a[utilizza:"] "utenti" ["utenti"] horder).1
  have htext : some (listingTotal names.length) = some "📊 Totale: 4 entità" := by decide
  rw [hfront] at hhint
  exact ⟨hnames, hcontrols.trans horder, hplain, hlength, hhint, (htotal (by decide)).1.trans htext⟩

end LineShell
