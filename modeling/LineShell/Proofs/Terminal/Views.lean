import LineShell.Command

/-!
# Views of a terminal

A terminal has a desk, at which commands work, a display, which shows what was typed and answered, and
a journal. What only one of these parts sees is said through its view.
-/

namespace LineShell

/-- What commands work with: who works where, the backend with all that was sent to it, and the clock. -/
structure Desk where
  user : String
  host : String
  directory : String
  client : Http.Address
  backend : Backend
  home : Errand → Reply
  sent : List Request
  reached : List Request
  clock : Clock

/-- What is shown and typed, and who is told of it. -/
structure Display where
  transcript : List String
  commands : List String
  cursor : Option Nat
  watchers : List Watcher
  bus : Option (EventBus String)
  notices : List Notice

namespace Terminal

def desk (t : Terminal) : Desk where
  user := t.session.user
  host := t.session.host
  directory := t.session.directory
  client := t.client
  backend := t.backend
  home := t.home
  sent := t.sent
  reached := t.reached
  clock := t.clock

def display (t : Terminal) : Display where
  transcript := t.session.transcript
  commands := t.session.commands
  cursor := t.session.cursor
  watchers := t.watchers
  bus := t.bus
  notices := t.notices

def messages (t : Terminal) : List (String × String) :=
  t.notices.filterMap fun
    | .message listener payload => some (listener, payload)
    | .shown .. => none

def unlogged (t : Terminal) : Terminal := { t with journal := [] }

variable {t u : Terminal}

/-! ## The journal is in no view -/

@[simp] theorem noteAll_nil (t : Terminal) : t.noteAll [] = t := by simp [noteAll]

theorem noteAll_append (entries more : List Entry) (t : Terminal) :
    t.noteAll (entries ++ more) = (t.noteAll entries).noteAll more := by
  simp [noteAll]

@[simp] theorem desk_noteAll (entries : List Entry) (t : Terminal) : (t.noteAll entries).desk = t.desk := rfl

@[simp] theorem unlogged_noteAll (entries : List Entry) (t : Terminal) :
    (t.noteAll entries).unlogged = t.unlogged := rfl

@[simp] theorem desk_note (level : Level) (text : String) (t : Terminal) :
    (t.note level text).desk = t.desk := rfl

@[simp] theorem unlogged_note (level : Level) (text : String) (t : Terminal) :
    (t.note level text).unlogged = t.unlogged := rfl

theorem unlogged_eq_iff : t.unlogged = u.unlogged ↔ t.desk = u.desk ∧ t.display = u.display := by
  constructor
  · intro h
    exact ⟨(congrArg desk h :), (congrArg display h :)⟩
  · rintro ⟨hdesk, hdisplay⟩
    obtain ⟨⟨_, _, _, _, _, _⟩, _, _, _, _, _, _, _, _, _, _⟩ := t
    obtain ⟨⟨_, _, _, _, _, _⟩, _, _, _, _, _, _, _, _, _, _⟩ := u
    simp only [desk, display, Desk.mk.injEq, Display.mk.injEq] at hdesk hdisplay
    simp_all [unlogged]

theorem session_eq_of_unlogged_eq (h : t.unlogged = u.unlogged) : t.session = u.session :=
  (congrArg session h :)

theorem directory_eq_of_desk_eq (h : t.desk = u.desk) : t.session.directory = u.session.directory :=
  congrArg Desk.directory h

theorem sent_eq_of_desk_eq (h : t.desk = u.desk) : t.sent = u.sent := congrArg Desk.sent h

theorem reached_eq_of_desk_eq (h : t.desk = u.desk) : t.reached = u.reached := congrArg Desk.reached h

theorem eq_of_unlogged_eq (h : t.unlogged = u.unlogged) : u = { t with journal := u.journal } :=
  (congrArg (fun x : Terminal => { x with journal := u.journal }) h.symm :)

end Terminal

/-! ## What a view determines -/

/-- Two outcomes that say the same and leave terminals that look the same. -/
def Same (view : Terminal → β) (x y : α × Terminal) : Prop := x.1 = y.1 ∧ view x.2 = view y.2

/-- A handler that from terminals that look the same does what looks the same. -/
def Handler.Respects (view : Terminal → β) (h : Handler) : Prop :=
  ∀ call t u, view t = view u → Same view (h call t) (h call u)

end LineShell
