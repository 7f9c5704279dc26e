/-!
# Observers

Those who are shown the transcript after each change. An observer is described by what it does with
each showing, so that it may fail, write on the list it was shown, end subscriptions or add lines to
the transcript itself.
-/

namespace LineShell

structure Reaction where
  alter : List String → List String := id
  undo : List String := []
  failure : Option String := none

/-- An observer. At its `n`-th showing, counted from zero, it adds the line `echoes[n]` to the
transcript, if there is one, and then reacts. -/
structure Observer where
  name : String
  echoes : List (Option String) := []
  react : Nat → List String → Reaction := fun _ _ => {}

def Observer.isQuiet (o : Observer) : Bool := o.echoes.all Option.isNone

/-- An observer that subscribed: whether it still is shown changes, whether its subscription can be
ended by name, and how many showings it had. -/
structure Watcher where
  observer : Observer
  active : Bool := true
  released : Bool := false
  shown : Nat := 0

def Watcher.pending (w : Watcher) : Nat := w.observer.echoes.length - w.shown

end LineShell
