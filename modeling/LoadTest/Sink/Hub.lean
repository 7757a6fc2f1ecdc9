import LoadTest.Sink

/-!
# Observers

A hub is a sink with observers. An event is first committed, then every observer is told of it, in
the order in which they were added; an observer that fails keeps nobody else from being told.

* `Observer`       a listener and which events it fails on
* `Notice`         one observer told of one event
* `Hub`            the sink, the observers, and all notices so far
* `Hub.apply`      commits and notifies, `Hub.forward` only notifies
-/

namespace LoadTest

structure Observer where
  name : String
  fails : Event → Bool := fun _ => false

/-- `observer` is the position among the observers of the hub. -/
structure Notice where
  observer : Nat
  event : Event
  delivered : Bool
deriving DecidableEq, Repr

structure Hub where
  sink : Sink := {}
  observers : Array Observer := #[]
  notices : Array Notice := #[]
deriving Inhabited

namespace Hub

def empty : Hub := {}

def noticesOf (observers : Array Observer) (e : Event) : Array Notice :=
  observers.mapIdx fun i o => ⟨i, e, !o.fails e⟩

def observe (h : Hub) (o : Observer) : Hub := { h with observers := h.observers.push o }

def forward (h : Hub) (e : Event) : Hub :=
  { h with notices := h.notices ++ noticesOf h.observers e }

def apply (h : Hub) (t : Tick) (e : Event) : Hub :=
  { h with sink := h.sink.commit t e }.forward e

def applyAll (h : Hub) (history : History) : Hub :=
  history.foldl (fun h te => h.apply te.1 te.2) h

def seenBy (h : Hub) (observer : Nat) : List Event :=
  (h.notices.toList.filter fun n => n.observer = observer).map Notice.event

end Hub

end LoadTest
