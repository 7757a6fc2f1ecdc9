import LoadTest.Error
import LoadTest.Event.Wire
import LoadTest.Sink.Hub

/-!
# Taking in what agents send

The lines of all agents wait in one queue. Until the expected number of invocations has ended, each
line is counted and its event applied; the start and the end of an agent's own run are only passed
on to observers. What comes after the last ending is drained: counted, and otherwise ignored.

* `Tally`, `Intake`          the counts; the counts with the hub
* `Line`, `Line.ofText`      what a line is
* `Intake.take`, `Intake.skim`   takes in one line before and after the last ending
* `consume`, `drain`         take in a queue
-/

namespace LoadTest.Coordinator

/-- `received` counts lines that are not blank, `completed` ended invocations, `dropped` lines that
are no event. -/
structure Tally where
  received : Nat := 0
  completed : Nat := 0
  dropped : Nat := 0
deriving DecidableEq, Repr, Inhabited

structure Intake where
  hub : Hub := {}
  tally : Tally := {}
deriving Inhabited

abbrev Arrival := Tick × String

/-! ## lines -/

inductive Line where
  | blank
  | malformed
  | clockOverflow
  | event (e : Event)
deriving DecidableEq, Repr

/-- blanks around a line do not matter -/
def Line.ofText (text : String) : Line :=
  let trimmed := Text.trimmed text
  if trimmed = "" then .blank
  else
    match Event.ofLine trimmed with
    | .ok e => .event e
    | .error .malformed => .malformed
    | .error .clockOverflow => .clockOverflow

namespace Intake

def countReceived (s : Intake) : Intake :=
  { s with tally := { s.tally with received := s.tally.received + 1 } }

def countDropped (s : Intake) : Intake :=
  { s with tally := { s.tally with dropped := s.tally.dropped + 1 } }

def countCompleted (s : Intake) : Intake :=
  { s with tally := { s.tally with completed := s.tally.completed + 1 } }

def forward (s : Intake) (e : Event) : Intake := { s with hub := s.hub.forward e }

def apply (s : Intake) (t : Tick) (e : Event) : Intake := { s with hub := s.hub.apply t e }

def takeEvent (s : Intake) (t : Tick) (e : Event) : Intake :=
  if e.isRunEvent then s.forward e
  else if e.isStopTest then (s.apply t e).countCompleted
  else s.apply t e

def take (s : Intake) (a : Arrival) : Except Error Intake :=
  match Line.ofText a.2 with
  | .blank => .ok s
  | .malformed => .ok s.countReceived.countDropped
  | .clockOverflow => .error .clockOverflow
  | .event e => .ok (s.countReceived.takeEvent a.1 e)

def skim (s : Intake) (a : Arrival) : Except Error Intake :=
  match Line.ofText a.2 with
  | .blank => .ok s
  | .malformed => .ok s.countReceived.countDropped
  | .clockOverflow => .error .clockOverflow
  | .event e => .ok (if e.isRunEvent then s.countReceived.forward e else s.countReceived)

end Intake

/-! ## queues -/

/-- how a queue that holds too little ends: its senders have gone, or time is up -/
inductive Shortage where
  | closed
  | deadline
deriving DecidableEq, Repr

def Shortage.error (s : Shortage) (completed expected : Nat) : Error :=
  match s with
  | closed => .streamClosed completed expected
  | deadline => .deadlineExceeded completed expected

/-- what has been taken in, what is left in the queue, and whether it was enough -/
structure Reception where
  intake : Intake
  unread : List Arrival
  result : Except Error Unit

/-- takes lines off the queue until the expected number of invocations has ended -/
def consume (expected : Nat) (shortage : Shortage) (s : Intake) : List Arrival → Reception
  | [] =>
    if expected ≤ s.tally.completed then ⟨s, [], .ok ()⟩
    else ⟨s, [], .error (shortage.error s.tally.completed expected)⟩
  | a :: queue =>
    if expected ≤ s.tally.completed then ⟨s, a :: queue, .ok ()⟩
    else
      match s.take a with
      | .ok s => consume expected shortage s queue
      | .error e => ⟨s, queue, .error e⟩

def drain (s : Intake) : List Arrival → Except Error Intake
  | [] => .ok s
  | a :: queue =>
    match s.skim a with
    | .ok s => drain s queue
    | .error e => .error e

end LoadTest.Coordinator
