import LoadTest.Event

/-!
# Scenarios

A scenario says what one invocation does: it reports events and lets time pass, and it may fall
over, which ends everything the invocation's user still had to do.

* `Slot`                 the place of an invocation in a plan
* `Act`, `Invocation`    what an invocation does, and the panic that leaves it
* `Outcome`, `Body`      what a test does between its start and its end, and how it goes
* `Scenario`             one invocation for each slot
* `Scenario.testCase`    a body in its bracket: start, one outcome, end; a panic is an error
* `Scenario.unguarded`   a body whose panic leaves the invocation
-/

namespace LoadTest

/-- `tier` and `stage` are the positions of the tier and of the cycle size in the plan; two slots
with the same status differ in them. -/
structure Slot where
  tier : Nat
  stage : Nat
  status : Status
deriving DecidableEq, Repr

inductive Act where
  | wait (nanos : Nat)
  | report (e : Event)
deriving DecidableEq, Repr

def reported (acts : List Act) : List Event :=
  acts.filterMap fun | .report e => some e | .wait _ => none

/-- `escape` holds the payload of a panic that leaves the invocation. -/
structure Invocation where
  acts : List Act
  escape : Option String := none
deriving DecidableEq, Repr

/-! ## tests -/

inductive Outcome where
  | success
  | failure (message : String)
  | error (message : String)
deriving DecidableEq, Repr

namespace Outcome

def describe : Outcome → String
  | success => "success"
  | failure message => "failure: " ++ message
  | error message => "error: " ++ message

def event (o : Outcome) (test : String) (status : Status) (worker : Option String) : Event :=
  match o with
  | success => .addSuccess test status worker
  | failure message => .addFailure test message status worker
  | error message => .addError test message status worker

end Outcome

/-- A body comes to its end or panics; a payload that is no text is absent. -/
inductive Ending where
  | returned (o : Outcome)
  | panicked (payload : Option String)
deriving DecidableEq, Repr

structure Body where
  acts : List Act := []
  ending : Ending := .returned .success
deriving DecidableEq, Repr

def Body.only (o : Outcome) : Body := { ending := .returned o }

/-- what a payload that is no text is called -/
def unknownPayload : String := "unknown panic payload"

/-- A panic counts as an error. -/
def Ending.outcome : Ending → Outcome
  | returned o => o
  | panicked payload => .error ("panicked: " ++ payload.getD unknownPayload)

/-! ## scenarios -/

structure Scenario where
  name : String
  invoke : Slot → Option String → Invocation

namespace Scenario

/-- the bracket of events around the acts of a body -/
def bracket (test : String) (status : Status) (worker : Option String) (b : Body) : List Act :=
  .report (.startTest test status worker) :: b.acts ++
    [.report (b.ending.outcome.event test status worker),
     .report (.stopTest test status worker)]

def testCase (name : String) (body : Slot → Option String → Body) : Scenario where
  name := name
  invoke slot worker := { acts := bracket name slot.status worker (body slot worker) }

/-- starts and ends a test around a body and reports no outcome; after a panic it does not end -/
def unguardedInvocation (name : String) (status : Status) (worker : Option String) (b : Body) :
    Invocation :=
  let started := .report (.startTest name status worker) :: b.acts
  match b.ending with
  | .returned _ => { acts := started ++ [.report (.stopTest name status worker)] }
  | .panicked payload => { acts := started, escape := some (payload.getD unknownPayload) }

def unguarded (name : String) (body : Slot → Option String → Body) : Scenario where
  name := name
  invoke slot worker := unguardedInvocation name slot.status worker (body slot worker)

end Scenario

end LoadTest
