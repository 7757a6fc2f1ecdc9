import LoadTest.Run.Schedule
import LoadTest.Sink.Hub
import LoadTest.Sink.Summary
import LoadTest.Stream
import LoadTest.Text.Quoted

/-!
# Local runs

A run starts, does what the plan makes of the scenario, stops, and closes its stream, whatever the
invocations have come to. A panic that left an invocation is what the run reports in the end. In front
of a tier without room a run breaks off: it does not stop and does not close its stream.

* `RunContext`          the stream of a run and the worker it runs as
* `Stream.Use`          what a run does with its stream
* `play`                puts acts on the clock
* `Run.breaksOff`, `Run.acts`   whether a run breaks off, and all its acts
* `Run.execute`         the run itself
-/

namespace LoadTest

/-! ## the stream of a run -/

inductive Stream.Use where
  | push (e : Event)
  | close
deriving DecidableEq, Repr

/-- a refused event is lost -/
def Stream.use (s : Stream) : Stream.Use → Stream
  | .push e => (s.push e).toOption.getD s
  | .close => s.close

structure RunContext where
  stream : Stream
  worker : Option String := none

def RunContext.describe (c : RunContext) : String :=
  "RunContext \x7b stream: " ++ Text.quoted c.stream.name ++ ", worker_id: " ++
    Text.quotedOption c.worker ++ " \x7d"

namespace Run

/-! ## the clock -/

/-- the events with the times at which they are reported, and the time at the end -/
def play (now : Instant) : List Act → History × Instant
  | [] => ([], now)
  | .wait nanos :: acts => play (now + nanos) acts
  | .report e :: acts => let (history, stop) := play now acts; ((now, e) :: history, stop)

/-! ## runs -/

/-- A run comes to a tier without room unless a panic has ended it before. -/
def breaksOff (p : Plan) (s : Schedule) : Bool := s.escape.isNone && !decide p.HasRoom

def acts (worker : Option String) (s : Schedule) (weaver : Weaver Act) (broken : Bool) :
    List Act :=
  .report (.startTestRun worker) :: s.acts weaver ++
    if broken then [] else [.report (.stopTestRun worker)]

/-- What is left of a run: how many invocations it counted, the events in the order of their
commits, the hub that took them in, what was done with the stream, and the result. -/
structure Finished where
  invocations : Option Nat
  history : History
  hub : Hub
  uses : List Stream.Use
  stream : Stream
  result : Except Error Summary

/-- the hub of a run before it starts; the stream is its only observer -/
def freshHub (c : RunContext) : Hub := Hub.empty.observe { name := c.stream.name }

/-- A panic counts more than a failure to close the stream. -/
def verdict (escape : Option String) (closing : Except Error Unit) (summary : Summary) :
    Except Error Summary :=
  match escape, closing with
  | some cause, _ => .error (.join cause)
  | none, .error e => .error e
  | none, .ok () => .ok summary

/-- `closing` is how the far side of the stream takes its end. -/
def execute (c : RunContext) (p : Plan) (s : Scenario) (weaver : Weaver Act)
    (closing : Except Error Unit) (start : Instant) : Finished :=
  let sched := schedule p.roomy s c.worker
  let broken := breaksOff p sched
  let (history, stop) := play start (acts c.worker sched weaver broken)
  let hub := (freshHub c).applyAll history
  let uses := (hub.seenBy 0).map Stream.Use.push ++ if broken then [] else [.close]
  { invocations := sched.countInvocations, history, hub, uses
    stream := uses.foldl Stream.use c.stream
    result := if broken then .error .capacityOverflow
      else verdict sched.escape closing (hub.sink.summary stop) }

end Run

end LoadTest
