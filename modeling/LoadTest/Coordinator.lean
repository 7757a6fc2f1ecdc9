import LoadTest.Coordinator.Intake
import LoadTest.Dispatch.Message
import LoadTest.Net.Endpoint
import LoadTest.Sink.Summary
import LoadTest.Stream.Echo

/-!
# Distributed runs

The coordinator opens a port, asks the broker for agents, takes in what they send until every
expected invocation has ended, drains the rest, and reports.
-/

namespace LoadTest.Coordinator

structure Job where
  scenario : String
  plan : Plan
  endpoint : Endpoint
deriving Repr

/-- `port` is the port that is opened or why there is none. The run is started at `startedAt`, the
lines of all agents arrive in order, and the run is stopped at `stoppedAt`. -/
structure Surroundings where
  port : Endpoint → Except String UInt16
  broker : Dispatch.Request → Except Error (List String)
  arrivals : List Arrival
  shortage : Shortage
  startedAt : Instant
  stoppedAt : Instant

structure Report where
  summary : Summary
  tally : Tally
  workers : List String

def Job.request (job : Job) (port : UInt16) : Dispatch.Request :=
  ⟨job.scenario, job.plan, (job.endpoint.withPort port).display⟩

/-- the hub of a run that has just been started, with the echo as its first observer -/
def startedHub (now : Instant) : Hub :=
  (Hub.empty.observe { name := "stdout" }).apply now (.startTestRun none)

/-- what has been taken in once the expected number of invocations has ended -/
def gather (expected : Nat) (world : Surroundings) : Reception :=
  consume expected world.shortage { hub := startedHub world.startedAt } world.arrivals

def finish (world : Surroundings) (r : Reception) : Except Error Intake :=
  match r.result with
  | .error e => .error e
  | .ok () => drain (r.intake.apply world.stoppedAt (.stopTestRun none)) r.unread

def echo (expected : Nat) (s : Intake) : Echo :=
  Echo.pushAll { total := some expected } (s.hub.seenBy 0)

def run (job : Job) (world : Surroundings) : Except Error Report :=
  match job.plan.expectedTotal with
  | .error e => .error e
  | .ok expected =>
    match world.port job.endpoint with
    | .error cause => .error (.bind job.endpoint.display cause)
    | .ok port =>
      match world.broker (job.request port) with
      | .error e => .error e
      | .ok workers =>
        match finish world (gather expected world) with
        | .error e => .error e
        | .ok s => .ok ⟨s.hub.sink.summary world.stoppedAt, s.tally, workers⟩

end LoadTest.Coordinator
