import LoadTest.Cli.Arguments
import LoadTest.Dispatch.Broker
import LoadTest.Run.Local
import LoadTest.Scenario.Builtin

/-!
# Runs from the command line

A run is first checked and then carried out. A fault found by the checks has no effect at all.

* `World`               how everything outside of the program behaves
* `World.offline`       nobody is there
* `Effect`, `Course`    what a run does outside, in order, and how it ends
* `LocalJob.ofArguments`, `SharedJob.ofArguments`   the checks
* `LocalJob.course`, `SharedJob.course`             what comes after them
* `run`                 a whole run
-/

namespace LoadTest.Cli

/-! ## the outside -/

/-- `weaver` interleaves the users of a tier, `closing` is why a far side fails to take the end of a
stream, if it does, and `arrivals` is what the agents send that were started for a request. -/
structure World where
  outside : Outside
  weaver : Run.Weaver Act
  link : Endpoint → Link
  closing : Endpoint → Option String
  port : Endpoint → Except String UInt16
  broker : Endpoint → Dispatch.Request → Dispatch.Peer
  arrivals : Dispatch.Request → List Coordinator.Arrival
  startedAt : Instant
  stoppedAt : Instant

namespace World

def refusal : String := "Connection refused (os error 111)"

/-- Every port can be opened, but nobody listens anywhere. -/
def offline (setting : String → Option String) (clock : Clock) : World where
  outside := { setting, clock, exchange := fun _ _ => { reaction := .lost } }
  weaver := .rounds
  link _ := .refused refusal
  closing _ := none
  port _ := .ok 0
  broker _ _ := .refuses refusal
  arrivals _ := []
  startedAt := 0
  stoppedAt := 0

end World

inductive Effect where
  | print (text : String)
  | connect (endpoint : Endpoint)
  | bind (endpoint : Endpoint)
  | ask (broker : Endpoint) (request : Dispatch.Request)
  | execute (finished : Run.Finished)

/-! ## how a run ends -/

inductive Failure where
  | missingScenario
  | error (e : Error)
deriving DecidableEq, Repr

namespace Failure

def message : Failure → String
  | missingScenario => "missing scenario"
  | error e => e.fullMessage

def exit : Failure → ExitCode
  | missingScenario => .invalidInput
  | error e => .ofError e

def isFatal : Failure → Bool
  | missingScenario => false
  | error e => e.isFatal

end Failure

structure Course where
  effects : List Effect := []
  result : Except Failure ExitCode

namespace Course

def refused (e : Error) : Course := { result := .error (.error e) }

def exit (c : Course) : ExitCode :=
  match c.result with
  | .ok code => code
  | .error f => f.exit

def printed (c : Course) : String :=
  String.join (c.effects.filterMap fun | .print text => some text | _ => none)

def request? (c : Course) : Option Dispatch.Request :=
  c.effects.findSome? fun | .ask _ r => some r | _ => none

def finished? (c : Course) : Option Run.Finished :=
  c.effects.findSome? fun | .execute f => some f | _ => none

def reported (effects : List Effect) (output : Format) (h : Header) (r : Report) : Course :=
  { effects := effects ++ [.print (output.after h r)], result := .ok (.ofSummary r.summary) }

end Course

/-! ## local runs -/

structure LocalJob where
  scenario : Scenario
  stream : StreamOrder
  header : Header

namespace LocalJob

/-- the configuration of a stream; an echo is told how many invocations to expect -/
def config (a : Arguments) (k : StreamKind) (expected : Nat) : StreamConfig :=
  match k with
  | .stdout => (a.config .stdout).set "total" (Text.decimal expected)
  | .remote => a.config .remote

def ofArguments (a : Arguments) (r : Registry) (id : String) (p : Plan) : Except Error LocalJob :=
  match r.resolve id with
  | .error e => .error e
  | .ok scenario =>
    match StreamKind.ofName a.stream with
    | .error e => .error e
    | .ok kind =>
      match p.expectedTotal with
      | .error e => .error e
      | .ok expected =>
        match StreamOrder.ofConfig kind (config a kind expected) with
        | .error e => .error e
        | .ok stream => .ok ⟨scenario, stream, ⟨id, p, .local, expected⟩⟩

def connections (job : LocalJob) : List Effect :=
  (job.stream.destination?.map Effect.connect).toList

/-- how the far side takes the end of the stream; an echo has no far side -/
def closing (job : LocalJob) (w : World) : Except Error Unit :=
  match job.stream.destination?.bind w.closing with
  | some cause => .error (.io cause)
  | none => .ok ()

/-- The stream is opened before anything is printed. -/
def course (job : LocalJob) (a : Arguments) (w : World) : Course :=
  match job.stream.fill w.link with
  | .error e => { effects := job.connections, result := .error (.error e) }
  | .ok stream =>
    let finished :=
      Run.execute ⟨stream, a.worker⟩ job.header.plan job.scenario w.weaver (job.closing w)
        w.startedAt
    let effects := job.connections ++ [.print (a.output.before job.header), .execute finished]
    match finished.result with
    | .error e => { effects, result := .error (.error e) }
    | .ok summary => .reported effects a.output job.header { summary }

end LocalJob

/-! ## runs with agents -/

structure SharedJob where
  broker : Endpoint
  job : Coordinator.Job
  header : Header

namespace SharedJob

def defaultEndpoint : String := "tcp://127.0.0.1:7781"

def gatherAt (a : Arguments) : Except Error Endpoint :=
  match a.remote.endpoint .remote "endpoint" with
  | .error e => .error e
  | .ok (some endpoint) => .ok endpoint
  | .ok none => Endpoint.parse defaultEndpoint

/-- Of the options of the streams, the endpoint and the progress are looked at. -/
def ofArguments (a : Arguments) (r : Registry) (id : String) (p : Plan) :
    Except Error SharedJob :=
  if r.contains id then
    match Endpoint.parse a.broker with
    | .error e => .error e
    | .ok broker =>
      match gatherAt a with
      | .error e => .error e
      | .ok endpoint =>
        match a.stdout.bool .stdout "progress" with
        | .error e => .error e
        | .ok _ =>
          match p.expectedTotal with
          | .error e => .error e
          | .ok expected => .ok ⟨broker, ⟨id, p, endpoint⟩, ⟨id, p, .distributed, expected⟩⟩
  else .error (.unknownScenario id)

def request? (job : SharedJob) (w : World) : Option Dispatch.Request :=
  (w.port job.job.endpoint).toOption.map job.job.request

def surroundings (job : SharedJob) (a : Arguments) (w : World) : Coordinator.Surroundings where
  port := w.port
  broker r := Dispatch.ask job.broker Dispatch.defaultPatience (w.broker job.broker r)
  arrivals := ((job.request? w).map w.arrivals).getD []
  shortage := if a.deadline.isSome then .deadline else .closed
  startedAt := w.startedAt
  stoppedAt := w.stoppedAt

def course (job : SharedJob) (a : Arguments) (w : World) : Course :=
  let effects := [.print (a.output.before job.header), .bind job.job.endpoint] ++
    ((job.request? w).map (Effect.ask job.broker)).toList
  match Coordinator.run job.job (job.surroundings a w) with
  | .error e => { effects, result := .error (.error e) }
  | .ok r => .reported effects a.output job.header r.toReport

end SharedJob

/-! ## whole runs -/

/-- A plan with agents is shared among them; any other one is executed here. -/
def runPlan (w : World) (a : Arguments) (id : String) (p : Plan) : Course :=
  let registry := Registry.builtin w.outside
  if p.agents.isSome then
    match SharedJob.ofArguments a registry id p with
    | .error e => .refused e
    | .ok job => job.course a w
  else
    match LocalJob.ofArguments a registry id p with
    | .error e => .refused e
    | .ok job => job.course a w

def run (w : World) (a : Arguments) : Course :=
  match a.scenario with
  | none => { result := .error .missingScenario }
  | some id =>
    match Plan.parse a.users a.cycles a.agents with
    | .error e => .refused e
    | .ok p => runPlan w a id p

end LoadTest.Cli
