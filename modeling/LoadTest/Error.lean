import LoadTest.Text.Natural

/-!
# What can go wrong

One constructor per cause; `Error.message` gives each its wording, and `Error.cause?` names the
failure of the system below it that a report repeats after the message. After a fatal error nothing
can go on: it ends the program instead of being reported.
-/

namespace LoadTest

inductive Error where
  | io (cause : String)
  | join (cause : String)
  | invalidUsers (spec : String)
  | invalidCycles (spec : String)
  | invalidAgents
  | planOverflow
  | unknownScenario (id : String)
  | unknownStream (name : String) (known : List String)
  | invalidStreamOption (stream option value reason : String)
  | invalidEndpoint (text : String)
  | bind (endpoint cause : String)
  | connect (endpoint cause : String)
  | brokerUnreachable (endpoint cause : String)
  | brokerRejected (reason : String)
  | brokerProtocol (detail : String)
  | deadlineExceeded (completed expected : Nat)
  | streamClosed (completed expected : Nat)
  | runNotStarted
  | clockOverflow
  | capacityOverflow
deriving DecidableEq, Repr, Inhabited

namespace Error

def message : Error → String
  | io cause => "io error: " ++ cause
  | join cause => "task join error: " ++ cause
  | invalidUsers spec =>
    "`users` must be a colon-separated list of positive integers (got `" ++ spec ++ "`)"
  | invalidCycles spec =>
    "`cycles` must be a colon-separated list of positive integers (got `" ++ spec ++ "`)"
  | invalidAgents => "`agents` must be a positive integer"
  | planOverflow => "workload plan is too large to count"
  | unknownScenario id => "unknown scenario `" ++ id ++ "`"
  | unknownStream name known =>
    "unknown stream `" ++ name ++ "` (expected one of: " ++ ", ".intercalate known ++ ")"
  | invalidStreamOption stream option value reason =>
    "invalid value `" ++ value ++ "` for stream option `" ++ stream ++ "." ++ option ++ "`: " ++
      reason
  | invalidEndpoint text => "invalid endpoint `" ++ text ++ "` (expected tcp://host:port)"
  | bind endpoint cause => "failed to bind `" ++ endpoint ++ "`: " ++ cause
  | connect endpoint cause => "failed to connect to `" ++ endpoint ++ "`: " ++ cause
  | brokerUnreachable endpoint cause => "broker `" ++ endpoint ++ "` is unreachable: " ++ cause
  | brokerRejected reason => "broker rejected the run: " ++ reason
  | brokerProtocol detail => "invalid broker reply: " ++ detail
  | deadlineExceeded completed expected =>
    "deadline exceeded after " ++ Text.decimal completed ++ "/" ++ Text.decimal expected ++
      " completed invocations"
  | streamClosed completed expected =>
    "result stream closed before the run completed (" ++ Text.decimal completed ++ "/" ++
      Text.decimal expected ++ ")"
  | runNotStarted => "test run has not been started"
  | clockOverflow => "a time or a duration is beyond the range of the clock"
  | capacityOverflow => "capacity overflow"

def cause? : Error → Option String
  | io cause | join cause | bind _ cause | connect _ cause | brokerUnreachable _ cause => some cause
  | _ => none

def fullMessage (e : Error) : String :=
  match e.cause? with
  | some cause => e.message ++ ": " ++ cause
  | none => e.message

/-- the errors that refuse what the caller asked for, in contrast to failures of a run -/
def isInvalidInput : Error → Bool
  | invalidUsers _ | invalidCycles _ | invalidAgents | planOverflow | unknownScenario _
  | unknownStream _ _ | invalidStreamOption _ _ _ _ | invalidEndpoint _ => true
  | _ => false

def isFatal : Error → Bool
  | clockOverflow | capacityOverflow => true
  | _ => false

end Error

end LoadTest
