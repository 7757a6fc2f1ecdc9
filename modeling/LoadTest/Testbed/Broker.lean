import LoadTest.Dispatch.Message
import LoadTest.Text.Blank
import LoadTest.Text.Lines

/-!
# A broker for trials

It reads one request from each connection and either rejects it or starts as many agent processes as
the plan asks for.
-/

namespace LoadTest.Testbed

open Dispatch (Request Reply)

inductive BrokerMode where
  | spawn (program : String)
  | reject (reason : String)
deriving DecidableEq, Repr

structure Agent where
  worker : String
  arguments : List String
deriving DecidableEq, Repr

/-- the requests so far and the agents that were started for them, in order -/
structure TestBroker where
  mode : BrokerMode
  requests : List Request := []
  agents : List Agent := []
deriving DecidableEq, Repr

def workerName (n : Nat) : String := "agent-" ++ Text.decimal n

def agentArguments (r : Request) (worker : String) : List String :=
  [r.scenario, "-u", r.plan.usersSpec, "-c", r.plan.cyclesSpec, "--stream", "remote",
    "--stream-remote-endpoint", r.endpoint, "--stream-remote-connect-timeout", "10s",
    "--worker-id", worker]

/-- How the system starts a program: not at all, for a reason. -/
abbrev Launcher := String → List String → Option String

/-- no argument of a process can hold a NUL -/
def holdsNul (arguments : List String) : Bool := arguments.any fun a => '\x00' ∈ a.toList

def refusal? (launch : Launcher) (program : String) (arguments : List String) : Option String :=
  if holdsNul (program :: arguments) then some "nul byte found in provided data"
  else launch program arguments

/-- starts `count` agents from number `n` on and stops at the first one that is not started -/
def start (launch : Launcher) (program : String) (r : Request) (n : Nat) :
    Nat → List Agent × Option String
  | 0 => ([], none)
  | count + 1 =>
    let worker := workerName n
    let arguments := agentArguments r worker
    match refusal? launch program arguments with
    | some cause => ([], some cause)
    | none =>
      let (agents, cause) := start launch program r (n + 1) count
      (⟨worker, arguments⟩ :: agents, cause)

namespace TestBroker

/-- A request that could be read is kept, whatever the answer is. -/
def dispatch (b : TestBroker) (launch : Launcher) (r : Request) : TestBroker × Reply :=
  let b := { b with requests := b.requests ++ [r] }
  match b.mode with
  | .reject reason => (b, .rejected reason)
  | .spawn program =>
    match start launch program r 1 r.plan.agentCount with
    | (agents, none) =>
      ({ b with agents := b.agents ++ agents }, .dispatched (agents.map Agent.worker))
    | (agents, some cause) =>
      ({ b with agents := b.agents ++ agents },
        .rejected ("failed to spawn " ++ program ++ ": " ++ cause))

/-- how the reason of a rejection begins when no request could be read -/
def unreadable : String := "invalid request: "

/-- The first line of a connection is the request; blanks around it do not matter. -/
def serve (b : TestBroker) (launch : Launcher) (text : String) : TestBroker × Reply :=
  let line := Text.trim (Text.firstLine '\n' text.toList)
  match Request.parse? line with
  | some r => b.dispatch launch r
  | none => (b, .rejected (unreadable ++ String.ofList line))

end TestBroker

end LoadTest.Testbed
