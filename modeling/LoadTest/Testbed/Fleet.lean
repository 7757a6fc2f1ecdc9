import LoadTest.Cli.Program
import LoadTest.Coordinator.Connection
import LoadTest.Testbed.Broker

/-!
# Agents for trials

The broker for trials starts the program itself as an agent, once for each agent of a plan.
-/

namespace LoadTest.Testbed

open Cli (World Course)

/-- An agent can send its results, but it has nobody to send requests to. -/
def agentWorld : World := { World.offline (fun _ => none) .still with link := fun _ => .accepted }

namespace Agent

def course (a : Agent) : Option Course :=
  (Cli.Arguments.read agentWorld.outside.setting a.arguments).toOption.map (Cli.run agentWorld)

def exit (a : Agent) : Nat := (Cli.program agentWorld a.arguments).exit

def sent (a : Agent) : List UInt8 :=
  match a.course.bind Course.finished? with
  | some ⟨_, _, _, _, .remote r, _⟩ => r.arrived
  | _ => []

def lines (a : Agent) : List String := Coordinator.decodeLines a.sent

end Agent

def fleetBroker : TestBroker := { mode := .spawn Cli.programName }

def startsAll : Launcher := fun _ _ => none

def agentsFor (r : Dispatch.Request) : List Agent := (fleetBroker.dispatch startsAll r).1.agents

def replyFor (r : Dispatch.Request) : Dispatch.Reply := (fleetBroker.dispatch startsAll r).2

/-- At `broker` a broker answers and its agents send one after the other; every other port of this
machine can be opened. -/
def fleetWorld (broker : Endpoint) (inUse : String) (port : UInt16) : World :=
  { World.offline (fun _ => none) .still with
    port := fun e => if e = broker then .error inUse else .ok port
    broker := fun e r => if e = broker then .answers (replyFor r).line else .refuses World.refusal
    arrivals := fun r => (agentsFor r).flatMap fun a => a.lines.map fun l => (0, l) }

end LoadTest.Testbed
