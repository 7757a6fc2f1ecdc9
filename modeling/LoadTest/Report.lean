import LoadTest.Coordinator
import LoadTest.Plan
import LoadTest.Sink.Summary

/-!
# Reports
-/

namespace LoadTest

inductive Topology where
  | local
  | distributed
deriving DecidableEq, Repr

def Topology.name : Topology → String
  | .local => "local"
  | .distributed => "distributed"

structure Header where
  scenario : String
  plan : Plan
  topology : Topology
  expectedTotal : Nat

structure Gathered where
  workers : List String
  tally : Coordinator.Tally
deriving DecidableEq, Repr

structure Report where
  summary : Summary
  gathered : Option Gathered := none

def Coordinator.Report.toReport (r : Coordinator.Report) : LoadTest.Report :=
  { summary := r.summary, gathered := some ⟨r.workers, r.tally⟩ }

/-! ## exit codes -/

inductive ExitCode where
  | success
  | problemsRecorded
  | invalidInput
  | runtimeError
deriving DecidableEq, Repr

namespace ExitCode

def code : ExitCode → Nat
  | success => 0
  | problemsRecorded => 10
  | invalidInput => 30
  | runtimeError => 40

def ofSummary (s : Summary) : ExitCode := if s.hasProblems then problemsRecorded else success

def ofError (e : Error) : ExitCode := if e.isInvalidInput then invalidInput else runtimeError

end ExitCode

end LoadTest
