import LoadTest.Decimal.Places
import LoadTest.Report

/-!
# Reports for people
-/

namespace LoadTest

open Decimal (fixed)

namespace Quantity

def isFinite (x : Float) : Bool := x.isFinite

def kibi : Nat := 1024

def mebi : Nat := 1024 * kibi

def gibi : Nat := 1024 * mebi

/-- The largest binary unit that leaves a whole part, with two places. -/
def bytes (n : Nat) : String :=
  let inUnit (unit : Nat) (name : String) := fixed 2 (Sink.ofCount n / Sink.ofCount unit) ++ name
  if gibi ≤ n then inUnit gibi "GiB"
  else if mebi ≤ n then inUnit mebi "MiB"
  else if kibi ≤ n then inUnit kibi "KiB"
  else Text.decimal n ++ "B"

def rate (x : Float) : String := if isFinite x then fixed 1 x else "0"

def percent (ratio : Float) : String :=
  if isFinite ratio then fixed 1 (ratio * 100.0) ++ "%" else "n/a"

/-- less than a second is given in milliseconds -/
def seconds (x : Float) : String :=
  if isFinite x then
    if x < 1.0 then fixed 2 (x * 1000.0) ++ "ms" else fixed 3 x ++ "s"
  else "n/a"

def millis? : Option Float → String
  | some x => if isFinite x then fixed 2 x ++ "ms" else "n/a"
  | none => "n/a"

end Quantity

open Quantity Text

/-- The number of agents is given for distributed runs. -/
def Header.toText (h : Header) : String :=
  let agents :=
    match h.topology, h.plan.agents with
    | .distributed, some n => " agents=" ++ decimal n.toNat
    | _, _ => ""
  "scenario: " ++ h.scenario ++ "\n" ++
    "users=" ++ h.plan.usersSpec ++ " cycles=" ++ h.plan.cyclesSpec ++ agents ++
    " expected=" ++ decimal h.expectedTotal ++ "\n\n"

namespace Summary

def testLines (s : Summary) : List String :=
  ["  tests: " ++ decimal s.testsFinished ++ " finished of " ++ decimal s.testsTotal ++
      " started (" ++ rate s.testsPerSec ++ "/s)",
    "  outcomes: success=" ++ decimal s.successTotal ++ " failures=" ++ decimal s.failuresTotal ++
      " errors=" ++ decimal s.errorsTotal] ++
    (s.testSuccessRate.map fun x => "  success rate: " ++ percent x).toList ++
    (s.averageTestDurationSecs.map fun x => "  test duration: avg=" ++ seconds x).toList ++
    ["  duration: " ++ decimal s.durationSecs ++ "s"]

/-- nothing is said about requests when there were none -/
def hitLines (s : Summary) : List String :=
  if s.hitsTotal = 0 then []
  else
    ["  hits: " ++ decimal s.hitsTotal ++ " (" ++ rate s.requestsPerSec ++ "/s, " ++
        percent s.hitsSuccessRate ++ " ok)",
      "  latency: avg=" ++ seconds s.averageRequestTimeSecs ++ " p50=" ++
        millis? s.requestTimeP50Ms ++ " p90=" ++ millis? s.requestTimeP90Ms ++ " p99=" ++
        millis? s.requestTimeP99Ms,
      "  received: " ++ bytes s.socketBytesReceived ++ " over " ++ decimal s.urls.length ++
        " url(s)"]

end Summary

def Gathered.line (g : Gathered) : String :=
  "  agents: " ++ decimal g.workers.length ++ " [" ++ ", ".intercalate g.workers ++ "] events=" ++
    decimal g.tally.received ++ " dropped=" ++ decimal g.tally.dropped

def Report.toText (r : Report) : String :=
  let lines := "summary" :: r.summary.testLines ++ r.summary.hitLines ++
    (r.gathered.map Gathered.line).toList
  String.join (lines.map (· ++ "\n"))

end LoadTest
