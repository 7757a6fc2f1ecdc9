import LoadTest.Json.Printer
import LoadTest.Report

/-!
# Reports for programs
-/

namespace LoadTest

def optionalJson {α : Type} (write : α → Json) : Option α → Json
  | some x => write x
  | none => .null

def Header.members (h : Header) : List (String × Json) :=
  [("kind", .string "summary"), ("scenario", .string h.scenario),
    ("topology", .string h.topology.name), ("users", .string h.plan.usersSpec),
    ("cycles", .string h.plan.cyclesSpec),
    ("agents", optionalJson (fun (n : UInt64) => .natural n.toNat) h.plan.agents),
    ("expected_total", .natural h.expectedTotal)]

def Summary.members (s : Summary) : List (String × Json) :=
  [("duration_secs", .natural s.durationSecs), ("tests_total", .natural s.testsTotal),
    ("tests_finished", .natural s.testsFinished), ("success_total", .natural s.successTotal),
    ("failures_total", .natural s.failuresTotal), ("errors_total", .natural s.errorsTotal),
    ("hits_total", .natural s.hitsTotal), ("urls", .array (s.urls.map Json.string)),
    ("tests_per_sec", .float s.testsPerSec), ("requests_per_sec", .float s.requestsPerSec),
    ("average_request_time_secs", .float s.averageRequestTimeSecs),
    ("hits_success_rate", .float s.hitsSuccessRate),
    ("test_success_rate", optionalJson .float s.testSuccessRate),
    ("average_test_duration_secs", optionalJson .float s.averageTestDurationSecs),
    ("request_time_p50_ms", optionalJson .float s.requestTimeP50Ms),
    ("request_time_p90_ms", optionalJson .float s.requestTimeP90Ms),
    ("request_time_p99_ms", optionalJson .float s.requestTimeP99Ms),
    ("sockets_open", .int s.socketsOpen),
    ("socket_bytes_received", .natural s.socketBytesReceived)]

def Gathered.toJson (g : Gathered) : Json :=
  .record [("workers", .array (g.workers.map Json.string)), ("received", .natural g.tally.received),
    ("completed", .natural g.tally.completed), ("dropped", .natural g.tally.dropped)]

def Report.toJson (h : Header) (r : Report) : Json :=
  .record (h.members ++ r.summary.members ++
    (r.gathered.map fun g => ("distributed", g.toJson)).toList)

end LoadTest
