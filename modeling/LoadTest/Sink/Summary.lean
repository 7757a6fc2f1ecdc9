import LoadTest.Sink.Query

/-!
# Run summaries
-/

namespace LoadTest

structure Summary where
  durationSecs : Nat
  testsTotal : Nat
  testsFinished : Nat
  successTotal : Nat
  failuresTotal : Nat
  errorsTotal : Nat
  hitsTotal : Nat
  urls : List String
  testsPerSec : Float
  requestsPerSec : Float
  averageRequestTimeSecs : Float
  hitsSuccessRate : Float
  testSuccessRate : Option Float
  averageTestDurationSecs : Option Float
  requestTimeP50Ms : Option Float
  requestTimeP90Ms : Option Float
  requestTimeP99Ms : Option Float
  socketsOpen : Int
  socketBytesReceived : Nat

def Summary.hasProblems (s : Summary) : Bool := 0 < s.failuresTotal || 0 < s.errorsTotal

/-- a run that has not been started has taken no time -/
def Sink.summary (s : Sink) (now : Instant) : Summary :=
  let elapsed := (s.elapsed now).toOption.getD .zero
  { durationSecs := elapsed.wholeSeconds
    testsTotal := s.testCount
    testsFinished := s.finishedCount
    successTotal := s.successTotal none none
    failuresTotal := s.failuresTotal none none
    errorsTotal := s.errorsTotal none none
    hitsTotal := s.hitCount
    urls := s.urls
    testsPerSec := perSecond s.testCount elapsed
    requestsPerSec := perSecond s.hitCount elapsed
    averageRequestTimeSecs := s.averageRequestTime none none
    hitsSuccessRate := s.hitsSuccessRate none none
    testSuccessRate := s.testSuccessRate none none
    averageTestDurationSecs := s.averageTestDuration none none
    requestTimeP50Ms := s.percentileMillis none none 0.50
    requestTimeP90Ms := s.percentileMillis none none 0.90
    requestTimeP99Ms := s.percentileMillis none none 0.99
    socketsOpen := s.sockets
    socketBytesReceived := s.bytesReceived }

end LoadTest
