import LoadTest.Error
import LoadTest.Sink
import LoadTest.Sink.Histogram
import LoadTest.Text.Sorted

/-!
# Questions to the sink

Questions about tests may ask for one test name and one cycle size, questions about hits for one
url and one cycle size. Means are taken over doubles from left to right.
-/

namespace LoadTest.Sink

/-! ## tests -/

def tests (s : Sink) (test : Option String) (cycle : Option UInt64) : List Bucket :=
  s.buckets.toList.filter fun b => b.isSelected test cycle

def testCount (s : Sink) : Nat := s.buckets.size

def finishedCount (s : Sink) : Nat := (s.buckets.toList.filter Bucket.isFinished).length

def addUp (counts : List Nat) : Nat := counts.foldr (· + ·) 0

def successTotal (s : Sink) (test : Option String) (cycle : Option UInt64) : Nat :=
  addUp ((s.tests test cycle).map Bucket.success)

def failuresTotal (s : Sink) (test : Option String) (cycle : Option UInt64) : Nat :=
  addUp ((s.tests test cycle).map fun b => b.failures.size)

def errorsTotal (s : Sink) (test : Option String) (cycle : Option UInt64) : Nat :=
  addUp ((s.tests test cycle).map fun b => b.errors.size)

def failures (s : Sink) : List String := s.buckets.toList.flatMap fun b => b.failures.toList

def errors (s : Sink) : List String := s.buckets.toList.flatMap fun b => b.errors.toList

/-! ## hits -/

def hitSelected (h : Hit) (url : Option String) (cycle : Option UInt64) : Bool :=
  url.all (h.url = ·) && cycle.all (h.status.currentCycle = ·)

def hitsOf (s : Sink) (url : Option String) (cycle : Option UInt64) : List Hit :=
  s.hits.toList.filter fun h => hitSelected h url cycle

def hitCount (s : Sink) : Nat := s.hits.size

def urls (s : Sink) : List String := Text.sortedTexts (s.hits.toList.map Hit.url)

/-! ## means -/

def ofCount (n : Nat) : Float := (UInt64.ofNat n).toFloat

/-- the sum from left to right over the number of values; there is none of no values -/
def mean (values : List Float) : Option Float :=
  if values = [] then none else some (values.foldl (· + ·) 0.0 / ofCount values.length)

def averageRequestTime (s : Sink) (url : Option String) (cycle : Option UInt64) : Float :=
  (mean ((s.hitsOf url cycle).map fun h => h.elapsed.seconds)).getD 0.0

def hitsSuccessRate (s : Sink) (url : Option String) (cycle : Option UInt64) : Float :=
  (mean ((s.hitsOf url cycle).map fun h => if h.isSuccess then 1.0 else 0.0)).getD 0.0

def averageTestDuration (s : Sink) (test : Option String) (cycle : Option UInt64) : Option Float :=
  mean ((s.tests test cycle).filterMap fun b => b.duration?.map Duration.seconds)

def testSuccessRate (s : Sink) (test : Option String) (cycle : Option UInt64) : Option Float :=
  mean ((s.tests test cycle).filterMap Bucket.successRate?)

/-! ## percentiles -/

/-- The time of a hit in whole microseconds: at least one, and counted in 64 bits. -/
def hitMicros (h : Hit) : Nat := max 1 (min h.elapsed.micros (UInt64.size - 1))

def histogram (s : Sink) (url : Option String) (cycle : Option UInt64) : Histogram :=
  .ofValues ((s.hitsOf url cycle).map hitMicros)

def percentileMicros (s : Sink) (url : Option String) (cycle : Option UInt64) (q : Float) :
    Option Nat :=
  (s.histogram url cycle).atQuantile q

def percentileMillis (s : Sink) (url : Option String) (cycle : Option UInt64) (q : Float) :
    Option Float :=
  (s.percentileMicros url cycle q).map fun us => ofCount us / 1000.0

/-! ## the run clock -/

/-- From the last start of the run to its last stop, or to now while it has none. -/
def elapsed (s : Sink) (now : Instant) : Except Error Duration :=
  match s.started with
  | none => .error .runNotStarted
  | some start => .ok (.between start (s.stopped.getD now))

def durationSeconds (s : Sink) (now : Instant) : Except Error Nat :=
  (s.elapsed now).map Duration.wholeSeconds

/-- nothing is counted per second of a run that took no time -/
def perSecond (count : Nat) (d : Duration) : Float :=
  if 0.0 < d.seconds then ofCount count / d.seconds else 0.0

def testsPerSecond (s : Sink) (now : Instant) : Except Error Float :=
  (s.elapsed now).map (perSecond s.testCount)

def requestsPerSecond (s : Sink) (now : Instant) : Except Error Float :=
  (s.elapsed now).map (perSecond s.hitCount)

/-- the size of the sink and of what listens to it, for a log -/
def describe (s : Sink) (observers : Nat) : String :=
  "ResultSink \x7b tests: " ++ Text.decimal s.testCount ++ ", hits: " ++ Text.decimal s.hitCount ++
    ", observers: " ++ Text.decimal observers ++ " \x7d"

end LoadTest.Sink
