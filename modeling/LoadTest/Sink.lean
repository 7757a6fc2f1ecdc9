import Std.Data.HashMap
import LoadTest.Sink.Bucket

/-!
# The result sink

The sink takes in the events of a run and keeps what is needed to answer questions about it:
buckets in the order of their first events, hits in order, a gauge of open sockets, a count of
received bytes, and when the run started and stopped.

* `Sink`            the state
* `Sink.commit`     takes in one event at a time on the run clock
* `Sink.commitAll`  takes in a history
-/

namespace LoadTest

/-- `index` finds the position of a key's bucket. -/
structure Sink where
  buckets : Array Bucket := #[]
  index : Std.HashMap BucketKey Nat := {}
  hits : Array Hit := #[]
  sockets : Int := 0
  bytesReceived : Nat := 0
  started : Option Instant := none
  stopped : Option Instant := none
deriving Inhabited

/-- events with the clock at their commits -/
abbrev History := List (Tick × Event)

namespace Sink

def empty : Sink := {}

/-- the largest byte count; it is not exceeded -/
def byteLimit : Nat := UInt64.size - 1

/-- changes the bucket of a key, which is created if it is not there -/
def update (s : Sink) (start : Instant) (key : BucketKey) (f : Bucket → Bucket) : Sink :=
  match s.index[key]? with
  | some i => { s with buckets := s.buckets.modify i f }
  | none =>
    { s with
      buckets := s.buckets.push (f { key, start })
      index := s.index.insert key s.buckets.size }

section
variable (s : Sink) (start : Instant) (key : BucketKey) (f : Bucket → Bucket)

@[simp] theorem hits_update : (s.update start key f).hits = s.hits := by
  unfold update
  split <;> rfl

@[simp] theorem sockets_update : (s.update start key f).sockets = s.sockets := by
  unfold update
  split <;> rfl

@[simp] theorem bytesReceived_update : (s.update start key f).bytesReceived = s.bytesReceived := by
  unfold update
  split <;> rfl

@[simp] theorem started_update : (s.update start key f).started = s.started := by
  unfold update
  split <;> rfl

@[simp] theorem stopped_update : (s.update start key f).stopped = s.stopped := by
  unfold update
  split <;> rfl

end

/-- An end is read off the clock before its bucket is looked up, so a bucket that is created for it
starts at the second reading. -/
def commit (s : Sink) (t : Tick) : Event → Sink
  | .startTestRun _ => { s with started := some t.now }
  | .stopTestRun _ => { s with stopped := some t.now }
  | .startTest test status w => s.update t.now (.ofStatus test status w) id
  | .stopTest test status w =>
    s.update t.again (.ofStatus test status w) fun b => { b with stop := some t.now }
  | .addError test info status w =>
    s.update t.now (.ofStatus test status w) fun b => { b with errors := b.errors.push info }
  | .addFailure test info status w =>
    s.update t.now (.ofStatus test status w) fun b => { b with failures := b.failures.push info }
  | .addSuccess test status w =>
    s.update t.now (.ofStatus test status w) fun b => { b with success := b.success + 1 }
  | .addHit hit => { s with hits := s.hits.push hit }
  | .socketOpen _ _ => { s with sockets := s.sockets + 1 }
  | .socketClose _ _ => { s with sockets := s.sockets - 1 }
  | .socketMessage _ size _ =>
    { s with bytesReceived := min byteLimit (s.bytesReceived + size.toNat) }

def commitAll (s : Sink) (history : History) : Sink :=
  history.foldl (fun s te => s.commit te.1 te.2) s

theorem commitAll_nil (s : Sink) : s.commitAll [] = s := rfl

theorem commitAll_cons (s : Sink) (te : Tick × Event) (history : History) :
    s.commitAll (te :: history) = (s.commit te.1 te.2).commitAll history := rfl

theorem commitAll_append (s : Sink) (a b : History) :
    s.commitAll (a ++ b) = (s.commitAll a).commitAll b := by
  simp [commitAll]

end Sink

end LoadTest
