import LoadTest.Event

/-!
# Buckets

A bucket gathers the outcomes of one test at one tier and cycle size, as one worker reports them.
-/

namespace LoadTest

structure BucketKey where
  test : String
  user : UInt64
  cycle : UInt64
  worker : Option String
deriving DecidableEq, Repr, Inhabited, Hashable

def BucketKey.ofStatus (test : String) (status : Status) (worker : Option String) : BucketKey :=
  ⟨test, status.currentUser, status.currentCycle, worker⟩

/-- A bucket starts with the first event of its key and ends with the last end of an invocation. -/
structure Bucket where
  key : BucketKey
  start : Instant
  stop : Option Instant := none
  success : Nat := 0
  failures : Array String := #[]
  errors : Array String := #[]
deriving DecidableEq, Repr, Inhabited

namespace Bucket

def isFinished (b : Bucket) : Bool := b.stop.isSome

def duration? (b : Bucket) : Option Duration := b.stop.map (Duration.between b.start)

def outcomes (b : Bucket) : Nat := b.success + b.failures.size + b.errors.size

def successRate? (b : Bucket) : Option Float :=
  if b.outcomes = 0 then none
  else some ((UInt64.ofNat b.success).toFloat / (UInt64.ofNat b.outcomes).toFloat)

/-- a filter that is absent lets everything pass -/
def isSelected (b : Bucket) (test : Option String) (cycle : Option UInt64) : Bool :=
  test.all (b.key.test = ·) && cycle.all (b.key.cycle = ·)

end Bucket

end LoadTest
