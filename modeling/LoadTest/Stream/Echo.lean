import LoadTest.Event

/-!
# The console echo

The echo shows how far a run has come. What it has counted is all of its state: the bar advances
once for every invocation that ends.
-/

namespace LoadTest

structure Echo where
  total : Option Nat
  position : Nat := 0
deriving DecidableEq, Repr, Inhabited

namespace Echo

def push (s : Echo) (e : Event) : Echo :=
  if e.isStopTest then { s with position := s.position + 1 } else s

def pushAll (s : Echo) (es : List Event) : Echo := es.foldl push s

def completed (s : Echo) : Nat := s.position

def close (s : Echo) : Echo := { s with position := s.total.getD s.position }

theorem completed_push (s : Echo) (e : Event) :
    (s.push e).completed = s.completed + if e.isStopTest then 1 else 0 := by
  by_cases h : e.isStopTest <;> simp [push, completed, h]

end Echo

end LoadTest
