import LoadTest.Proofs.Sink.Workers

/-!
# A filter selects events

A question with a filter is answered by what a fresh sink holds that takes in only the events the
filter lets pass, each at the time it had.

* `Event.isOfTest`, `Event.isOfHit`   the events that a filter lets pass
* `Sink.buckets_filter`       events are selected by their keys: the buckets with these keys remain
* `Sink.tests_commitAll`      the tests that are asked for
* `Sink.hitsOf_commitAll`     the hits that are asked for
* `Sink.filtered_queries`     every question with a filter
-/

namespace LoadTest

open History (keys forKey bucket)

/-! ## events that a filter lets pass -/

namespace Event

def test? : Event → Option String
  | startTest test _ _ | stopTest test _ _ | addSuccess test _ _ => some test
  | addError test _ _ _ | addFailure test _ _ _ => some test
  | _ => none

/-- An event of a test with this name and this cycle size; a filter that is absent lets every one
pass. -/
def isOfTest (test : Option String) (cycle : Option UInt64) (e : Event) : Bool :=
  (e.test?.any fun name => test.all (name = ·)) &&
    e.status?.any fun status => cycle.all (status.currentCycle = ·)

/-- a hit of this url at this cycle size -/
def isOfHit (url : Option String) (cycle : Option UInt64) (e : Event) : Bool :=
  e.hit?.any fun hit => url.all (hit.url = ·) && cycle.all (hit.status.currentCycle = ·)

theorem isOfTest_eq (test : Option String) (cycle : Option UInt64) (e : Event) :
    e.isOfTest test cycle =
      e.key?.any fun key => test.all (key.test = ·) && cycle.all (key.cycle = ·) := by
  cases e <;> rfl

end Event

/-! ## buckets -/

namespace History
variable {selects : BucketKey → Bool}

/-- what is read off the selected entries is what is selected of all that is read -/
theorem filterMap_filter_any {α β : Type} (f : α → Option β) (p : β → Bool) (l : List α) :
    (l.filter fun a => (f a).any p).filterMap f = (l.filterMap f).filter p := by
  induction l with
  | nil => rfl
  | cons a l ih =>
    rw [List.filter_cons]
    cases ha : f a with
    | none =>
      rw [List.filterMap_cons_none ha]
      exact ih
    | some b =>
      rw [List.filterMap_cons_some ha, List.filter_cons]
      show (if p b = true then _ else _ : List α).filterMap f = _
      cases hb : p b with
      | true =>
        rw [if_pos rfl, if_pos rfl, List.filterMap_cons_some ha, ih]
      | false =>
        rw [if_neg Bool.false_ne_true, if_neg Bool.false_ne_true]
        exact ih

theorem keys_filter (h : History) (selects : BucketKey → Bool) :
    keys (h.filter fun te => te.2.key?.any selects) = (keys h).filter selects := by
  rw [keys, filterMap_filter_any, filter_eraseDups]
  rfl

theorem forKey_filter (h : History) {key : BucketKey} (hkey : selects key = true) :
    forKey (h.filter fun te => te.2.key?.any selects) key = forKey h key := by
  rw [forKey, List.filter_filter]
  refine List.filter_congr fun te _ => ?_
  rw [Bool.and_eq_left_iff_imp]
  intro hte
  rw [of_decide_eq_true hte]
  exact hkey

theorem bucket_filter (h : History) {key : BucketKey} (hkey : selects key = true) :
    bucket (h.filter fun te => te.2.key?.any selects) key = bucket h key := by
  simp only [bucket, opening?, forKey_filter h hkey]

end History

namespace Sink

/-- Where events are selected by their keys, the buckets with these keys remain as they are. -/
theorem buckets_filter (h : History) (selects : BucketKey → Bool) :
    (empty.commitAll (h.filter fun te => te.2.key?.any selects)).buckets.toList =
      (empty.commitAll h).buckets.toList.filter fun b => selects b.key := by
  rw [(groups_commitAll _).buckets_eq, (groups_commitAll h).buckets_eq, History.keys_filter,
    List.filter_map]
  refine List.map_congr_left fun key hkey => ?_
  exact History.bucket_filter h (List.mem_filter.1 hkey).2

/-- **The tests that are asked for** are all tests of a sink that takes in only their events. -/
theorem tests_commitAll (h : History) (test : Option String) (cycle : Option UInt64) :
    (empty.commitAll h).tests test cycle =
      (empty.commitAll (h.filter fun te => te.2.isOfTest test cycle)).tests none none := by
  have hevents : (h.filter fun te => te.2.isOfTest test cycle) =
      h.filter fun te =>
        te.2.key?.any fun key => test.all (key.test = ·) && cycle.all (key.cycle = ·) :=
    List.filter_congr fun te _ => te.2.isOfTest_eq test cycle
  rw [tests_all, hevents, buckets_filter]
  rfl

/-! ## hits -/

theorem hitsOf_all (s : Sink) : s.hitsOf none none = s.hits.toList :=
  List.filter_eq_self.2 fun _ _ => rfl

/-- **The hits that are asked for** are all hits of a sink that takes in only these. -/
theorem hitsOf_commitAll (h : History) (url : Option String) (cycle : Option UInt64) :
    (empty.commitAll h).hitsOf url cycle =
      (empty.commitAll (h.filter fun te => te.2.isOfHit url cycle)).hitsOf none none := by
  have hzero : empty.hits.toList = [] := rfl
  rw [hitsOf_all, hitsOf, hits_commitAll, hits_commitAll, hzero, List.nil_append, List.nil_append]
  exact (History.filterMap_filter_any (fun te => te.2.hit?) _ h).symm

/-- **A filter selects events.** What a question with a filter finds, counts or averages is what the
same question finds, counts or averages without one, of a sink that took in only the events the
filter lets pass, at the times they had. -/
theorem filtered_queries (h : History) :
    (∀ (test : Option String) (cycle : Option UInt64),
      let s := empty.commitAll h
      let part := empty.commitAll (h.filter fun te => te.2.isOfTest test cycle)
      s.tests test cycle = part.tests none none ∧
      s.successTotal test cycle = part.successTotal none none ∧
      s.failuresTotal test cycle = part.failuresTotal none none ∧
      s.errorsTotal test cycle = part.errorsTotal none none ∧
      s.averageTestDuration test cycle = part.averageTestDuration none none ∧
      s.testSuccessRate test cycle = part.testSuccessRate none none) ∧
    ∀ (url : Option String) (cycle : Option UInt64),
      let s := empty.commitAll h
      let part := empty.commitAll (h.filter fun te => te.2.isOfHit url cycle)
      s.hitsOf url cycle = part.hitsOf none none ∧
      s.averageRequestTime url cycle = part.averageRequestTime none none ∧
      s.hitsSuccessRate url cycle = part.hitsSuccessRate none none ∧
      ∀ q : Float,
        s.percentileMicros url cycle q = part.percentileMicros none none q ∧
        s.percentileMillis url cycle q = part.percentileMillis none none q := by
  constructor
  · intro test cycle s part
    have htests : s.tests test cycle = part.tests none none := tests_commitAll h test cycle
    refine ⟨htests, ?_, ?_, ?_, ?_, ?_⟩
    · rw [successTotal, successTotal, htests]
    · rw [failuresTotal, failuresTotal, htests]
    · rw [errorsTotal, errorsTotal, htests]
    · rw [averageTestDuration, averageTestDuration, htests]
    · rw [testSuccessRate, testSuccessRate, htests]
  · intro url cycle s part
    have hhits : s.hitsOf url cycle = part.hitsOf none none := hitsOf_commitAll h url cycle
    have hmicros : ∀ q, s.percentileMicros url cycle q = part.percentileMicros none none q := by
      intro q
      rw [percentileMicros, percentileMicros, histogram, histogram, hhits]
    refine ⟨hhits, ?_, ?_, fun q => ⟨hmicros q, ?_⟩⟩
    · rw [averageRequestTime, averageRequestTime, hhits]
    · rw [hitsSuccessRate, hitsSuccessRate, hhits]
    · rw [percentileMillis, percentileMillis, hmicros q]

end Sink

end LoadTest
