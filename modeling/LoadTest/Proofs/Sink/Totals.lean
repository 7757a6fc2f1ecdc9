import Mathlib.Algebra.BigOperators.Group.Finset.Basic
import Mathlib.Algebra.GroupWithZero.Nat
import LoadTest.Proofs.Sink.Grouping
import LoadTest.Sink.Query

/-!
# What a sink counts in all

Every event of a bucket has one key, so what is counted bucket by bucket adds up to what is counted
over the whole history.

* `History.sum_countP_forKey`   counts for each key add up
* `Sink.outcomes_commitAll`     the outcomes that a sink counts are those of its history
-/

namespace LoadTest

open History (keys forKey bucket)

theorem Event.key?_of_isOutcome {e : Event} (he : e.isOutcome = true) : e.key?.isSome = true := by
  cases e <;> first | rfl | cases he

theorem Event.indicator_isOutcome (e : Event) :
    ((if e.isSuccess then 1 else 0) + (if e.failure?.isSome then 1 else 0) +
      if e.error?.isSome then 1 else 0) = if e.isOutcome then 1 else 0 := by
  cases e <;> rfl

namespace History

theorem sum_countP_forKey (h : History) {f : Event → Bool}
    (hf : ∀ e : Event, f e = true → e.key?.isSome = true) :
    ((keys h).map fun key => (forKey h key).countP fun te => f te.2).sum =
      h.countP fun te => f te.2 := by
  -- the keys of the events that are counted, each as often as it is counted
  let counted := (h.filter fun te => f te.2).filterMap fun te => te.2.key?
  have hmem : ∀ key ∈ counted, key ∈ (keys h).toFinset := by
    intro key hkey
    obtain ⟨te, hte, hkey⟩ := List.mem_filterMap.1 hkey
    exact List.mem_toFinset.2 (mem_keys.2 ⟨te, (List.mem_filter.1 hte).1, hkey⟩)
  have hcount : ∀ key, (forKey h key).countP (fun te => f te.2) = counted.count key := by
    intro key
    rw [List.count_filterMap, List.countP_filter, forKey, List.countP_filter]
    refine List.countP_congr fun te _ => ?_
    simp [and_comm]
  have hlength : counted.length = h.countP fun te => f te.2 := by
    rw [List.length_filterMap_eq_countP, List.countP_filter]
    refine List.countP_congr fun te _ => ?_
    rw [Bool.and_eq_true]
    exact and_iff_right_of_imp (hf te.2)
  have hsum := Multiset.sum_count_eq_card (m := (counted : Multiset BucketKey)) hmem
  rw [List.sum_toFinset _ (nodup_keys h)] at hsum
  simpa only [hcount, hlength, Multiset.coe_count, Multiset.coe_card] using hsum

/-- the outcomes of a bucket are those of its key -/
theorem outcomes_bucket (h : History) (key : BucketKey) :
    (bucket h key).outcomes = (forKey h key).countP fun te => te.2.isOutcome := by
  simp only [Bucket.outcomes, bucket, List.size_toArray, List.length_filterMap_eq_countP]
  induction forKey h key with
  | nil => rfl
  | cons te l ih =>
    have hone := te.2.indicator_isOutcome
    simp only [List.countP_cons]
    omega

end History

namespace Sink

theorem tests_all (s : Sink) : s.tests none none = s.buckets.toList :=
  List.filter_eq_self.2 fun _ _ => rfl

/-- **Every outcome is counted once.** -/
theorem outcomes_commitAll (h : History) :
    (empty.commitAll h).successTotal none none + (empty.commitAll h).failuresTotal none none +
      (empty.commitAll h).errorsTotal none none = h.countP fun te => te.2.isOutcome := by
  have hadd : ∀ bs : List Bucket, addUp (bs.map Bucket.success) +
      addUp (bs.map fun b => b.failures.size) + addUp (bs.map fun b => b.errors.size) =
        (bs.map Bucket.outcomes).sum := by
    intro bs
    induction bs with
    | nil => rfl
    | cons b bs ih =>
      rw [List.map_cons, List.map_cons, List.map_cons, List.map_cons, List.sum_cons, ← ih]
      simp only [addUp, List.foldr_cons, Bucket.outcomes]
      omega
  rw [successTotal, failuresTotal, errorsTotal, tests_all, hadd, (groups_commitAll h).buckets_eq,
    List.map_map, ← History.sum_countP_forKey h fun e => Event.key?_of_isOutcome]
  exact congrArg List.sum (List.map_congr_left fun key _ => History.outcomes_bucket h key)

end Sink

end LoadTest
