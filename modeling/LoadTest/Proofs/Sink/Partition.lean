import LoadTest.Proofs.Sink.Selection

/-!
# Outcomes are partitioned by test and by cycle size

The outcomes that a sink counts are those of its history, also where a filter asks for some of them,
so they add up over the names of the tests and over the cycle sizes.

* `History.cycles`, `History.tests`    the distinct cycle sizes and names of tests
* `History.countOf`                    how many events of a kind a filter lets pass
* `History.sum_cycles`, `History.sum_tests`   what is counted is partitioned
* `Sink.Counts`, `Sink.counts_addUp`   a sink counts its history
* `Sink.length_messages`, `Sink.hasProblems_iff`   messages and problems
* `Sink.outcomes_partition`            all of it together
-/

namespace LoadTest

open History (keys forKey bucket)

/-! ## two filters -/

namespace Event

theorem isOfTest_cycle (test : Option String) (c : UInt64) (e : Event) :
    e.isOfTest test (some c) =
      (e.isOfTest test none && decide (e.status?.map Status.currentCycle = some c)) := by
  cases e <;> simp [isOfTest, test?, status?]

theorem isOfTest_test (t : String) (cycle : Option UInt64) (e : Event) :
    e.isOfTest (some t) cycle = (e.isOfTest none cycle && decide (e.test? = some t)) := by
  cases e <;> simp [isOfTest, test?, status?, Bool.and_comm]

theorem isSome_of_isOfTest {e : Event} {test : Option String} {cycle : Option UInt64}
    (h : e.isOfTest test cycle = true) : e.test?.isSome = true ∧ e.status?.isSome = true := by
  obtain ⟨htest, hstatus⟩ := Bool.and_eq_true_iff.1 h
  obtain ⟨name, hname, -⟩ := (Option.any_eq_true _ _).1 htest
  obtain ⟨status, hcycle, -⟩ := (Option.any_eq_true _ _).1 hstatus
  rw [hname, hcycle]
  exact ⟨rfl, rfl⟩

end Event

namespace History

def cycles (h : History) : List UInt64 :=
  (h.filterMap fun te => te.2.status?.map Status.currentCycle).eraseDups

def tests (h : History) : List String := (h.filterMap fun te => te.2.test?).eraseDups

/-- how many events of a kind a filter lets pass -/
def countOf (h : History) (k : EventKind) (test : Option String) (cycle : Option UInt64) : Nat :=
  h.countP fun te => te.2.kind = k && te.2.isOfTest test cycle

/-! ## partitions -/

/-- what is counted is counted once, for the value that it has -/
theorem sum_countP_values {α β : Type} [DecidableEq β] {value : α → Option β} {p : α → Bool}
    {l : List α} (hl : ∀ a ∈ l, p a = true → (value a).isSome = true) :
    ((l.filterMap value).eraseDups.map fun v =>
      l.countP fun a => p a && decide (value a = some v)).sum = l.countP p := by
  have hnodup : ((l.filterMap value).eraseDups.map some).Nodup :=
    (nodup_eraseDups _).map (Option.some_injective β)
  have hmem : ∀ a ∈ l.filter p, value a ∈ (l.filterMap value).eraseDups.map some := by
    intro a ha
    obtain ⟨ha, hpass⟩ := List.mem_filter.1 ha
    obtain ⟨v, hv⟩ := Option.isSome_iff_exists.1 (hl a ha hpass)
    exact List.mem_map.2 ⟨v, mem_eraseDups.2 (List.mem_filterMap.2 ⟨a, ha, hv⟩), hv.symm⟩
  have hlength : ∀ xs : List α, (xs.map fun _ => 1).sum = xs.length := fun xs => by simp
  have hsum := Sink.sum_groups hnodup value (fun _ => 1) hmem
  rw [hlength, ← List.countP_eq_length_filter, List.map_map] at hsum
  rw [hsum]
  refine congrArg List.sum (List.map_congr_left fun v _ => ?_)
  rw [Function.comp_apply, hlength, ← List.countP_eq_length_filter, List.countP_filter]
  exact List.countP_congr fun a _ => by rw [Bool.and_comm]

theorem sum_cycles (h : History) (k : EventKind) (test : Option String) :
    ((cycles h).map fun c => countOf h k test (some c)).sum = countOf h k test none := by
  have hcycle : ∀ c, countOf h k test (some c) = h.countP fun te =>
      (te.2.kind = k && te.2.isOfTest test none) &&
        decide (te.2.status?.map Status.currentCycle = some c) := by
    intro c
    refine List.countP_congr fun te _ => ?_
    rw [Event.isOfTest_cycle, Bool.and_assoc]
  simp only [hcycle]
  refine sum_countP_values fun te _ hcounted => ?_
  rw [Option.isSome_map]
  exact (Event.isSome_of_isOfTest (Bool.and_eq_true_iff.1 hcounted).2).2

theorem sum_tests (h : History) (k : EventKind) (cycle : Option UInt64) :
    ((tests h).map fun t => countOf h k (some t) cycle).sum = countOf h k none cycle := by
  have htest : ∀ t, countOf h k (some t) cycle = h.countP fun te =>
      (te.2.kind = k && te.2.isOfTest none cycle) && decide (te.2.test? = some t) := by
    intro t
    refine List.countP_congr fun te _ => ?_
    rw [Event.isOfTest_test, Bool.and_assoc]
  simp only [htest]
  refine sum_countP_values fun te _ hcounted => ?_
  exact (Event.isSome_of_isOfTest (Bool.and_eq_true_iff.1 hcounted).2).1

end History

/-! ## totals of a sink -/

namespace Sink

/-- a total of a sink is the number of outcomes of a kind that a filter lets pass -/
structure Counts (total : Sink → Option String → Option UInt64 → Nat) (k : EventKind) : Prop where
  isOutcome : ∀ e : Event, e.kind = k → e.isOutcome = true
  total_eq : ∀ (h : History) (test : Option String) (cycle : Option UInt64),
    total (empty.commitAll h) test cycle = History.countOf h k test cycle

/-- A sum over the tests that are asked for counts the history, if the bucket of each key counts the
events of this key. -/
theorem counts_addUp {g : Bucket → Nat} {k : EventKind}
    (hk : ∀ e : Event, e.kind = k → e.isOutcome = true)
    (hg : ∀ h key, g (bucket h key) = (forKey h key).countP fun te => te.2.kind = k) :
    Counts (fun s test cycle => addUp ((s.tests test cycle).map g)) k where
  isOutcome := hk
  total_eq := by
    intro h test cycle
    let part : History := h.filter fun te => te.2.isOfTest test cycle
    have hbuckets : ((empty.commitAll h).tests test cycle).map g =
        (keys part).map fun key => (forKey part key).countP fun te => te.2.kind = k := by
      rw [tests_commitAll, tests_all, (groups_commitAll part).buckets_eq, List.map_map]
      exact List.map_congr_left fun key _ => hg part key
    have hsum : ((keys part).map fun key =>
        (forKey part key).countP fun te => te.2.kind = k).sum =
          part.countP fun te => te.2.kind = k :=
      History.sum_countP_forKey part (f := fun e => e.kind = k)
        fun e he => Event.key?_of_isOutcome (hk e (of_decide_eq_true he))
    show addUp _ = _
    rw [hbuckets]
    exact hsum.trans List.countP_filter

theorem counts_successTotal : Counts successTotal .addSuccess :=
  counts_addUp (fun e he => by rw [Event.isOutcome, he]; rfl) fun _ _ => rfl

theorem counts_messages (messages : Bucket → Array String) {message? : Event → Option String}
    {k : EventKind} (hk : ∀ e : Event, e.kind = k → e.isOutcome = true)
    (hmessage : ∀ e, (message? e).isSome = decide (e.kind = k))
    (hbucket : ∀ h key,
      messages (bucket h key) = ((forKey h key).filterMap fun te => message? te.2).toArray) :
    Counts (fun s test cycle => addUp ((s.tests test cycle).map fun b => (messages b).size)) k := by
  refine counts_addUp hk fun h key => ?_
  rw [hbucket, List.size_toArray, List.length_filterMap_eq_countP]
  exact List.countP_congr fun te _ => by rw [hmessage]

theorem counts_failuresTotal : Counts failuresTotal .addFailure :=
  counts_messages Bucket.failures (fun e he => by rw [Event.isOutcome, he]; rfl)
    (fun e => by cases e <;> rfl) fun _ _ => rfl

theorem counts_errorsTotal : Counts errorsTotal .addError :=
  counts_messages Bucket.errors (fun e he => by rw [Event.isOutcome, he]; rfl)
    (fun e => by cases e <;> rfl) fun _ _ => rfl

namespace Counts
variable {total : Sink → Option String → Option UInt64 → Nat} {k : EventKind}
  (hcounts : Counts total k) (h : History)
include hcounts

theorem total_all : total (empty.commitAll h) none none = h.countP fun te => te.2.kind = k := by
  rw [hcounts.total_eq h]
  refine List.countP_congr fun te _ => ?_
  rw [Bool.and_eq_true]
  refine and_iff_left_of_imp fun hkind => ?_
  have houtcome := hcounts.isOutcome te.2 (of_decide_eq_true hkind)
  obtain ⟨key, hkey⟩ := Option.isSome_iff_exists.1 (Event.key?_of_isOutcome houtcome)
  rw [Event.isOfTest_eq, hkey]
  rfl

theorem sum_cycles (test : Option String) : total (empty.commitAll h) test none =
    ((History.cycles h).map fun c => total (empty.commitAll h) test (some c)).sum := by
  simp only [hcounts.total_eq h]
  exact (History.sum_cycles h k test).symm

theorem sum_tests (cycle : Option UInt64) : total (empty.commitAll h) none cycle =
    ((History.tests h).map fun t => total (empty.commitAll h) (some t) cycle).sum := by
  simp only [hcounts.total_eq h]
  exact (History.sum_tests h k cycle).symm

theorem le_length (test : Option String) (cycle : Option UInt64) :
    total (empty.commitAll h) test cycle ≤ h.length := by
  rw [hcounts.total_eq h]
  exact List.countP_le_length

end Counts

/-! ## messages and problems -/

theorem length_messages (s : Sink) (messages : Bucket → Array String) :
    (s.buckets.toList.flatMap fun b => (messages b).toList).length =
      addUp ((s.tests none none).map fun b => (messages b).size) := by
  rw [List.length_flatMap, tests_all]
  simp only [Array.length_toList]
  rfl

theorem length_failures (s : Sink) : s.failures.length = s.failuresTotal none none :=
  length_messages s Bucket.failures

theorem length_errors (s : Sink) : s.errors.length = s.errorsTotal none none :=
  length_messages s Bucket.errors

theorem hasProblems_iff (h : History) (now : Instant) :
    ((empty.commitAll h).summary now).hasProblems = true ↔
      ∃ te ∈ h, te.2.kind = .addFailure ∨ te.2.kind = .addError := by
  have hpos : ((empty.commitAll h).summary now).hasProblems = true ↔
      0 < (empty.commitAll h).failuresTotal none none ∨
        0 < (empty.commitAll h).errorsTotal none none := by
    rw [Summary.hasProblems, Bool.or_eq_true, decide_eq_true_eq, decide_eq_true_eq]
    rfl
  rw [hpos, counts_failuresTotal.total_all, counts_errorsTotal.total_all, List.countP_pos_iff,
    List.countP_pos_iff]
  simp only [decide_eq_true_eq, and_or_left, exists_or]

/-- **Outcomes are counted once each**, in all and for every filter: over the cycle sizes, and over
the names of tests, what a filter counts adds up to what is counted without it. Messages are as many
as their outcomes, no more tests are finished than there are, and a summary says the same as the
questions; it reports problems exactly when there was a failure or an error. -/
theorem outcomes_partition (h : History) (hlength : h.length < 2 ^ 63) :
    let s := empty.commitAll h
    (s.successTotal none none = h.countP (fun te => te.2.kind = .addSuccess) ∧
      s.failuresTotal none none = h.countP (fun te => te.2.kind = .addFailure) ∧
      s.errorsTotal none none = h.countP fun te => te.2.kind = .addError) ∧
    (∀ total ∈ [successTotal, failuresTotal, errorsTotal],
      (∀ test, total s test none =
        ((History.cycles h).map fun c => total s test (some c)).sum) ∧
      (∀ cycle, total s none cycle =
        ((History.tests h).map fun t => total s (some t) cycle).sum) ∧
      ∀ test cycle, total s test cycle < 2 ^ 63) ∧
    (s.failures.length = s.failuresTotal none none ∧
      s.errors.length = s.errorsTotal none none) ∧
    s.finishedCount ≤ s.testCount ∧
    (∀ now : Instant, let r := s.summary now
      (r.testsTotal = s.testCount ∧ r.testsFinished = s.finishedCount ∧
        r.successTotal = s.successTotal none none ∧
        r.failuresTotal = s.failuresTotal none none ∧
        r.errorsTotal = s.errorsTotal none none ∧ r.hitsTotal = s.hitCount ∧ r.urls = s.urls) ∧
      (r.hasProblems = true ↔ ∃ te ∈ h, te.2.kind = .addFailure ∨ te.2.kind = .addError)) ∧
    ∀ part, part <+: h → (empty.commitAll part).Fits := by
  intro s
  refine ⟨⟨counts_successTotal.total_all h, counts_failuresTotal.total_all h,
      counts_errorsTotal.total_all h⟩, ?_, ⟨length_failures s, length_errors s⟩,
    List.length_filter_le .., fun now => ⟨⟨rfl, rfl, rfl, rfl, rfl, rfl, rfl⟩,
      hasProblems_iff h now⟩, fun part hpart => ?_⟩
  · intro total htotal
    obtain ⟨k, hcounts⟩ : ∃ k, Counts total k := by
      simp only [List.mem_cons, List.not_mem_nil, or_false] at htotal
      rcases htotal with rfl | rfl | rfl
      · exact ⟨_, counts_successTotal⟩
      · exact ⟨_, counts_failuresTotal⟩
      · exact ⟨_, counts_errorsTotal⟩
    exact ⟨hcounts.sum_cycles h, hcounts.sum_tests h,
      fun test cycle => Nat.lt_of_le_of_lt (hcounts.le_length h test cycle) hlength⟩
  · exact fits_commitAll (Nat.lt_of_le_of_lt hpart.length_le hlength)

/-- two tests at two cycle sizes, one of them with a failure -/
theorem outcomes_partition_mixed :
    let h : History :=
      [(1, .startTest "t" ⟨1, 1, 1, 1⟩ none), (2, .addSuccess "t" ⟨1, 1, 1, 1⟩ none),
        (3, .addFailure "u" "no" ⟨1, 1, 5, 1⟩ (some "w")), (4, .addSuccess "t" ⟨1, 1, 5, 2⟩ none)]
    let s := empty.commitAll h
    h.length < 2 ^ 63 ∧ s.successTotal none none = 2 ∧
      s.successTotal (some "t") none =
        [s.successTotal (some "t") (some 1), s.successTotal (some "t") (some 5)].sum ∧
      (s.summary 9).hasProblems = true := by
  intro h s
  have hlength : h.length < 2 ^ 63 := by decide
  have hcycles : History.cycles h = [1, 5] := by decide
  obtain ⟨⟨hsuccess, -, -⟩, hsums, -, -, hsummary, -⟩ := outcomes_partition h hlength
  have hparts := (hsums successTotal List.mem_cons_self).1 (some "t")
  rw [hcycles] at hparts
  exact ⟨hlength, hsuccess.trans (by decide), hparts, (hsummary 9).2.2 (by decide)⟩

end Sink

end LoadTest
