import LoadTest.Proofs.Sink.Bins
import LoadTest.Sink.Query

/-!
# How accurate percentiles are

A percentile is the end of the bin of one of the times, of the one at the rank that the quantile asks
for.

* `Histogram.ceilRounded_le_iff`   a share of the values, rounded up
* `Histogram.rank_mono`            a greater share asks for a higher rank
* `Sink.percentileMicros_eq`       the time whose bin is looked up
* `Sink.percentile_le`             percentiles are in the order of their ranks
* `Sink.percentile_accurate`       all of it together
-/

namespace LoadTest

open Decimal

namespace Histogram

/-! ## ranks -/

theorem one_le_rank (q : Float) (n : Nat) : 1 ≤ rank q n := Nat.le_max_left ..

theorem rank_le (q : Float) {n : Nat} (hn : 0 < n) : rank q n ≤ n :=
  Nat.max_le.2 ⟨hn, Nat.min_le_right ..⟩

/-- rounding up to an integer comes after rounding to a double -/
theorem ceilRounded_le_iff (m : Nat) (e : Int) (k : Nat) :
    ceilRounded m e ≤ k ↔ rounded m * twoPow e.toNat ≤ k * twoPow (-e).toNat := by
  have hceil : ceilRounded m e =
      ceilDiv (scaledQuotient (roundDiv m (twoPow (excess m))) (e + excess m) 1).1
        (scaledQuotient (roundDiv m (twoPow (excess m))) (e + excess m) 1).2 := rfl
  rw [hceil, rounded]
  generalize roundDiv m (twoPow (excess m)) = s
  generalize excess m = j
  by_cases hsign : 0 ≤ e + j
  · -- an integer: both sides are multiplied with the denominator of `e`
    have hpow : twoPow (e + j).toNat * twoPow (-e).toNat = twoPow j * twoPow e.toNat := by
      rw [← twoPow_add, ← twoPow_add]
      congr 1
      omega
    rw [scaledQuotient, if_pos hsign, Nat.mul_one, ceilDiv_le_iff Nat.one_pos, Nat.mul_one,
      Nat.mul_assoc, ← hpow, ← Nat.mul_assoc]
    exact (Nat.mul_le_mul_right_iff (twoPow_pos _)).symm
  · have hpow : twoPow (-e).toNat = twoPow (-(e + j)).toNat * twoPow j := by
      rw [← twoPow_add]
      congr 1
      omega
    have hzero : e.toNat = 0 := by omega
    rw [scaledQuotient, if_neg hsign, Nat.mul_one, ceilDiv_le_iff (twoPow_pos _), hpow, hzero,
      twoPow_zero, Nat.mul_one, ← Nat.mul_assoc]
    exact (Nat.mul_le_mul_right_iff (twoPow_pos _)).symm

theorem ceilRounded_mono {m n : Nat} (h : m ≤ n) (e : Int) : ceilRounded m e ≤ ceilRounded n e := by
  have hn := (ceilRounded_le_iff n e _).1 (Nat.le_refl _)
  exact (ceilRounded_le_iff m e _).2
    (Nat.le_trans (Nat.mul_le_mul_right _ (rounded_mono h)) hn)

/-- A greater share asks for a higher rank. -/
theorem rank_mono {p q : Float} {m m' : Nat} {e : Int} (hp : Binary64.ofFloat p = .finite false m e)
    (hq : Binary64.ofFloat q = .finite false m' e) (h : m ≤ m') (n : Nat) : rank p n ≤ rank q n := by
  have hceil : ceilRounded (m * n) e ≤ ceilRounded (m' * n) e :=
    ceilRounded_mono (Nat.mul_le_mul_right n h) e
  simp only [rank, hp, hq]
  show max 1 (min (ceilRounded (m * n) e) n) ≤ max 1 (min (ceilRounded (m' * n) e) n)
  omega

end Histogram

/-! ## percentiles -/

namespace Sink
variable (s : Sink) (url : Option String) (cycle : Option UInt64)

/-- the times of the matching hits as they are counted, in order -/
def sortedTimes : List Nat := Histogram.sortedValues ((s.hitsOf url cycle).map hitMicros)

/-- the rank that a quantile asks for among the matching hits -/
def rankOf (q : Float) : Nat := Histogram.rank q (s.hitsOf url cycle).length

theorem length_sortedTimes : (s.sortedTimes url cycle).length = (s.hitsOf url cycle).length := by
  rw [sortedTimes, Histogram.length_sortedValues, List.length_map]

theorem atRank_histogram (q : Float) :
    (s.histogram url cycle).atRank (Histogram.rank q (s.histogram url cycle).total) =
      (s.sortedTimes url cycle)[s.rankOf url cycle q - 1]?.map Histogram.binLow := by
  have htotal : (s.histogram url cycle).total = (s.hitsOf url cycle).length := by
    rw [histogram, Histogram.total_ofValues, List.length_map]
  rw [htotal]
  exact Histogram.atRank_eq _ (Histogram.one_le_rank q _)

/-- A percentile is the end of the bin of the time at its rank. -/
theorem percentileMicros_eq {q : Float} (hq : (q == 0.0) = false) :
    s.percentileMicros url cycle q =
      (s.sortedTimes url cycle)[s.rankOf url cycle q - 1]?.map Histogram.binHigh := by
  rw [percentileMicros, Histogram.atQuantile, atRank_histogram, Option.map_map]
  congr 1
  funext t
  show (if (q == 0.0) = true then _ else Histogram.binHigh (Histogram.binLow t)) = _
  rw [hq, if_neg Bool.false_ne_true, Histogram.binHigh_binLow]

theorem percentileMicros_eq_none_iff (q : Float) :
    s.percentileMicros url cycle q = none ↔ s.hitsOf url cycle = [] := by
  rw [percentileMicros, Histogram.atQuantile, Option.map_eq_none_iff, atRank_histogram,
    Option.map_eq_none_iff, List.getElem?_eq_none_iff, length_sortedTimes]
  constructor
  · intro h
    by_contra hne
    have hpos : 0 < (s.hitsOf url cycle).length := List.length_pos_iff.2 hne
    have hle := Histogram.rank_le q hpos
    have hlow := Histogram.one_le_rank q (s.hitsOf url cycle).length
    rw [rankOf] at h
    omega
  · intro h
    rw [h]
    exact Nat.zero_le _

theorem percentile_le {p q : Float} (hp : (p == 0.0) = false) (hq : (q == 0.0) = false)
    (hrank : s.rankOf url cycle p ≤ s.rankOf url cycle q) {v w : Nat}
    (hv : s.percentileMicros url cycle p = some v) (hw : s.percentileMicros url cycle q = some w) :
    v ≤ w := by
  rw [percentileMicros_eq s url cycle hp] at hv
  rw [percentileMicros_eq s url cycle hq] at hw
  obtain ⟨x, hx, rfl⟩ := Option.map_eq_some_iff.1 hv
  obtain ⟨y, hy, rfl⟩ := Option.map_eq_some_iff.1 hw
  obtain ⟨hi, rfl⟩ := List.getElem?_eq_some_iff.1 hx
  obtain ⟨hj, rfl⟩ := List.getElem?_eq_some_iff.1 hy
  have hsorted : (s.sortedTimes url cycle).SortedLE :=
    (List.pairwise_insertionSort (· ≤ ·) _).sortedLE
  refine Histogram.binHigh_mono (hsorted.getElem_le_getElem_of_le ?_)
  omega

variable {s url cycle}

/-- Times of at most 60 seconds are counted as they are. -/
theorem sortedTimes_of_short
    (hshort : ∀ h ∈ s.hitsOf url cycle, h.elapsed.nanos ≤ 60 * Duration.perSecond) :
    s.sortedTimes url cycle =
      ((s.hitsOf url cycle).map fun h => max 1 h.elapsed.micros).insertionSort (· ≤ ·) := by
  rw [sortedTimes, Histogram.sortedValues, List.map_map]
  congr 1
  refine List.map_congr_left fun h hh => ?_
  have hmicros : h.elapsed.micros ≤ 60000000 := by
    have hnanos := hshort h hh
    simp only [Duration.perSecond] at hnanos
    rw [Duration.micros]
    omega
  have hsize : UInt64.size = 18446744073709551616 := rfl
  have hcounted : hitMicros h = max 1 h.elapsed.micros := by
    rw [hitMicros, Nat.min_eq_left (by omega)]
  show Histogram.recorded (hitMicros h) = _
  rw [hcounted, Histogram.recorded, if_pos (by omega)]

theorem exists_percentile (hne : s.hitsOf url cycle ≠ []) (q : Float) :
    ∃ v, s.percentileMicros url cycle q = some v :=
  Option.ne_none_iff_exists'.1 fun hnone => hne ((percentileMicros_eq_none_iff s url cycle q).1 hnone)

/-- the three percentiles of a summary ask for ranks in their order -/
theorem rankOf_summary (s : Sink) (url : Option String) (cycle : Option UInt64) :
    s.rankOf url cycle 0.50 ≤ s.rankOf url cycle 0.90 ∧
      s.rankOf url cycle 0.90 ≤ s.rankOf url cycle 0.99 := by
  have h50 : Binary64.ofFloat 0.50 = .finite false 4503599627370496 (-53) := by decide
  have h90 : Binary64.ofFloat 0.90 = .finite false 8106479329266893 (-53) := by decide
  have h99 : Binary64.ofFloat 0.99 = .finite false 8917127262193582 (-53) := by decide
  exact ⟨Histogram.rank_mono h50 h90 (by decide) _, Histogram.rank_mono h90 h99 (by decide) _⟩

/-- **Percentiles are accurate.** There is none exactly where no hit matches, and percentiles are in
the order of their ranks, so those of a summary are. Where all matching hits last at most 60 seconds,
a quantile other than zero asks for one of the times, in whole microseconds and at least one: for the
one at its rank in the order of size. What is answered is the highest value of the bin of that time:
the time itself below 2048 microseconds, and otherwise less than a 1024th more. -/
theorem percentile_accurate (s : Sink) (url : Option String) (cycle : Option UInt64) :
    (∀ q, s.percentileMicros url cycle q = none ↔ s.hitsOf url cycle = []) ∧
    (∀ p q : Float, (p == 0.0) = false → (q == 0.0) = false →
      Histogram.rank p (s.hitsOf url cycle).length ≤ Histogram.rank q (s.hitsOf url cycle).length →
      ∀ v w, s.percentileMicros url cycle p = some v → s.percentileMicros url cycle q = some w →
        v ≤ w) ∧
    (s.hitsOf url cycle ≠ [] → ∃ p50 p90 p99, s.percentileMicros url cycle 0.50 = some p50 ∧
      s.percentileMicros url cycle 0.90 = some p90 ∧ s.percentileMicros url cycle 0.99 = some p99 ∧
        p50 ≤ p90 ∧ p90 ≤ p99) ∧
    (s.hitsOf url cycle ≠ [] →
      (∀ h ∈ s.hitsOf url cycle, h.elapsed.nanos ≤ 60 * Duration.perSecond) →
      ∀ q : Float, (q == 0.0) = false →
        let times := ((s.hitsOf url cycle).map fun h => max 1 h.elapsed.micros).insertionSort (· ≤ ·)
        let rank := Histogram.rank q times.length
        1 ≤ rank ∧ rank ≤ times.length ∧
        ∃ time v, times[rank - 1]? = some time ∧ s.percentileMicros url cycle q = some v ∧
          (Histogram.binLow v = Histogram.binLow time ∧
            ∀ w, Histogram.binLow w = Histogram.binLow time → w ≤ v) ∧
          (time < 2048 → v = time) ∧ time ≤ v ∧ 1024 * (v - time) < time) := by
  have h50 : ((0.50 : Float) == 0.0) = false := by decide
  have h90 : ((0.90 : Float) == 0.0) = false := by decide
  have h99 : ((0.99 : Float) == 0.0) = false := by decide
  refine ⟨percentileMicros_eq_none_iff s url cycle,
    fun p q hp hq hrank v w => percentile_le s url cycle hp hq hrank, fun hne => ?_,
    fun hne hshort q hq => ?_⟩
  · obtain ⟨p50, hp50⟩ := exists_percentile hne 0.50
    obtain ⟨p90, hp90⟩ := exists_percentile hne 0.90
    obtain ⟨p99, hp99⟩ := exists_percentile hne 0.99
    obtain ⟨hfirst, hsecond⟩ := rankOf_summary s url cycle
    exact ⟨p50, p90, p99, hp50, hp90, hp99, percentile_le s url cycle h50 h90 hfirst hp50 hp90,
      percentile_le s url cycle h90 h99 hsecond hp90 hp99⟩
  · intro times rank
    have htimes : s.sortedTimes url cycle = times := sortedTimes_of_short hshort
    have hlength : times.length = (s.hitsOf url cycle).length := by
      rw [← htimes, length_sortedTimes]
    have hpos : 0 < times.length := hlength ▸ List.length_pos_iff.2 hne
    have hlow : 1 ≤ rank := Histogram.one_le_rank q _
    have hhigh : rank ≤ times.length := Histogram.rank_le q hpos
    have hplace : rank - 1 < times.length := by omega
    have htime : times[rank - 1]? = some times[rank - 1] := List.getElem?_eq_getElem hplace
    have hanswer : s.percentileMicros url cycle q = some (Histogram.binHigh times[rank - 1]) := by
      rw [percentileMicros_eq s url cycle hq, htimes, rankOf, ← hlength, htime]
      rfl
    have hone : 0 < times[rank - 1] := by
      have hmem : times[rank - 1] ∈ times := List.getElem_mem hplace
      obtain ⟨h, -, heq⟩ := List.mem_map.1 ((List.mem_insertionSort _).1 hmem)
      rw [← heq]
      exact Nat.lt_of_lt_of_le Nat.one_pos (Nat.le_max_left ..)
    obtain ⟨hexact, hle, hclose⟩ := Histogram.binHigh_accurate hone
    exact ⟨hlow, hhigh, times[rank - 1], _, htime, hanswer, ⟨Histogram.binLow_binHigh _,
      fun w hw => (Histogram.binLow_eq_iff.1 hw).2⟩, hexact, hle, hclose⟩

def timedHit (micros : Nat) : Hit := ⟨"http://h/", "GET", 200, 0, ⟨1000 * micros⟩, ⟨1, 1, 1, 1⟩, none⟩

/-- Four hits, one of them at the limit: a quarter asks for the first time, which has a bin of its
own, the median for the second one, which shares a bin with those from 5000 to 5003. -/
theorem percentile_accurate_four :
    let s : Sink := { hits := #[timedHit 5001, timedHit 1500, timedHit 60000000, timedHit 9000] }
    s.hitsOf none none ≠ [] ∧
    (∀ h ∈ s.hitsOf none none, h.elapsed.nanos ≤ 60 * Duration.perSecond) ∧
    ((0.25 : Float) == 0.0) = false ∧ ((0.50 : Float) == 0.0) = false ∧
    s.percentileMicros none none 0.25 = some 1500 ∧
    ∃ v, s.percentileMicros none none 0.50 = some v ∧ 1500 ≤ v ∧ Histogram.binLow v = 5000 ∧
      (∀ w, Histogram.binLow w = 5000 → w ≤ v) ∧ 5001 ≤ v ∧ 1024 * (v - 5001) < 5001 := by
  intro s
  have hne : s.hitsOf none none ≠ [] := by decide
  have hshort : ∀ h ∈ s.hitsOf none none, h.elapsed.nanos ≤ 60 * Duration.perSecond := by decide
  have hquarter : ((0.25 : Float) == 0.0) = false := by decide
  have hmedian : ((0.50 : Float) == 0.0) = false := by decide
  obtain ⟨-, hordered, -, haccurate⟩ := percentile_accurate s none none
  obtain ⟨-, -, x, v, hx, hv, -, hexact, -⟩ := haccurate hne hshort 0.25 hquarter
  obtain ⟨-, -, y, w, hy, hw, ⟨hbin, hlast⟩, -, hle, hclose⟩ := haccurate hne hshort 0.50 hmedian
  obtain rfl : x = 1500 := Option.some.inj (hx.symm.trans (by decide))
  obtain rfl : y = 5001 := Option.some.inj (hy.symm.trans (by decide))
  obtain rfl : v = 1500 := hexact (by decide)
  have hstart : Histogram.binLow 5001 = 5000 := by decide
  rw [hstart] at hbin hlast
  refine ⟨hne, hshort, hquarter, hmedian, hv, w, hw, ?_, hbin, hlast, hle, hclose⟩
  exact hordered 0.25 0.50 hquarter hmedian (by decide) _ _ hv hw

end Sink

end LoadTest
