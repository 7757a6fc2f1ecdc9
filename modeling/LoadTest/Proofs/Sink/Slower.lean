import LoadTest.Proofs.Decimal.Quotient
import LoadTest.Proofs.Sink.Percentiles

/-!
# Slower hits

What percentiles do when one hit takes longer. Its place among the sorted bins says how many of them
come before: a percentile cannot decrease as long as the bin of the hit does not, and that is so
unless the time leaves the range of the bins, from beyond the one that stands for all such times.

* `Histogram.FallsBack`          a longer time that is counted below the shorter one
* `Histogram.counted_lt_iff`     the only times that are
* `Sink.getElem_sortedBins_lt`   how many bins come before a place
* `Sink.retimed`                 another time for one hit
* `Sink.percentile_of_slower`    percentiles before and after
-/

namespace LoadTest

open Decimal

namespace Histogram

/-! ## the bin of a longer time -/

/-- `v` has a bin, which is beyond the one of `clamp`, and `w` has none. -/
def FallsBack (v w : Nat) : Prop := binHigh clamp < v ∧ v < 67108864 ∧ 67108864 ≤ w

instance (v w : Nat) : Decidable (FallsBack v w) := inferInstanceAs (Decidable (_ ∧ _ ∧ _))

/-- the start of the bin in which a value is counted -/
def counted (v : Nat) : Nat := binLow (recorded v)

/-- **A greater value is counted in a lower bin only where it falls back.** -/
theorem counted_lt_iff {v w : Nat} (h : v ≤ w) : counted w < counted v ↔ FallsBack v w := by
  have hend : binHigh clamp = 60030975 := by decide
  have hstart : binLow clamp = 59998208 := by decide
  rw [counted, counted, recorded, recorded, FallsBack]
  by_cases hw : w < 67108864
  · have hv : v < 67108864 := Nat.lt_of_le_of_lt h hw
    have hmono := binLow_mono h
    rw [if_pos hw, if_pos hv]
    omega
  · rw [if_neg hw]
    by_cases hv : v < 67108864
    · rw [if_pos hv]
      constructor
      · intro hlt
        -- a value of the bin of `clamp`, or of one before it, starts no later
        by_contra hle
        have hmono := binHigh_mono (by omega : v ≤ binHigh clamp)
        have hlow := binLow_mono (by omega : v ≤ binHigh clamp)
        rw [binLow_binHigh] at hlow
        omega
      · rintro ⟨hlt, -, -⟩
        have hlow := binLow_mono (by omega : binHigh clamp + 1 ≤ v)
        have hnext : binLow (binHigh clamp + 1) = 60030976 := by decide
        omega
    · rw [if_neg hv]
      omega

theorem binLow_counted (v : Nat) : binLow (counted v) = counted v :=
  binLow_eq_iff.2 ⟨Nat.le_refl _, Nat.le_trans (binLow_le _) (le_binHigh _)⟩

theorem counted_pos {v : Nat} (hv : 1 ≤ v) : 1 ≤ counted v := by
  have hrecorded : 1 ≤ recorded v := by
    rw [recorded, clamp]
    split <;> omega
  have hone : binLow 1 = 1 := by decide
  exact hone ▸ binLow_mono hrecorded

/-- no bin reaches beyond 26 bits -/
theorem binHigh_counted_lt (v : Nat) : binHigh (counted v) < 67108864 := by
  have hrecorded : recorded v ≤ 67108863 := by
    rw [recorded, clamp]
    split <;> omega
  have hlast : binHigh 67108863 = 67108863 := by decide
  have hmono := binHigh_mono hrecorded
  rw [counted, binHigh_binLow]
  omega

end Histogram

namespace Sink

/-! ## places among the bins -/

/-- the start of the bin in which a hit is counted -/
def hitBin (h : Hit) : Nat := Histogram.counted (hitMicros h)

section
variable (s : Sink) (url : Option String) (cycle : Option UInt64)

/-- the bins of the matching hits, in order -/
def sortedBins : List Nat := (s.sortedTimes url cycle).map Histogram.binLow

theorem length_sortedBins : (s.sortedBins url cycle).length = (s.hitsOf url cycle).length := by
  rw [sortedBins, List.length_map, length_sortedTimes]

theorem sortedBins_perm :
    (s.sortedBins url cycle).Perm ((s.hitsOf url cycle).map hitBin) := by
  have hsort : (s.sortedBins url cycle).Perm
      ((((s.hitsOf url cycle).map hitMicros).map Histogram.recorded).map Histogram.binLow) :=
    (List.perm_insertionSort (· ≤ ·) _).map _
  rwa [List.map_map, List.map_map] at hsort

theorem pairwise_sortedBins : (s.sortedBins url cycle).Pairwise (· ≤ ·) :=
  (List.pairwise_insertionSort (· ≤ ·) _).map _ fun _ _ => Histogram.binLow_mono

/-- the end of a bin that a quantile asks for -/
def binEnd (q : Float) (low : Nat) : Nat := if q == 0.0 then low else Histogram.binHigh low

theorem percentileMicros_eq_binEnd (q : Float) : s.percentileMicros url cycle q =
    (s.sortedBins url cycle)[s.rankOf url cycle q - 1]?.map (binEnd q) := by
  rw [percentileMicros, Histogram.atQuantile, atRank_histogram, sortedBins, List.getElem?_map]
  rfl

end

/-- the places of a sorted list below a bound are its first ones -/
theorem getElem_lt_iff {l : List Nat} (h : l.Pairwise (· ≤ ·)) (x : Nat) {i : Nat}
    (hi : i < l.length) : l[i] < x ↔ i < l.countP (· < x) := by
  induction l generalizing i with
  | nil => exact absurd hi (Nat.not_lt_zero i)
  | cons a l ih =>
    obtain ⟨hfirst, hrest⟩ := List.pairwise_cons.1 h
    by_cases ha : a < x
    · have hcount : (a :: l).countP (· < x) = l.countP (· < x) + 1 :=
        List.countP_cons_of_pos (decide_eq_true ha)
      rw [hcount]
      cases i with
      | zero => exact iff_of_true ha (Nat.succ_pos _)
      | succ i => exact (ih hrest (Nat.lt_of_succ_lt_succ hi)).trans Nat.succ_lt_succ_iff.symm
    · -- then nothing is below the bound
      have hnone : ∀ b ∈ a :: l, x ≤ b := by
        intro b hb
        rcases List.mem_cons.1 hb with rfl | hb
        · exact Nat.le_of_not_lt ha
        · exact Nat.le_trans (Nat.le_of_not_lt ha) (hfirst b hb)
      have hzero : (a :: l).countP (· < x) = 0 := by
        refine List.countP_eq_zero.2 fun b hb => ?_
        rw [decide_eq_true_eq]
        exact Nat.not_lt_of_le (hnone b hb)
      rw [hzero]
      exact iff_of_false (Nat.not_lt_of_le (hnone _ (List.getElem_mem hi))) (Nat.not_lt_zero i)

/-- **The bin at a place is below a bound** where more hits than that are. -/
theorem getElem_sortedBins_lt (s : Sink) (url : Option String) (cycle : Option UInt64) (x : Nat)
    {i : Nat} (hi : i < (s.sortedBins url cycle).length) :
    (s.sortedBins url cycle)[i] < x ↔ i < (s.hitsOf url cycle).countP fun h => hitBin h < x := by
  rw [getElem_lt_iff (s.pairwise_sortedBins url cycle) x hi,
    (s.sortedBins_perm url cycle).countP_eq, List.countP_map]
  rfl

/-! ## another time for one hit -/

def taking (h : Hit) (d : Duration) : Hit := { h with elapsed := d }

def retimed (s : Sink) (i : Nat) (d : Duration) : Sink :=
  { s with hits := s.hits.modify i fun h => taking h d }

section
variable {s : Sink} {i : Nat} {h : Hit} (hi : s.hits[i]? = some h) (url : Option String)
  (cycle : Option UInt64) (d : Duration)
include hi

theorem toList_retimed : ∃ front back, s.hits.toList = front ++ h :: back ∧
    (s.retimed i d).hits.toList = front ++ taking h d :: back := by
  obtain ⟨hlt, heq⟩ := List.getElem?_eq_some_iff.1 (Array.getElem?_toList.trans hi)
  refine ⟨s.hits.toList.take i, s.hits.toList.drop (i + 1), ?_, ?_⟩
  · rw [← heq, List.getElem_cons_drop, List.take_append_drop]
  · rw [retimed, Array.toList_modify, List.modify_eq_take_cons_drop hlt, heq]

theorem hitsOf_retimed : ∃ front back, s.hitsOf url cycle =
      front ++ (if hitSelected h url cycle then [h] else []) ++ back ∧
    (s.retimed i d).hitsOf url cycle =
      front ++ (if hitSelected h url cycle then [taking h d] else []) ++ back := by
  obtain ⟨front, back, hold, hnew⟩ := toList_retimed hi d
  have hsame : hitSelected (taking h d) url cycle = hitSelected h url cycle := rfl
  refine ⟨front.filter fun g => hitSelected g url cycle,
    back.filter fun g => hitSelected g url cycle, ?_, ?_⟩
  · rw [hitsOf, hold, List.filter_append, List.filter_cons, List.append_assoc]
    split <;> rfl
  · rw [hitsOf, hnew, List.filter_append, List.filter_cons, List.append_assoc, hsame]
    split <;> rfl

theorem length_hitsOf_retimed :
    ((s.retimed i d).hitsOf url cycle).length = (s.hitsOf url cycle).length := by
  obtain ⟨front, back, hold, hnew⟩ := hitsOf_retimed hi url cycle d
  rw [hold, hnew]
  simp only [List.length_append]
  split <;> rfl

theorem countP_retimed (p : Hit → Bool) (hselected : hitSelected h url cycle = true) :
    ((s.retimed i d).hitsOf url cycle).countP p + (if p h then 1 else 0) =
      (s.hitsOf url cycle).countP p + (if p (taking h d) then 1 else 0) := by
  obtain ⟨front, back, hold, hnew⟩ := hitsOf_retimed hi url cycle d
  rw [hold, hnew, if_pos hselected, if_pos hselected]
  simp only [List.countP_append, List.countP_singleton]
  omega

theorem hitsOf_retimed_of_not (hselected : hitSelected h url cycle = false) :
    (s.retimed i d).hitsOf url cycle = s.hitsOf url cycle := by
  obtain ⟨front, back, hold, hnew⟩ := hitsOf_retimed hi url cycle d
  rw [hold, hnew, hselected]
  rfl

/-! ## percentiles before and after -/

/-- no bin is lower than at the same place before, as long as the bin of the hit is not lower -/
theorem sortedBins_retimed_le
    (hbin : hitSelected h url cycle = true → hitBin h ≤ hitBin (taking h d)) {j : Nat}
    (hj : j < (s.sortedBins url cycle).length)
    (hj' : j < ((s.retimed i d).sortedBins url cycle).length) :
    (s.sortedBins url cycle)[j] ≤ ((s.retimed i d).sortedBins url cycle)[j] := by
  by_contra hlt
  -- as many hits are below a bin as were before
  have hcount : ∀ x, ((s.retimed i d).hitsOf url cycle).countP (fun g => hitBin g < x) ≤
      (s.hitsOf url cycle).countP fun g => hitBin g < x := by
    intro x
    by_cases hselected : hitSelected h url cycle = true
    · have hchange := countP_retimed hi url cycle d (fun g => hitBin g < x) hselected
      have hle := hbin hselected
      simp only [decide_eq_true_eq] at hchange
      split at hchange <;> split at hchange <;> omega
    · rw [hitsOf_retimed_of_not hi url cycle d (Bool.not_eq_true _ ▸ hselected)]
  have hnew := (getElem_sortedBins_lt _ url cycle _ hj').1 (Nat.lt_of_not_le hlt)
  have hold := (getElem_sortedBins_lt s url cycle _ hj).2 (Nat.lt_of_lt_of_le hnew (hcount _))
  exact Nat.lt_irrefl _ hold

/-- behind all hits of lower bins the bin is lower than before, if that of the hit is -/
theorem sortedBins_retimed_lt (hselected : hitSelected h url cycle = true)
    (hbin : hitBin (taking h d) < hitBin h) {j : Nat}
    (hfaster : j = (s.hitsOf url cycle).countP fun g => hitBin g < hitBin h)
    (hj : j < (s.sortedBins url cycle).length)
    (hj' : j < ((s.retimed i d).sortedBins url cycle).length) :
    ((s.retimed i d).sortedBins url cycle)[j] < (s.sortedBins url cycle)[j] := by
  have hchange := countP_retimed hi url cycle d (fun g => hitBin g < hitBin h) hselected
  simp only [decide_eq_true_eq, Nat.lt_irrefl, if_neg, if_pos hbin, not_false_eq_true] at hchange
  have hnew := (getElem_sortedBins_lt _ url cycle (hitBin h) hj').2 (by omega)
  have hold : hitBin h ≤ (s.sortedBins url cycle)[j] := by
    refine Nat.le_of_not_lt fun hlt => ?_
    have hlow := (getElem_sortedBins_lt s url cycle (hitBin h) hj).1 hlt
    omega
  omega

end

theorem binEnd_mono (q : Float) {a b : Nat} (h : a ≤ b) : binEnd q a ≤ binEnd q b := by
  unfold binEnd
  split
  · exact h
  · exact Histogram.binHigh_mono h

theorem binEnd_lt (q : Float) {a b : Nat} (ha : Histogram.binLow a = a) (hb : Histogram.binLow b = b)
    (h : a < b) : binEnd q a < binEnd q b := by
  unfold binEnd
  split
  · exact h
  · refine Nat.lt_of_le_of_ne (Histogram.binHigh_mono (Nat.le_of_lt h)) fun heq => ?_
    have hlow := congrArg Histogram.binLow heq
    rw [Histogram.binLow_binHigh, Histogram.binLow_binHigh, ha, hb] at hlow
    omega

theorem exists_of_mem_sortedBins {s : Sink} {url : Option String} {cycle : Option UInt64} {a : Nat}
    (ha : a ∈ s.sortedBins url cycle) : ∃ h, hitBin h = a := by
  obtain ⟨h, -, rfl⟩ := List.mem_map.1 ((s.sortedBins_perm url cycle).mem_iff.1 ha)
  exact ⟨h, rfl⟩

theorem binEnd_bounds (q : Float) (h : Hit) :
    1 ≤ binEnd q (hitBin h) ∧ binEnd q (hitBin h) < 67108864 := by
  have hpos : 1 ≤ hitBin h := Histogram.counted_pos (Nat.le_max_left ..)
  have hlast : Histogram.binHigh (hitBin h) < 67108864 := Histogram.binHigh_counted_lt _
  have hle : hitBin h ≤ Histogram.binHigh (hitBin h) := Histogram.le_binHigh _
  unfold binEnd
  split <;> omega

def millis (us : Nat) : Float := ofCount us / 1000.0

theorem thousand_eq : (1000.0 : Float) = (UInt64.ofNat 1000).toFloat := by decide

theorem millis_le {v w : Nat} (hv : 1 ≤ v) (h : v ≤ w) (hw : w < 67108864) :
    millis v ≤ millis w := by
  rw [millis, millis, thousand_eq]
  exact toFloat_div_le hv (by omega) (by decide) (by decide) h

theorem millis_lt {v w : Nat} (hv : 1 ≤ v) (h : v < w) (hw : w < 67108864) :
    millis v < millis w := by
  rw [millis, millis, thousand_eq]
  exact toFloat_div_lt hv (by omega) (by decide) (by decide) h

section
variable {s s' : Sink} {url : Option String} {cycle : Option UInt64} {a b : Nat}
  (ha : a ∈ s.sortedBins url cycle) (hb : b ∈ s'.sortedBins url cycle) (q : Float)
include ha hb

theorem millis_binEnd_le (h : a ≤ b) : millis (binEnd q a) ≤ millis (binEnd q b) := by
  obtain ⟨f, rfl⟩ := exists_of_mem_sortedBins ha
  obtain ⟨g, rfl⟩ := exists_of_mem_sortedBins hb
  exact millis_le (binEnd_bounds q f).1 (binEnd_mono q h) (binEnd_bounds q g).2

theorem millis_binEnd_lt (h : a < b) : millis (binEnd q a) < millis (binEnd q b) := by
  obtain ⟨f, rfl⟩ := exists_of_mem_sortedBins ha
  obtain ⟨g, rfl⟩ := exists_of_mem_sortedBins hb
  have hends := binEnd_lt q (Histogram.binLow_counted _) (Histogram.binLow_counted _) h
  exact millis_lt (binEnd_bounds q f).1 hends (binEnd_bounds q g).2

end

theorem percentileMillis_eq (s : Sink) (url : Option String) (cycle : Option UInt64) (q : Float) :
    s.percentileMillis url cycle q =
      (s.sortedBins url cycle)[s.rankOf url cycle q - 1]?.map fun low => millis (binEnd q low) := by
  rw [percentileMillis, percentileMicros_eq_binEnd, Option.map_map]
  rfl

theorem percentileMillis_eq_none_iff (s : Sink) (url : Option String) (cycle : Option UInt64)
    (q : Float) : s.percentileMillis url cycle q = none ↔ s.hitsOf url cycle = [] := by
  rw [percentileMillis, Option.map_eq_none_iff, percentileMicros_eq_none_iff]

/-- **Percentiles of slower hits.** If one hit takes longer, the same percentiles exist. None of them
decreases, unless the hit is one of those asked for and its time falls back: it had a bin beyond the
one of all the times that have none, and now has none itself. Then the percentile does decrease that
asks for the rank behind the hits of lower bins. -/
theorem percentile_of_slower (s : Sink) (url : Option String) (cycle : Option UInt64) {i : Nat}
    {h : Hit} (hi : s.hits[i]? = some h) {d : Duration} (hd : h.elapsed.nanos ≤ d.nanos) :
    (∀ q, (s.retimed i d).percentileMillis url cycle q = none ↔
      s.percentileMillis url cycle q = none) ∧
    ((hitSelected h url cycle = true →
        ¬ Histogram.FallsBack (hitMicros h) (hitMicros (taking h d))) →
      ∀ q v w, s.percentileMillis url cycle q = some v →
        (s.retimed i d).percentileMillis url cycle q = some w → v ≤ w) ∧
    (hitSelected h url cycle = true →
      Histogram.FallsBack (hitMicros h) (hitMicros (taking h d)) →
      ∀ q, s.rankOf url cycle q = ((s.hitsOf url cycle).countP fun g => hitBin g < hitBin h) + 1 →
        ∃ v w, s.percentileMillis url cycle q = some v ∧
          (s.retimed i d).percentileMillis url cycle q = some w ∧ w < v) := by
  have hmicros : hitMicros h ≤ hitMicros (taking h d) := by
    have hdiv : h.elapsed.micros ≤ d.micros := Nat.div_le_div_right hd
    show max 1 (min h.elapsed.micros _) ≤ max 1 (min d.micros _)
    omega
  have hback : hitBin (taking h d) < hitBin h ↔
      Histogram.FallsBack (hitMicros h) (hitMicros (taking h d)) := Histogram.counted_lt_iff hmicros
  have hlength := length_hitsOf_retimed hi url cycle d
  have hrank : ∀ q, (s.retimed i d).rankOf url cycle q = s.rankOf url cycle q := fun q =>
    congrArg (Histogram.rank q) hlength
  refine ⟨fun q => ?_, fun hstays q v w hv hw => ?_, fun hselected hfalls q hq => ?_⟩
  · rw [percentileMillis_eq_none_iff, percentileMillis_eq_none_iff, ← List.length_eq_zero_iff, hlength,
      List.length_eq_zero_iff]
  · rw [percentileMillis_eq] at hv hw
    rw [hrank] at hw
    obtain ⟨a, ha, rfl⟩ := Option.map_eq_some_iff.1 hv
    obtain ⟨b, hb, rfl⟩ := Option.map_eq_some_iff.1 hw
    obtain ⟨hj, rfl⟩ := List.getElem?_eq_some_iff.1 ha
    obtain ⟨hj', rfl⟩ := List.getElem?_eq_some_iff.1 hb
    have hle := sortedBins_retimed_le hi url cycle d
      (fun hselected => Nat.le_of_not_lt fun hlt => hstays hselected (hback.1 hlt)) hj hj'
    exact millis_binEnd_le (List.getElem_mem hj) (List.getElem_mem hj') q hle
  · have hpos : 0 < (s.hitsOf url cycle).length := by
      obtain ⟨front, back, hold, -⟩ := hitsOf_retimed hi url cycle d
      rw [hold, if_pos hselected]
      simp only [List.length_append, List.length_singleton]
      omega
    have hlast : s.rankOf url cycle q ≤ (s.hitsOf url cycle).length := Histogram.rank_le q hpos
    have hj : s.rankOf url cycle q - 1 < (s.sortedBins url cycle).length := by
      rw [length_sortedBins]
      omega
    have hj' : s.rankOf url cycle q - 1 < ((s.retimed i d).sortedBins url cycle).length := by
      rw [length_sortedBins, hlength]
      omega
    have hlt := sortedBins_retimed_lt hi url cycle d hselected (hback.2 hfalls) (by omega) hj hj'
    refine ⟨millis (binEnd q (s.sortedBins url cycle)[s.rankOf url cycle q - 1]),
      millis (binEnd q ((s.retimed i d).sortedBins url cycle)[s.rankOf url cycle q - 1]), ?_, ?_,
      millis_binEnd_lt (List.getElem_mem hj') (List.getElem_mem hj) q hlt⟩
    · rw [percentileMillis_eq, List.getElem?_eq_getElem hj]
      rfl
    · rw [percentileMillis_eq, hrank, List.getElem?_eq_getElem hj']
      rfl

/-- A hit of 50 seconds between one of 30 and one of 65, of which the median is the one of 50: it
does not decrease if the hit takes 200 seconds, and the highest percentile does if the hit of 65
seconds takes 70. -/
theorem percentile_of_slower_three :
    let s : Sink := { hits := #[timedHit 30000000, timedHit 50000000, timedHit 65000000] }
    (∃ v w, s.percentileMillis none none 0.5 = some v ∧
      (s.retimed 1 ⟨200000000000⟩).percentileMillis none none 0.5 = some w ∧ v ≤ w) ∧
    (∃ v w, s.percentileMillis none none 0.9 = some v ∧
      (s.retimed 2 ⟨70000000000⟩).percentileMillis none none 0.9 = some w ∧ w < v) := by
  intro s
  have hsecond : s.hits[1]? = some (timedHit 50000000) := by decide
  have hthird : s.hits[2]? = some (timedHit 65000000) := by decide
  obtain ⟨hnone, hmono, -⟩ := percentile_of_slower s none none hsecond
    (by decide : (timedHit 50000000).elapsed.nanos ≤ (⟨200000000000⟩ : Duration).nanos)
  obtain ⟨-, -, hdrop⟩ := percentile_of_slower s none none hthird
    (by decide : (timedHit 65000000).elapsed.nanos ≤ (⟨70000000000⟩ : Duration).nanos)
  have hne : s.hitsOf none none ≠ [] := by decide
  obtain ⟨v, hv⟩ := Option.ne_none_iff_exists'.1 (mt (percentileMillis_eq_none_iff s none none 0.5).1 hne)
  obtain ⟨w, hw⟩ := Option.ne_none_iff_exists'.1
    (mt ((hnone 0.5).trans (percentileMillis_eq_none_iff s none none 0.5)).1 hne)
  exact ⟨⟨v, w, hv, hw, hmono (fun _ => by decide) 0.5 v w hv hw⟩,
    hdrop rfl (by decide) 0.9 (by decide)⟩

/-- A percentile can decrease when a hit takes longer: with 70 seconds in the place of 65, it is that
of 60 seconds. -/
theorem percentile_not_monotone : ¬ ∀ (s : Sink) (url : Option String) (cycle : Option UInt64)
    (q : Float) (i : Nat) (h : Hit) (d : Duration) (v w : Float), s.hits[i]? = some h →
      hitSelected h url cycle = true → h.elapsed.nanos ≤ d.nanos →
      s.percentileMillis url cycle q = some v →
      (s.retimed i d).percentileMillis url cycle q = some w → v ≤ w := by
  intro hmono
  have hle := hmono { hits := #[timedHit 65000000] } none none 0.5 0 (timedHit 65000000)
    ⟨70000000000⟩ 65011.711 60030.975 rfl rfl (by decide) (by decide) (by decide)
  exact absurd hle (by decide)

end Sink

end LoadTest
