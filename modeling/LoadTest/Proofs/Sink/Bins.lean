import Mathlib.Algebra.Group.Nat.Defs
import Mathlib.Data.List.Sort
import LoadTest.Proofs.Decimal.Rounding
import LoadTest.Sink.Histogram

/-!
# The bins of a histogram

The bins are a partition of the numbers into intervals, in order, none wider than a 1024th of what
it holds. A histogram is the sorted list of the bins of its values.

* `Histogram.binLow_eq_iff`    the values of a bin
* `Histogram.binLow_mono`, `Histogram.binHigh_mono`   the bins are in order
* `Histogram.binHigh_accurate` how close the end of a bin is
* `Histogram.toList`           the bin of each value that was counted
* `Histogram.toList_ofValues`  it is the sorted list of the bins of the values
* `Histogram.atRank_eq`        a rank is a place in that list
-/

namespace LoadTest.Histogram

open Decimal

/-! ## the width of a bin -/

theorem binWidth_eq {v k : Nat} (hlarge : 2048 ≤ v) (hlow : 1024 * twoPow k ≤ v)
    (hhigh : v < 2048 * twoPow k) : binWidth v = twoPow k := by
  have hne : v ≠ 0 := by omega
  have hlog : v.log2 = k + 10 := by
    refine (Nat.log2_eq_iff hne).2 ⟨?_, ?_⟩
    · have hpow : 2 ^ (k + 10) = 1024 * twoPow k := by
        rw [Nat.pow_add, Nat.mul_comm]
        rfl
      omega
    · have hpow : 2 ^ (k + 10 + 1) = 2048 * twoPow k := by
        rw [Nat.add_assoc, Nat.pow_add, Nat.mul_comm]
        rfl
      omega
  rw [binWidth, if_neg (by omega), hlog, Nat.add_sub_cancel]

/-- A value has a bin of its own, or it lies in the upper half of what its width can reach. -/
theorem exists_width (v : Nat) : (v < 2048 ∧ binWidth v = 1) ∨
    ∃ k, 2 ≤ twoPow k ∧ binWidth v = twoPow k ∧ 1024 * twoPow k ≤ v ∧ v < 2048 * twoPow k := by
  by_cases hv : v < 2048
  · exact .inl ⟨hv, if_pos hv⟩
  · have hlog : 11 ≤ v.log2 := (Nat.le_log2 (by omega)).2 (Nat.le_of_not_lt hv)
    obtain ⟨k, hk⟩ : ∃ k, v.log2 = k + 1 + 10 := ⟨v.log2 - 11, by omega⟩
    have hbounds := (Nat.log2_eq_iff (by omega : v ≠ 0)).1 hk
    have hlow : 2 ^ (k + 1 + 10) = 1024 * twoPow (k + 1) := by
      rw [Nat.pow_add, Nat.mul_comm]
      rfl
    have hhigh : 2 ^ (k + 1 + 10 + 1) = 2048 * twoPow (k + 1) := by
      rw [Nat.add_assoc, Nat.pow_add, Nat.mul_comm]
      rfl
    have htwo : 2 ≤ twoPow (k + 1) := by
      have hpos := twoPow_pos k
      rw [twoPow_succ]
      omega
    exact .inr ⟨k + 1, htwo, binWidth_eq (by omega) (by omega) (by omega), by omega, by omega⟩

theorem binWidth_pos (v : Nat) : 0 < binWidth v := by
  rcases exists_width v with ⟨-, hwidth⟩ | ⟨k, -, hwidth, -⟩
  · omega
  · rw [hwidth]
    exact twoPow_pos k

theorem binLow_le (v : Nat) : binLow v ≤ v := Nat.div_mul_le_self v _

theorem le_binHigh (v : Nat) : v ≤ binHigh v := by
  have hlt : v < binLow v + binWidth v := Nat.lt_div_mul_add (binWidth_pos v)
  rw [binHigh]
  omega

theorem bin_eq {v w : Nat} (hlow : binLow v ≤ w) (hhigh : w ≤ binHigh v) :
    binWidth w = binWidth v ∧ binLow w = binLow v := by
  rcases exists_width v with ⟨hv, hwidth⟩ | ⟨k, htwo, hwidth, hmin, hmax⟩
  · have hlowv : binLow v = v := by rw [binLow, hwidth, Nat.div_one, Nat.mul_one]
    have heq : w = v := by
      rw [binHigh, hwidth, hlowv] at hhigh
      omega
    rw [heq]
    exact ⟨rfl, rfl⟩
  · have hpos := twoPow_pos k
    -- the bin is one of those that start at 1024 up to 2047 times the width
    have hfirst : 1024 ≤ v / twoPow k := (Nat.le_div_iff_mul_le hpos).2 hmin
    have hlast : v / twoPow k ≤ 2047 := Nat.le_of_lt_succ ((Nat.div_lt_iff_lt_mul hpos).2 hmax)
    have hlowv : binLow v = v / twoPow k * twoPow k := by rw [binLow, hwidth]
    have hmin' : 1024 * twoPow k ≤ w :=
      Nat.le_trans (Nat.mul_le_mul_right _ hfirst) (hlowv ▸ hlow)
    have hend : v / twoPow k * twoPow k + twoPow k ≤ 2048 * twoPow k := by
      rw [← Nat.succ_mul]
      exact Nat.mul_le_mul_right _ (by omega)
    have hbelow : w < v / twoPow k * twoPow k + twoPow k := by
      rw [binHigh, hwidth, hlowv] at hhigh
      omega
    have hwidth' : binWidth w = twoPow k := binWidth_eq (by omega) hmin' (by omega)
    refine ⟨hwidth'.trans hwidth.symm, ?_⟩
    have hdiv : w / twoPow k = v / twoPow k := by
      refine Nat.div_eq_of_lt_le (hlowv ▸ hlow) ?_
      rwa [Nat.succ_mul]
    rw [hlowv, binLow, hwidth', hdiv]

theorem binHigh_binLow (v : Nat) : binHigh (binLow v) = binHigh v := by
  obtain ⟨hwidth, hlow⟩ := bin_eq (Nat.le_refl (binLow v)) (Nat.le_trans (binLow_le v) (le_binHigh v))
  rw [binHigh, binHigh, hwidth, hlow]

/-- **The values of a bin** are those from its start to its end. -/
theorem binLow_eq_iff {v w : Nat} : binLow w = binLow v ↔ binLow v ≤ w ∧ w ≤ binHigh v := by
  constructor
  · intro h
    have hhigh : binHigh w = binHigh v := by rw [← binHigh_binLow w, h, binHigh_binLow]
    exact ⟨h ▸ binLow_le w, hhigh ▸ le_binHigh w⟩
  · rintro ⟨hlow, hhigh⟩
    exact (bin_eq hlow hhigh).2

theorem binLow_mono {v w : Nat} (h : v ≤ w) : binLow v ≤ binLow w := by
  by_contra hlt
  -- then the lower value would lie in the bin of the higher one
  have hmem : binLow w ≤ v ∧ v ≤ binHigh w :=
    ⟨by have := binLow_le v; omega, Nat.le_trans h (le_binHigh w)⟩
  have heq := binLow_eq_iff.2 hmem
  omega

theorem binHigh_mono {v w : Nat} (h : v ≤ w) : binHigh v ≤ binHigh w := by
  by_contra hlt
  have hmem : binLow v ≤ w ∧ w ≤ binHigh v :=
    ⟨Nat.le_trans (binLow_le v) h, by have := le_binHigh w; omega⟩
  have heq : binHigh w = binHigh v := by
    rw [← binHigh_binLow w, binLow_eq_iff.2 hmem, binHigh_binLow]
  omega

theorem binLow_binHigh (v : Nat) : binLow (binHigh v) = binLow v :=
  binLow_eq_iff.2 ⟨Nat.le_trans (binLow_le v) (le_binHigh v), Nat.le_refl _⟩

/-- **The end of a bin is close to each of its values**: a small value is the end of its own bin, and
of any other one the end differs by less than a 1024th. -/
theorem binHigh_accurate {v : Nat} (hv : 0 < v) :
    (v < 2048 → binHigh v = v) ∧ v ≤ binHigh v ∧ 1024 * (binHigh v - v) < v := by
  have hlow := binLow_le v
  rcases exists_width v with ⟨-, hwidth⟩ | ⟨k, htwo, hwidth, hmin, -⟩
  · have hhigh : binHigh v = v := by
      rw [binHigh, binLow, hwidth, Nat.div_one, Nat.mul_one, Nat.add_sub_cancel]
    exact ⟨fun _ => hhigh, Nat.le_of_eq hhigh.symm, by omega⟩
  · have hle := le_binHigh v
    have hhigh : binHigh v = binLow v + twoPow k - 1 := by rw [binHigh, hwidth]
    exact ⟨fun _ => by omega, hle, by omega⟩

/-! ## counting -/

theorem countBin_before {a low : Nat} (h : a < low) (n : Nat) (bins : List (Nat × Nat)) :
    countBin a ((low, n) :: bins) = (a, 1) :: (low, n) :: bins := if_pos h

theorem countBin_here (low n : Nat) (bins : List (Nat × Nat)) :
    countBin low ((low, n) :: bins) = (low, n + 1) :: bins := by
  rw [countBin, if_neg (Nat.lt_irrefl low), if_pos rfl]

theorem countBin_after {a low : Nat} (h : low < a) (n : Nat) (bins : List (Nat × Nat)) :
    countBin a ((low, n) :: bins) = (low, n) :: countBin a bins := by
  rw [countBin, if_neg (Nat.lt_asymm h), if_neg (Nat.ne_of_gt h)]

/-- bins as a list in which each stands as often as it was counted -/
def expand (bins : List (Nat × Nat)) : List Nat := bins.flatMap fun b => List.replicate b.2 b.1

def toList (h : Histogram) : List Nat := expand h.bins

theorem expand_cons (low n : Nat) (bins : List (Nat × Nat)) :
    expand ((low, n) :: bins) = List.replicate n low ++ expand bins := rfl

def IsOrdered (bins : List (Nat × Nat)) : Prop := bins.Pairwise fun a b => a.1 < b.1

theorem expand_countBin (a : Nat) (bins : List (Nat × Nat)) :
    (expand (countBin a bins)).Perm (a :: expand bins) := by
  induction bins with
  | nil => exact .refl _
  | cons bin bins ih =>
    obtain ⟨low, n⟩ := bin
    rcases Nat.lt_trichotomy a low with ha | rfl | ha
    · rw [countBin_before ha]
      exact .refl _
    · rw [countBin_here, expand_cons, expand_cons, List.replicate_succ]
      exact .refl _
    · rw [countBin_after ha, expand_cons, expand_cons]
      exact (ih.append_left _).trans List.perm_middle

theorem lt_of_mem_countBin {a low : Nat} (ha : low < a) {bins : List (Nat × Nat)}
    (h : ∀ b ∈ bins, low < b.1) : ∀ b ∈ countBin a bins, low < b.1 := by
  induction bins with
  | nil =>
    intro b hb
    rw [List.mem_singleton.1 hb]
    exact ha
  | cons bin bins ih =>
    obtain ⟨l, n⟩ := bin
    have hl : low < l := h (l, n) List.mem_cons_self
    have hbins : ∀ b ∈ bins, low < b.1 := fun b hb => h b (List.mem_cons_of_mem _ hb)
    intro b hb
    rcases Nat.lt_trichotomy a l with hal | rfl | hal
    · rw [countBin_before hal, List.mem_cons] at hb
      rcases hb with rfl | hb
      · exact ha
      · exact h b hb
    · rw [countBin_here, List.mem_cons] at hb
      rcases hb with rfl | hb
      · exact ha
      · exact hbins b hb
    · rw [countBin_after hal, List.mem_cons] at hb
      rcases hb with rfl | hb
      · exact hl
      · exact ih hbins b hb

theorem IsOrdered.countBin {bins : List (Nat × Nat)} (h : IsOrdered bins) (a : Nat) :
    IsOrdered (countBin a bins) := by
  induction bins with
  | nil => exact List.pairwise_singleton _ _
  | cons bin bins ih =>
    obtain ⟨low, n⟩ := bin
    obtain ⟨hlow, hbins⟩ := List.pairwise_cons.1 h
    rcases Nat.lt_trichotomy a low with ha | rfl | ha
    · rw [countBin_before ha]
      refine List.pairwise_cons.2 ⟨fun b hb => ?_, h⟩
      rcases List.mem_cons.1 hb with rfl | hb
      · exact ha
      · exact Nat.lt_trans ha (hlow b hb)
    · rw [countBin_here]
      exact List.pairwise_cons.2 ⟨hlow, hbins⟩
    · rw [countBin_after ha]
      exact List.pairwise_cons.2 ⟨lt_of_mem_countBin ha hlow, ih hbins⟩

theorem IsOrdered.pairwise_expand {bins : List (Nat × Nat)} (h : IsOrdered bins) :
    (expand bins).Pairwise (· ≤ ·) := by
  induction bins with
  | nil => exact .nil
  | cons bin bins ih =>
    obtain ⟨low, n⟩ := bin
    obtain ⟨hlow, hbins⟩ := List.pairwise_cons.1 h
    rw [expand_cons, List.pairwise_append]
    refine ⟨List.pairwise_replicate.2 (.inr (Nat.le_refl low)), ih hbins, fun x hx y hy => ?_⟩
    obtain ⟨b, hb, hy⟩ := List.mem_flatMap.1 hy
    rw [List.eq_of_mem_replicate hx, List.eq_of_mem_replicate hy]
    exact Nat.le_of_lt (hlow b hb)

theorem foldl_record (vs : List Nat) (h : Histogram) (hordered : IsOrdered h.bins) :
    IsOrdered (vs.foldl record h).bins ∧
      (vs.foldl record h).toList.Perm (h.toList ++ vs.map fun v => binLow (recorded v)) := by
  induction vs generalizing h with
  | nil =>
    rw [List.map_nil, List.append_nil]
    exact ⟨hordered, .refl _⟩
  | cons v vs ih =>
    obtain ⟨hrest, hperm⟩ := ih (h.record v) (hordered.countBin _)
    refine ⟨hrest, hperm.trans ?_⟩
    have hfirst : (h.record v).toList.Perm (binLow (recorded v) :: h.toList) := expand_countBin _ _
    exact (hfirst.append_right _).trans List.perm_middle.symm

def sortedValues (vs : List Nat) : List Nat := (vs.map recorded).insertionSort (· ≤ ·)

/-- **A histogram is the sorted list of the bins of its values.** -/
theorem toList_ofValues (vs : List Nat) : (ofValues vs).toList = (sortedValues vs).map binLow := by
  obtain ⟨hordered, hperm⟩ := foldl_record vs {} .nil
  have hsorted : ((sortedValues vs).map binLow).Pairwise (· ≤ ·) :=
    (List.pairwise_insertionSort (· ≤ ·) (vs.map recorded)).map _ fun _ _ => binLow_mono
  have hvalues : ((sortedValues vs).map binLow).Perm (vs.map fun v => binLow (recorded v)) := by
    have hsort := (List.perm_insertionSort (· ≤ ·) (vs.map recorded)).map binLow
    rwa [List.map_map] at hsort
  exact (hperm.trans hvalues.symm).eq_of_pairwise' hordered.pairwise_expand hsorted

theorem total_eq (h : Histogram) : h.total = h.toList.length := by
  obtain ⟨bins⟩ := h
  induction bins with
  | nil => rfl
  | cons bin bins ih =>
    obtain ⟨low, n⟩ := bin
    have hrest : bins.foldr (fun b n => b.2 + n) 0 = (expand bins).length := ih
    show n + bins.foldr (fun b n => b.2 + n) 0 = (expand ((low, n) :: bins)).length
    rw [hrest, expand_cons, List.length_append, List.length_replicate]

theorem length_sortedValues (vs : List Nat) : (sortedValues vs).length = vs.length := by
  rw [sortedValues, List.length_insertionSort, List.length_map]

theorem total_ofValues (vs : List Nat) : (ofValues vs).total = vs.length := by
  rw [total_eq, toList_ofValues, List.length_map, length_sortedValues]

/-! ## ranks -/

/-- the walk over the bins stops at the place that it was asked for -/
theorem walk_eq {r : Nat} (hr : 1 ≤ r) (bins : List (Nat × Nat)) :
    walk r bins = (expand bins)[r - 1]? := by
  induction bins generalizing r with
  | nil => rfl
  | cons bin bins ih =>
    obtain ⟨low, n⟩ := bin
    rw [walk, expand_cons]
    by_cases hrn : r ≤ n
    · have hplace : r - 1 < (List.replicate n low).length := by
        rw [List.length_replicate]
        omega
      rw [if_pos hrn, List.getElem?_append_left hplace, List.getElem?_replicate, if_pos (by omega)]
    · have hplace : (List.replicate n low).length ≤ r - 1 := by
        rw [List.length_replicate]
        omega
      rw [if_neg hrn, ih (by omega), List.getElem?_append_right hplace, List.length_replicate,
        show r - n - 1 = r - 1 - n by omega]

/-- **A rank is a place among the sorted values**, of which the bin is found. -/
theorem atRank_eq (vs : List Nat) {r : Nat} (hr : 1 ≤ r) :
    (ofValues vs).atRank r = (sortedValues vs)[r - 1]?.map binLow := by
  have hwalk : (ofValues vs).atRank r = (ofValues vs).toList[r - 1]? := walk_eq hr _
  rw [hwalk, toList_ofValues, List.getElem?_map]

end LoadTest.Histogram
