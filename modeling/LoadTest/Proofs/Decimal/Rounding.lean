import Mathlib.Algebra.Group.Nat.Defs
import Mathlib.Tactic.SplitIfs
import LoadTest.Decimal.Binary64

/-!
# Rounding is monotone

* `Decimal.roundDiv_mono`   a quotient rounded to an integer
* `Decimal.rounded`         a natural number rounded to the significand of a double
* `Decimal.rounded_mono`    greater numbers are not rounded to smaller ones
* `Decimal.ceilDiv_le_iff`  what a quotient rounded up is at most
-/

namespace LoadTest.Decimal

/-! ## powers of two -/

theorem twoPow_pos (k : Nat) : 0 < twoPow k := Nat.two_pow_pos k

theorem twoPow_add (j k : Nat) : twoPow (j + k) = twoPow j * twoPow k := Nat.pow_add 2 j k

theorem twoPow_le {j k : Nat} (h : j ≤ k) : twoPow j ≤ twoPow k := Nat.pow_le_pow_right (by decide) h

theorem log2_eq_iff {n k : Nat} (hn : n ≠ 0) :
    n.log2 = k ↔ twoPow k ≤ n ∧ n < twoPow (k + 1) := Nat.log2_eq_iff hn

theorem log2_mono {m n : Nat} (h : m ≤ n) : m.log2 ≤ n.log2 := by
  by_cases hm : m = 0
  · rw [hm]
    exact Nat.zero_le _
  · have hlow : 2 ^ m.log2 ≤ n := Nat.le_trans (Nat.log2_self_le hm) h
    exact (Nat.le_log2 (by omega)).2 hlow

/-! ## quotients -/

theorem roundDiv_one (n : Nat) : roundDiv n 1 = n := by
  rw [roundDiv, Nat.mod_one, Nat.div_one]
  rfl

theorem le_roundDiv (n d : Nat) : n / d ≤ roundDiv n d := by
  unfold roundDiv
  dsimp only
  split
  · omega
  · split
    · omega
    · split <;> omega

theorem roundDiv_le (n d : Nat) : roundDiv n d ≤ n / d + 1 := by
  unfold roundDiv
  dsimp only
  split
  · omega
  · split
    · omega
    · split <;> omega

theorem roundDiv_mono {m n : Nat} (h : m ≤ n) (d : Nat) : roundDiv m d ≤ roundDiv n d := by
  have hdiv : m / d ≤ n / d := Nat.div_le_div_right h
  rcases Nat.lt_or_eq_of_le hdiv with hlt | heq
  · have hm := roundDiv_le m d
    have hn := le_roundDiv n d
    omega
  · have hmod : m % d ≤ n % d := by
      have hm := Nat.div_add_mod m d
      have hn := Nat.div_add_mod n d
      rw [heq] at hm
      omega
    unfold roundDiv
    dsimp only
    rw [heq]
    split_ifs <;> omega

theorem ceilDiv_le_iff {num den k : Nat} (hden : 0 < den) :
    ceilDiv num den ≤ k ↔ num ≤ k * den := by
  rw [ceilDiv, ← Nat.lt_succ_iff, Nat.div_lt_iff_lt_mul hden, Nat.succ_mul]
  omega

/-! ## significands -/

/-- how many binary places do not fit into the significand of a double -/
def excess (n : Nat) : Nat := n.log2 - 52

/-- the nearest number whose significand has 53 binary places -/
def rounded (n : Nat) : Nat := roundDiv n (twoPow (excess n)) * twoPow (excess n)

theorem rounded_le (n : Nat) : rounded n ≤ twoPow 53 * twoPow (excess n) := by
  have hpos := twoPow_pos (excess n)
  have hlt : n < twoPow 53 * twoPow (excess n) := by
    rw [← twoPow_add]
    by_cases hn : n = 0
    · rw [hn]
      exact twoPow_pos _
    · have hhigh := ((log2_eq_iff hn).1 rfl).2
      have hle : twoPow (n.log2 + 1) ≤ twoPow (53 + excess n) := twoPow_le (by rw [excess]; omega)
      omega
  have hdiv : n / twoPow (excess n) < twoPow 53 := (Nat.div_lt_iff_lt_mul hpos).2 hlt
  have hround := roundDiv_le n (twoPow (excess n))
  exact Nat.mul_le_mul_right _ (by omega)

theorem le_rounded {n : Nat} (hn : 0 < excess n) : twoPow 52 * twoPow (excess n) ≤ rounded n := by
  have hpos := twoPow_pos (excess n)
  have hle : twoPow 52 * twoPow (excess n) ≤ n := by
    have hne : n ≠ 0 := by
      rintro rfl
      exact absurd hn (by decide)
    have hlog : n.log2 = 52 + excess n := by
      rw [excess] at hn ⊢
      omega
    rw [← twoPow_add]
    exact ((log2_eq_iff hne).1 hlog).1
  have hdiv : twoPow 52 ≤ n / twoPow (excess n) := (Nat.le_div_iff_mul_le hpos).2 hle
  exact Nat.mul_le_mul_right _ (Nat.le_trans hdiv (le_roundDiv _ _))

/-- **Rounding is monotone**, also where the greater number has more places to lose. -/
theorem rounded_mono {m n : Nat} (h : m ≤ n) : rounded m ≤ rounded n := by
  have hlog := log2_mono h
  have hexcess : excess m ≤ excess n := by
    rw [excess, excess]
    omega
  rcases Nat.lt_or_eq_of_le hexcess with hlt | heq
  · calc rounded m
        ≤ twoPow 53 * twoPow (excess m) := rounded_le m
      _ = twoPow 52 * twoPow (excess m + 1) := by
          rw [← twoPow_add, ← twoPow_add, Nat.add_comm (excess m) 1, ← Nat.add_assoc]
      _ ≤ twoPow 52 * twoPow (excess n) := Nat.mul_le_mul_left _ (twoPow_le hlt)
      _ ≤ rounded n := le_rounded (by omega)
  · rw [rounded, rounded, heq]
    exact Nat.mul_le_mul_right _ (roundDiv_mono h _)

end LoadTest.Decimal
