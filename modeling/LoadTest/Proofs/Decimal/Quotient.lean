import Mathlib
import LoadTest.Proofs.Decimal.Rounding

/-!
# Quotients of counts

What dividing two counts does to doubles, down to the bits: a positive count is a double as it is,
the quotient of two is one of the two doubles next to it, and doubles are compared by exponent and
significand. Counts below two to the power 50 that differ have quotients that differ.

* `Decimal.unpack_pack_normal`    a double with all its 53 places is packed and taken apart again
* `Decimal.unpack_ofNat`          a count as a double
* `Decimal.roundedMantissa_near`  rounding picks one of the two neighbours
* `Decimal.unpack_div`            how near the quotient of two counts is
* `Decimal.toFloat_div_lt`, `Decimal.toFloat_div_le`   quotients are in the order of the counts
-/

namespace LoadTest.Decimal

open Float.Model Float.Model.UnpackedFloat

/-! ## packing -/

theorem append_implicit {w : Nat} (b : BitVec w) : (1#1 ++ b).toNat = 2 ^ w + b.toNat := by
  rw [BitVec.toNat_append, ← Nat.shiftLeft_add_eq_or_of_lt b.isLt]
  simp [Nat.shiftLeft_eq]

/-- a double of 53 places, with an exponent that fits, is what it was after packing -/
theorem unpack_pack_normal {m : Nat} {e : Int} (hm : 0 < m) (hlog : m.log2 = 52)
    (hlow : -1074 ≤ e) (hhigh : e ≤ 971) :
    (Float.Model.pack (.finite .positive m e hm)).unpack = .finite .positive m e hm := by
  obtain ⟨biased, hbiased⟩ : ∃ b : Nat, (b : Int) = e + 1075 := ⟨(e + 1075).toNat, by omega⟩
  have hexponent : (BitVec.ofNat 11 biased).toNat = biased := by
    rw [BitVec.toNat_ofNat, Nat.mod_eq_of_lt (by omega)]
  have hall : BitVec.ofNat 11 biased ≠ -1#11 := by
    intro h
    have hval := congrArg BitVec.toNat h
    rw [hexponent, show (-1#11).toNat = 2047 from rfl] at hval
    omega
  have hzero : BitVec.ofNat 11 biased ≠ 0#11 := by
    intro h
    have hval := congrArg BitVec.toNat h
    rw [hexponent, show (0#11).toNat = 0 from rfl] at hval
    omega
  have hmantissa : (1#1 ++ BitVec.ofNat 52 m).toNat = m := by
    have hbounds := (Nat.log2_eq_iff (Nat.ne_of_gt hm)).1 hlog
    rw [append_implicit, BitVec.toNat_ofNat]
    omega
  have hpack : UnpackedFloat.pack Format.binary64 (.finite .positive m e hm) =
      packComponents Format.binary64 .positive (BitVec.ofNat 11 biased) (BitVec.ofNat 52 m) := by
    have htoNat : (e + Format.binary64.exponentBias + Format.binary64.mantissaBitsWithoutImplicit).toNat
        = biased := by
      have hbias : (Format.binary64.exponentBias : Int) +
          Format.binary64.mantissaBitsWithoutImplicit = 1075 := by decide
      omega
    simp only [UnpackedFloat.pack]
    rw [htoNat, if_neg (by show ¬ 2 ^ 11 ≤ biased + 1; omega), if_pos (by rw [hlog]; rfl)]
  have hvalue : (BitVec.ofNat 11 biased).toNat -
      ((Format.binary64.exponentBias : Int) + Format.binary64.mantissaBitsWithoutImplicit) = e := by
    rw [hexponent]
    show (biased : Int) - 1075 = e
    omega
  show UnpackedFloat.unpack Format.binary64
    (UInt64.ofBitVec (UnpackedFloat.pack Format.binary64 (.finite .positive m e hm))).toBitVec = _
  rw [hpack]
  simp only [UnpackedFloat.unpack, unpackMantissa_packComponents, unpackExponent_packComponents,
    unpackSign_packComponents, if_neg hall, if_neg hzero, hmantissa, hvalue]
  rfl

/-! ## a count as a double -/

theorem log2_shiftLeft {n : Nat} (hn : 0 < n) (k : Nat) : (n <<< k).log2 = n.log2 + k := by
  have hne : n <<< k ≠ 0 := Nat.ne_of_gt (Nat.shiftLeft_pos_iff.2 hn)
  have hbounds := (Nat.log2_eq_iff (Nat.ne_of_gt hn)).1 rfl
  refine (Nat.log2_eq_iff hne).2 ⟨?_, ?_⟩
  · rw [Nat.shiftLeft_eq, Nat.pow_add]
    exact Nat.mul_le_mul_right _ hbounds.1
  · rw [Nat.shiftLeft_eq, Nat.add_right_comm, Nat.pow_add]
    exact Nat.mul_lt_mul_of_pos_right hbounds.2 (Nat.two_pow_pos k)

theorem shiftToTargetExponent_full {m : Nat} {e : Int} (hlog : m.log2 = 52) (hlow : -1074 ≤ e)
    (acc : Accuracy) : shiftToTargetExponent Format.binary64 m e acc =
      (ExtendedMantissa.ofMantissaAndAccuracy m acc, e) := by
  have htarget : Format.binary64.targetExponent (totalExponent m e) = e := by
    show max ((m.log2 : Int) + 1 + e - 53) (-1074) = e
    omega
  have hshift : (e - e).toNat = 0 := by omega
  simp only [shiftToTargetExponent, shiftToExponent, htarget, hshift]
  exact Prod.ext rfl (Int.add_zero e)

theorem shiftToTargetExponent_over {m : Nat} {e : Int} (hlog : m.log2 = 53) (hlow : -1074 ≤ e)
    (acc : Accuracy) : shiftToTargetExponent Format.binary64 m e acc =
      ((ExtendedMantissa.ofMantissaAndAccuracy m acc).shiftRightOne, e + 1) := by
  have htarget : Format.binary64.targetExponent (totalExponent m e) = e + 1 := by
    show max ((m.log2 : Int) + 1 + e - 53) (-1074) = e + 1
    omega
  have hshift : (e + 1 - e).toNat = 1 := by omega
  simp only [shiftToTargetExponent, shiftToExponent, htarget, hshift]
  rfl

/-- rounding ends with a significand of 53 places -/
theorem roundWithAccuracy_full {m : Nat} {e e₁ : Int} {acc : Accuracy} {em : ExtendedMantissa}
    (hshift : shiftToTargetExponent Format.binary64 m e acc = (em, e₁)) (hlow : -1074 ≤ e₁)
    (hpos : 0 < em.roundedMantissa) (hlog : em.roundedMantissa.log2 = 52) :
    roundWithAccuracy Format.binary64 .positive m e acc =
      .finite .positive em.roundedMantissa e₁ hpos := by
  simp only [roundWithAccuracy, hshift, shiftToTargetExponent_full hlog hlow]
  exact dif_neg (Nat.ne_of_gt hpos)

theorem roundWithAccuracy_over {m : Nat} {e e₁ : Int} {acc : Accuracy} {em : ExtendedMantissa}
    (hshift : shiftToTargetExponent Format.binary64 m e acc = (em, e₁)) (hlow : -1074 ≤ e₁)
    (hover : em.roundedMantissa = 2 ^ 53) :
    roundWithAccuracy Format.binary64 .positive m e acc =
      .finite .positive (2 ^ 52) (e₁ + 1) (Nat.two_pow_pos 52) := by
  have hlog : (2 ^ 53 : Nat).log2 = 53 := Nat.log2_two_pow
  simp only [roundWithAccuracy, hshift, hover, shiftToTargetExponent_over hlog hlow]
  rfl

def significand (n : Nat) : Nat := n <<< (52 - n.log2)

section
variable {n : Nat} (hn : 0 < n)
include hn

theorem significand_pos : 0 < significand n := Nat.shiftLeft_pos_iff.2 hn

theorem log2_significand (hlt : n < 2 ^ 53) : (significand n).log2 = 52 := by
  have hlog : n.log2 < 53 := (Nat.log2_lt (Nat.ne_of_gt hn)).2 hlt
  rw [significand, log2_shiftLeft hn]
  omega

theorem significand_bounds (hlt : n < 2 ^ 53) :
    2 ^ 52 ≤ significand n ∧ significand n < 2 ^ 53 :=
  (Nat.log2_eq_iff (Nat.ne_of_gt (significand_pos hn))).1 (log2_significand hn hlt)

theorem significand_mul (hlt : n < 2 ^ 53) :
    (significand n : ℚ) * 2 ^ ((n.log2 : Int) - 52) = n := by
  have hlog : n.log2 < 53 := (Nat.log2_lt (Nat.ne_of_gt hn)).2 hlt
  have hexponent : (n.log2 : Int) - 52 = -((52 - n.log2 : Nat) : Int) := by omega
  rw [significand, Nat.shiftLeft_eq, hexponent, zpow_neg, zpow_natCast, Nat.cast_mul, Nat.cast_pow]
  exact mul_inv_cancel_right₀ (pow_ne_zero _ two_ne_zero) _

theorem unpack_ofNat (hlt : n < 2 ^ 53) : (Float.Model.ofNat n).unpack =
    .finite .positive (significand n) ((n.log2 : Int) - 52) (significand_pos hn) := by
  have hlog : n.log2 < 53 := (Nat.log2_lt (Nat.ne_of_gt hn)).2 hlt
  have hfull : (significand n).log2 = 52 := log2_significand hn hlt
  have htarget : Format.binary64.targetExponent (totalExponent n 0) = (n.log2 : Int) - 52 := by
    show max ((n.log2 : Int) + 1 + 0 - 53) (-1074) = (n.log2 : Int) - 52
    omega
  have hshift : (0 - ((n.log2 : Int) - 52)).toNat = 52 - n.log2 := by omega
  have hexponent : (0 : Int) - (52 - n.log2 : Nat) = (n.log2 : Int) - 52 := by omega
  have hround : UnpackedFloat.round Format.binary64 .positive n 0 =
      .finite .positive (significand n) ((n.log2 : Int) - 52) (significand_pos hn) := by
    have hlow : -1074 ≤ (n.log2 : Int) - 52 := by omega
    simp only [UnpackedFloat.round, htarget, decreaseExponent, hshift, hexponent]
    exact roundWithAccuracy_full (shiftToTargetExponent_full hfull hlow .exact) hlow _ hfull
  have hnormalize : UnpackedFloat.ofNat Format.binary64 n =
      UnpackedFloat.round Format.binary64 .positive n 0 := by
    show UnpackedFloat.normalize Format.binary64 (n : Int) 0 .positive = _
    rw [UnpackedFloat.normalize, Int.compare_eq_gt.2 (by omega)]
    rfl
  rw [Float.Model.ofNat, hnormalize, hround]
  exact unpack_pack_normal _ hfull (by omega) (by omega)

end

/-! ## division -/

theorem roundedMantissa_near (em : ExtendedMantissa) :
    em.mantissa ≤ em.roundedMantissa ∧ em.roundedMantissa ≤ em.mantissa + 1 := by
  obtain ⟨m, roundBit, stickyBit⟩ := em
  cases roundBit <;> cases stickyBit <;>
    simp only [ExtendedMantissa.roundedMantissa, ExtendedMantissa.accuracy,
      Accuracy.roundToNearestEven] <;> omega

theorem mantissa_ofMantissaAndAccuracy (m : Nat) (acc : Accuracy) :
    (ExtendedMantissa.ofMantissaAndAccuracy m acc).mantissa = m := by
  obtain _ | relative := acc
  · rfl
  · cases relative <;> rfl

/-- A significand of 53 or 54 places is rounded to one of the doubles next to it. -/
theorem roundWithAccuracy_near {q : Nat} {e : Int} (hlow : 2 ^ 52 ≤ q) (hhigh : q < 2 ^ 54)
    (he : -1074 ≤ e) (acc : Accuracy) :
    ∃ m k hm, roundWithAccuracy Format.binary64 .positive q e acc =
        .finite .positive m (e + (k : Nat)) hm ∧ 2 ^ 52 ≤ m ∧ m < 2 ^ 53 ∧ k ≤ 2 ∧
      m * 2 ^ k ≤ q + 2 ^ k ∧ q < m * 2 ^ k + 2 ^ k := by
  -- what is left after the first shift by `j` places, and how it is rounded
  obtain ⟨em, j, hshift, hj, hem⟩ : ∃ em j, shiftToTargetExponent Format.binary64 q e acc =
      (em, e + (j : Nat)) ∧ (j = 0 ∧ q < 2 ^ 53 ∨ j = 1 ∧ 2 ^ 53 ≤ q) ∧ em.mantissa = q / 2 ^ j := by
    have hne : q ≠ 0 := by omega
    by_cases hq : q < 2 ^ 53
    · have hlog : q.log2 = 52 := (Nat.log2_eq_iff hne).2 ⟨hlow, hq⟩
      have hzero : e + ((0 : Nat) : Int) = e := Int.add_zero e
      refine ⟨ExtendedMantissa.ofMantissaAndAccuracy q acc, 0, ?_, .inl ⟨rfl, hq⟩, ?_⟩
      · rw [hzero]
        exact shiftToTargetExponent_full hlog he acc
      · rw [mantissa_ofMantissaAndAccuracy, Nat.pow_zero, Nat.div_one]
    · have hlog : q.log2 = 53 := (Nat.log2_eq_iff hne).2 ⟨Nat.le_of_not_lt hq, hhigh⟩
      refine ⟨_, 1, shiftToTargetExponent_over hlog he acc, .inr ⟨rfl, Nat.le_of_not_lt hq⟩, ?_⟩
      show (ExtendedMantissa.ofMantissaAndAccuracy q acc).mantissa / 2 = q / 2 ^ 1
      rw [mantissa_ofMantissaAndAccuracy, Nat.pow_one]
  obtain ⟨hle, hge⟩ := roundedMantissa_near em
  have hfirst : 2 ^ 52 ≤ em.roundedMantissa ∧ em.roundedMantissa ≤ 2 ^ 53 ∧
      em.roundedMantissa * 2 ^ j ≤ q + 2 ^ j ∧ q < em.roundedMantissa * 2 ^ j + 2 ^ j := by
    rw [hem] at hle hge
    rcases hj with ⟨rfl, hq⟩ | ⟨rfl, hq⟩ <;> omega
  have hnext : -1074 ≤ e + (j : Nat) := by omega
  by_cases hcarry : em.roundedMantissa = 2 ^ 53
  · refine ⟨2 ^ 52, j + 1, Nat.two_pow_pos 52, ?_, Nat.le_refl _, by decide, by omega, ?_⟩
    · rw [roundWithAccuracy_over hshift hnext hcarry]
      congr 1
      omega
    · rw [hcarry] at hfirst
      rw [Nat.pow_succ]
      omega
  · have hpos : 0 < em.roundedMantissa := by omega
    have hlog : em.roundedMantissa.log2 = 52 :=
      (Nat.log2_eq_iff (Nat.ne_of_gt hpos)).2 ⟨hfirst.1, by omega⟩
    exact ⟨em.roundedMantissa, j, hpos, roundWithAccuracy_full hshift hnext hpos hlog, hfirst.1,
      by omega, by omega, hfirst.2.2⟩

theorem divCore_full {m₁ m₂ : Nat} {e₁ e₂ : Int} (h₁ : m₁.log2 = 52) (h₂ : m₂.log2 = 52)
    (hlow : -1021 ≤ e₁ - e₂) : divCore Format.binary64 m₁ e₁ m₂ e₂ =
      ((m₁ <<< 53) / m₂, e₁ - e₂ - 53, accuracyOfFraction ((m₁ <<< 53) % m₂) m₂) := by
  have htarget : min (e₁ - e₂) (Format.binary64.targetExponent
      (totalExponent m₁ e₁ - totalExponent m₂ e₂)) = e₁ - e₂ - 53 := by
    show min (e₁ - e₂) (max ((m₁.log2 : Int) + 1 + e₁ - ((m₂.log2 : Int) + 1 + e₂) - 53) (-1074)) = _
    omega
  have hshift : (e₁ - e₂ - (e₁ - e₂ - 53)).toNat = 53 := by omega
  simp only [divCore, htarget, hshift]

/-- a rounded quotient of `x` by `y` is off by no more than one at its last place -/
theorem place_bounds {x y q m k : Nat} (hdiv : q * y ≤ x) (hdiv' : x < (q + 1) * y)
    (hle : m * 2 ^ k ≤ q + 2 ^ k) (hge : q < m * 2 ^ k + 2 ^ k) :
    m * (2 ^ k * y) ≤ x + 2 ^ k * y ∧ x ≤ m * (2 ^ k * y) + 2 ^ k * y := by
  constructor
  · calc m * (2 ^ k * y) = m * 2 ^ k * y := (Nat.mul_assoc ..).symm
      _ ≤ (q + 2 ^ k) * y := Nat.mul_le_mul_right _ hle
      _ = q * y + 2 ^ k * y := Nat.add_mul ..
      _ ≤ x + 2 ^ k * y := Nat.add_le_add_right hdiv _
  · calc x ≤ (q + 1) * y := Nat.le_of_lt hdiv'
      _ ≤ (m * 2 ^ k + 2 ^ k) * y := Nat.mul_le_mul_right _ hge
      _ = m * (2 ^ k * y) + 2 ^ k * y := by rw [Nat.add_mul, Nat.mul_assoc]

section
variable {a d : Nat} (ha : 0 < a) (hlt : a < 2 ^ 53) (hd : 0 < d) (hlt' : d < 2 ^ 53)
include ha hlt hd hlt'

theorem value_bounds {m k : Nat} {e : Int}
    (he : (a.log2 : Int) - 52 - ((d.log2 : Int) - 52) - 53 = e)
    (h : m * (2 ^ k * significand d) ≤ significand a * 2 ^ 53 + 2 ^ k * significand d ∧
      significand a * 2 ^ 53 ≤ m * (2 ^ k * significand d) + 2 ^ k * significand d) :
    (m : ℚ) * 2 ^ (e + k) * d ≤ a + 2 ^ (e + k) * d ∧
      (a : ℚ) ≤ m * 2 ^ (e + k) * d + 2 ^ (e + k) * d := by
  -- the scale of what is divided
  obtain ⟨c, hc⟩ : ∃ c : ℚ, 2 ^ ((a.log2 : Int) - 105) = c := ⟨_, rfl⟩
  have hcpos : 0 < c := hc ▸ zpow_pos two_pos _
  have hvalue : (a : ℚ) = (significand a * 2 ^ 53 : Nat) * c := by
    rw [← significand_mul ha hlt, ← hc, Nat.cast_mul, mul_assoc, Nat.cast_pow, Nat.cast_ofNat,
      ← zpow_natCast, ← zpow_add₀ two_ne_zero]
    congr 2
    push_cast
    omega
  have hplace : (2 : ℚ) ^ (e + k) * d = (2 ^ k * significand d : Nat) * c := by
    rw [← significand_mul hd hlt', ← hc, Nat.cast_mul, Nat.cast_pow, Nat.cast_ofNat, ← zpow_natCast,
      mul_comm (significand d : ℚ), ← mul_assoc, ← zpow_add₀ two_ne_zero, mul_right_comm,
      ← zpow_add₀ two_ne_zero]
    congr 2
    omega
  rw [mul_assoc, hplace, hvalue, ← mul_assoc, ← Nat.cast_mul, ← add_mul, ← add_mul, ← Nat.cast_add,
    ← Nat.cast_add]
  exact ⟨mul_le_mul_of_nonneg_right (Nat.cast_le.2 h.1) hcpos.le,
    mul_le_mul_of_nonneg_right (Nat.cast_le.2 h.2) hcpos.le⟩

/-- **The quotient of two counts** is a double with all its 53 places, off by no more than one at the
last of them. -/
theorem unpack_div : ∃ m e hm, (Float.Model.ofNat a / Float.Model.ofNat d).unpack =
      .finite .positive m e hm ∧ 2 ^ 52 ≤ m ∧ m < 2 ^ 53 ∧
      (m : ℚ) * 2 ^ e * d ≤ a + 2 ^ e * d ∧ (a : ℚ) ≤ m * 2 ^ e * d + 2 ^ e * d := by
  obtain ⟨hlow₁, hhigh₁⟩ := significand_bounds ha hlt
  obtain ⟨hlow₂, hhigh₂⟩ := significand_bounds hd hlt'
  have hlog₁ : a.log2 < 53 := (Nat.log2_lt (Nat.ne_of_gt ha)).2 hlt
  have hlog₂ : d.log2 < 53 := (Nat.log2_lt (Nat.ne_of_gt hd)).2 hlt'
  obtain ⟨e, he⟩ : ∃ e : Int, (a.log2 : Int) - 52 - ((d.log2 : Int) - 52) - 53 = e := ⟨_, rfl⟩
  have hpos₂ : 0 < significand d := significand_pos hd
  have hcore := divCore_full (log2_significand ha hlt) (log2_significand hd hlt')
    (by omega : -1021 ≤ (a.log2 : Int) - 52 - ((d.log2 : Int) - 52))
  rw [he, Nat.shiftLeft_eq] at hcore
  -- the quotient of the significands
  obtain ⟨q, hq⟩ : ∃ q, significand a * 2 ^ 53 / significand d = q := ⟨_, rfl⟩
  rw [hq] at hcore
  have hdiv : q * significand d ≤ significand a * 2 ^ 53 := hq ▸ Nat.div_mul_le_self _ _
  have hdiv' : significand a * 2 ^ 53 < (q + 1) * significand d :=
    (Nat.div_lt_iff_lt_mul hpos₂).1 (hq ▸ Nat.lt_succ_self _)
  have hqlow : 2 ^ 52 ≤ q := by
    rw [← hq, Nat.le_div_iff_mul_le hpos₂]
    omega
  have hqhigh : q < 2 ^ 54 := by
    rw [← hq, Nat.div_lt_iff_lt_mul hpos₂]
    omega
  obtain ⟨m, k, hm, hround, hmlow, hmhigh, hk, hle, hge⟩ := roundWithAccuracy_near hqlow hqhigh
    (by omega : -1074 ≤ e) (accuracyOfFraction (significand a * 2 ^ 53 % significand d) (significand d))
  have hfull : m.log2 = 52 := (Nat.log2_eq_iff (Nat.ne_of_gt hm)).2 ⟨hmlow, hmhigh⟩
  have hquotient : UnpackedFloat.div Format.binary64 (Float.Model.ofNat a).unpack
      (Float.Model.ofNat d).unpack = .finite .positive m (e + (k : Nat)) hm := by
    rw [unpack_ofNat ha hlt, unpack_ofNat hd hlt']
    simp only [UnpackedFloat.div, hcore]
    exact hround
  refine ⟨m, e + k, hm, ?_, hmlow, hmhigh,
    value_bounds ha hlt hd hlt' he (place_bounds hdiv hdiv' hle hge)⟩
  show (Float.Model.pack (UnpackedFloat.div Format.binary64 (Float.Model.ofNat a).unpack
    (Float.Model.ofNat d).unpack)).unpack = _
  rw [hquotient]
  exact unpack_pack_normal hm hfull (by omega) (by omega)

end

/-! ## the order of doubles -/

theorem lt_of_value_lt {x y : Float.Model} {m n : Nat} {e f : Int} {hm : 0 < m} {hn : 0 < n}
    (hx : x.unpack = .finite .positive m e hm) (hy : y.unpack = .finite .positive n f hn)
    (hlow : 2 ^ 52 ≤ m) (hhigh : n < 2 ^ 53) (hlt : (m : ℚ) * 2 ^ e < n * 2 ^ f) :
    x.lt y = true := by
  have hcompare : compare e f = .lt ∨ e = f ∧ m < n := by
    rcases lt_trichotomy e f with hef | rfl | hef
    · exact .inl (Int.compare_eq_lt.2 hef)
    · exact .inr ⟨rfl, Nat.cast_lt.1 (lt_of_mul_lt_mul_right hlt (zpow_pos two_pos e).le)⟩
    · -- a greater exponent is worth more than any significand
      exfalso
      have hstep : (2 : ℚ) ^ f * 2 ≤ 2 ^ e := by
        rw [← zpow_add_one₀ two_ne_zero]
        exact zpow_le_zpow_right₀ one_le_two hef
      have hm' : (2 : ℚ) ^ 52 ≤ m := by exact_mod_cast hlow
      have hn' : (n : ℚ) ≤ 2 ^ 53 := by exact_mod_cast hhigh.le
      have hpos : (0 : ℚ) < 2 ^ f := zpow_pos two_pos f
      have hfirst : (n : ℚ) * 2 ^ f ≤ 2 ^ 53 * 2 ^ f := mul_le_mul_of_nonneg_right hn' hpos.le
      have hsecond : (2 : ℚ) ^ 52 * (2 ^ f * 2) ≤ m * 2 ^ e :=
        mul_le_mul hm' hstep (by positivity) (Nat.cast_nonneg m)
      linarith
  show UnpackedFloat.lt x.unpack y.unpack = true
  rw [hx, hy]
  show (some ((compare e f).then (compare m n)) == some Ordering.lt) = true
  rcases hcompare with h | ⟨rfl, h⟩
  · rw [h]
    rfl
  · rw [Int.compare_eq_eq.2 rfl, Nat.compare_eq_lt.2 h]
    rfl

theorem le_of_lt_model {x y : Float.Model} (h : x < y) : x ≤ y := by
  have hcompare : x.unpack.compare y.unpack = some .lt := eq_of_beq h
  show (x.unpack.compare y.unpack).any (·.isLE) = true
  rw [hcompare]
  rfl

theorem le_self_model {x : Float.Model} {m : Nat} {e : Int} {hm : 0 < m}
    (hx : x.unpack = .finite .positive m e hm) : x ≤ x := by
  show (x.unpack.compare x.unpack).any (·.isLE) = true
  rw [hx]
  show ((compare e e).then (compare m m)).isLE = true
  rw [Int.compare_eq_eq.2 rfl, Nat.compare_eq_eq.2 rfl]
  rfl

theorem ofUInt64_ofNat {n : Nat} (hn : n < 2 ^ 53) :
    Float.Model.ofUInt64 (UInt64.ofNat n) = Float.Model.ofNat n := by
  have hsize : n < UInt64.size := by
    have hval : UInt64.size = 18446744073709551616 := rfl
    omega
  exact congrArg Float.Model.ofNat (UInt64.toNat_ofNat_of_lt' hsize)

section
variable {a b d : Nat} (ha : 0 < a) (hb : b < 2 ^ 50) (hd : 0 < d) (hd' : d < 2 ^ 53)
include ha hb hd hd'

/-- the doubles next to the quotients lie closer than two counts do -/
theorem ofNat_div_lt (hab : a < b) :
    Float.Model.ofNat a / Float.Model.ofNat d < Float.Model.ofNat b / Float.Model.ofNat d := by
  obtain ⟨m, e, hm, hx, hmlow, -, hupper, -⟩ := unpack_div ha (by omega : a < 2 ^ 53) hd hd'
  obtain ⟨n, f, hn, hy, hnlow, hnhigh, -, hlower⟩ :=
    unpack_div (by omega : 0 < b) (by omega : b < 2 ^ 53) hd hd'
  have hplaces : (2 : ℚ) ^ 52 * (2 ^ e * d) ≤ m * 2 ^ e * d := by
    rw [← mul_assoc]
    gcongr
    exact_mod_cast hmlow
  have hplaces' : (2 : ℚ) ^ 52 * (2 ^ f * d) ≤ n * 2 ^ f * d := by
    rw [← mul_assoc]
    gcongr
    exact_mod_cast hnlow
  have hgap : (a : ℚ) + 1 ≤ b := by exact_mod_cast hab
  have hbound : (b : ℚ) < 2 ^ 50 := by exact_mod_cast hb
  have hvalue : (m : ℚ) * 2 ^ e < n * 2 ^ f := by
    refine lt_of_mul_lt_mul_right (a := (d : ℚ)) ?_ (Nat.cast_nonneg d)
    linarith
  exact lt_of_value_lt hx hy hmlow hnhigh hvalue

/-- **Quotients by the same count are in the order of the counts.** -/
theorem toFloat_div_lt (hab : a < b) :
    (UInt64.ofNat a).toFloat / (UInt64.ofNat d).toFloat <
      (UInt64.ofNat b).toFloat / (UInt64.ofNat d).toFloat := by
  have hmodels := ofNat_div_lt ha hb hd hd' hab
  rw [← ofUInt64_ofNat (by omega : a < 2 ^ 53), ← ofUInt64_ofNat (by omega : b < 2 ^ 53),
    ← ofUInt64_ofNat hd'] at hmodels
  exact decide_eq_true hmodels

theorem toFloat_div_le (hab : a ≤ b) :
    (UInt64.ofNat a).toFloat / (UInt64.ofNat d).toFloat ≤
      (UInt64.ofNat b).toFloat / (UInt64.ofNat d).toFloat := by
  have hmodels : Float.Model.ofNat a / Float.Model.ofNat d ≤
      Float.Model.ofNat b / Float.Model.ofNat d := by
    rcases Nat.lt_or_eq_of_le hab with hlt | rfl
    · exact le_of_lt_model (ofNat_div_lt ha hb hd hd' hlt)
    · obtain ⟨m, e, hm, hx, -⟩ := unpack_div ha (by omega : a < 2 ^ 53) hd hd'
      exact le_self_model hx
  rw [← ofUInt64_ofNat (by omega : a < 2 ^ 53), ← ofUInt64_ofNat (by omega : b < 2 ^ 53),
    ← ofUInt64_ofNat hd'] at hmodels
  exact decide_eq_true hmodels

end

end LoadTest.Decimal
