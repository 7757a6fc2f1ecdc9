import Mathlib.Algebra.BigOperators.Group.List.Basic
import Mathlib.Algebra.GroupWithZero.Nat
import LoadTest.Plan

/-!
# The plans that a run accepts

The counts of a plan are sums and products; the checked counts are these numbers whenever they fit
in 64 bits.

* `Plan.perUser`, `Plan.perAgent`   the exact counts of invocations
* `Plan.Accepted`                   nothing is empty or zero, and the total fits
* `Plan.make_eq_ok_iff`             exactly these plans are made
* `Accepted.invocationsPerAgent`, `Accepted.expectedTotal`   the checked counts are exact
-/

namespace LoadTest.Plan

/-! ## checked sums -/

theorem counted_eq_ok_iff {n m : Nat} : counted n = .ok m ↔ n = m ∧ n < UInt64.size := by
  unfold counted
  by_cases h : n < UInt64.size
  · rw [if_pos h]
    simp [h]
  · rw [if_neg h]
    simp [h]

theorem countedSum_eq_ok_iff {l : List Nat} {acc n : Nat} (hacc : acc < UInt64.size) :
    countedSum acc l = .ok n ↔ acc + l.sum = n ∧ acc + l.sum < UInt64.size := by
  induction l generalizing acc with
  | nil => simp [countedSum, hacc]
  | cons a l ih =>
    rw [countedSum, List.sum_cons, ← Nat.add_assoc]
    by_cases h : acc + a < UInt64.size
    · rw [counted_eq_ok_iff.2 ⟨rfl, h⟩]
      exact ih h
    · rw [counted, if_neg h]
      simp only [reduceCtorEq, false_iff, not_and]
      intro
      omega

theorem countedProducts_cons (factor acc a : Nat) (l : List Nat) :
    countedProducts factor acc (a :: l) =
      (counted (a * factor)).bind fun product =>
        (counted (acc + product)).bind fun acc => countedProducts factor acc l := by
  rw [countedProducts]
  cases counted (a * factor) with
  | error e => rfl
  | ok product => cases h : counted (acc + product) <;> simp [Except.bind, h]

theorem countedProducts_eq_ok_iff {l : List Nat} {factor acc n : Nat} (hacc : acc < UInt64.size) :
    countedProducts factor acc l = .ok n ↔
      acc + l.sum * factor = n ∧ acc + l.sum * factor < UInt64.size := by
  induction l generalizing acc with
  | nil => simp [countedProducts, hacc]
  | cons a l ih =>
    rw [countedProducts_cons, List.sum_cons, Nat.add_mul, ← Nat.add_assoc]
    by_cases h : acc + a * factor < UInt64.size
    · have ha : a * factor < UInt64.size := by omega
      rw [counted_eq_ok_iff.2 ⟨rfl, ha⟩]
      show (counted (acc + a * factor)).bind _ = _ ↔ _
      rw [counted_eq_ok_iff.2 ⟨rfl, h⟩]
      exact ih h
    · have hfail : ∀ m, counted (acc + a * factor) ≠ .ok m := fun m hm =>
        h (counted_eq_ok_iff.1 hm).2
      have hfalse : ¬ (acc + a * factor + l.sum * factor < UInt64.size) := by omega
      simp only [hfalse, and_false, iff_false]
      cases hp : counted (a * factor) with
      | error e => exact nofun
      | ok product =>
        obtain ⟨rfl, _⟩ := counted_eq_ok_iff.1 hp
        show ¬ (counted (acc + a * factor)).bind _ = _
        cases hs : counted (acc + a * factor) with
        | error e => exact nofun
        | ok m => exact absurd hs (hfail m)

/-! ## counts -/

def perUser (p : Plan) : Nat := (p.cycles.map UInt64.toNat).sum

def perAgent (p : Plan) : Nat := (p.users.map UInt64.toNat).sum * p.perUser

theorem invocationsPerAgent_eq_ok_iff {p : Plan} {n : Nat} :
    p.invocationsPerAgent = .ok n ↔
      p.perUser < UInt64.size ∧ p.perAgent = n ∧ p.perAgent < UInt64.size := by
  have hsum : ∀ m, countedSum 0 (p.cycles.map UInt64.toNat) = .ok m ↔
      p.perUser = m ∧ p.perUser < UInt64.size := fun m => by
    rw [countedSum_eq_ok_iff (by decide), Nat.zero_add]
    rfl
  unfold invocationsPerAgent
  by_cases h : p.perUser < UInt64.size
  · rw [(hsum _).2 ⟨rfl, h⟩]
    show countedProducts _ _ _ = _ ↔ _
    rw [countedProducts_eq_ok_iff (by decide), Nat.zero_add]
    exact ⟨fun hn => ⟨h, hn⟩, fun hn => hn.2⟩
  · cases hm : countedSum 0 (p.cycles.map UInt64.toNat) with
    | ok m => exact absurd ((hsum m).1 hm).2 h
    | error e => simp [h]

theorem expectedTotal_eq_ok_iff {p : Plan} {n : Nat} :
    p.expectedTotal = .ok n ↔ p.perUser < UInt64.size ∧ p.perAgent < UInt64.size ∧
      p.perAgent * p.agentCount = n ∧ p.perAgent * p.agentCount < UInt64.size := by
  unfold expectedTotal
  cases h : p.invocationsPerAgent with
  | ok m =>
    obtain ⟨hu, rfl, ha⟩ := invocationsPerAgent_eq_ok_iff.1 h
    show counted _ = _ ↔ _
    rw [counted_eq_ok_iff]
    exact ⟨fun hn => ⟨hu, ha, hn⟩, fun hn => hn.2.2⟩
  | error e =>
    have hno : ∀ m, p.invocationsPerAgent ≠ .ok m := fun m => by rw [h]; simp
    simp only [reduceCtorEq, false_iff, not_and]
    intro hu ha
    exact absurd (invocationsPerAgent_eq_ok_iff.2 ⟨hu, rfl, ha⟩) (hno _)

/-! ### counts that do not fit -/

theorem counted_error {n : Nat} {e : Error} (h : counted n = .error e) : e = .planOverflow := by
  unfold counted at h
  split at h
  · cases h
  · exact (Except.error.inj h).symm

theorem countedSum_error {l : List Nat} {acc : Nat} {e : Error}
    (h : countedSum acc l = .error e) : e = .planOverflow := by
  induction l generalizing acc with
  | nil => cases h
  | cons a l ih =>
    rw [countedSum] at h
    cases hacc : counted (acc + a) with
    | ok acc' =>
      rw [hacc] at h
      exact ih h
    | error e' =>
      rw [hacc] at h
      exact Except.error.inj h ▸ counted_error hacc

theorem countedProducts_error {l : List Nat} {factor acc : Nat} {e : Error}
    (h : countedProducts factor acc l = .error e) : e = .planOverflow := by
  induction l generalizing acc with
  | nil => cases h
  | cons a l ih =>
    rw [countedProducts_cons] at h
    cases hproduct : counted (a * factor) with
    | error e' =>
      rw [hproduct] at h
      exact Except.error.inj h ▸ counted_error hproduct
    | ok product =>
      rw [hproduct] at h
      change (counted (acc + product)).bind _ = _ at h
      cases hacc : counted (acc + product) with
      | error e' =>
        rw [hacc] at h
        exact Except.error.inj h ▸ counted_error hacc
      | ok acc' =>
        rw [hacc] at h
        exact ih h

theorem invocationsPerAgent_error {p : Plan} {e : Error} (h : p.invocationsPerAgent = .error e) :
    e = .planOverflow := by
  unfold Plan.invocationsPerAgent at h
  split at h
  · exact countedProducts_error h
  · next hsum => exact Except.error.inj h ▸ countedSum_error hsum

theorem expectedTotal_error {p : Plan} {e : Error} (h : p.expectedTotal = .error e) :
    e = .planOverflow := by
  unfold Plan.expectedTotal at h
  split at h
  · exact counted_error h
  · next hagent => exact Except.error.inj h ▸ invocationsPerAgent_error hagent

/-! ## accepted plans -/

/-- Each user has something to do, each agent has, and all of it can be counted. -/
structure Accepted (p : Plan) : Prop where
  users_ne_nil : p.users ≠ []
  users_pos : 0 ∉ p.users
  cycles_ne_nil : p.cycles ≠ []
  cycles_pos : 0 ∉ p.cycles
  agents_pos : p.agents ≠ some 0
  fits : p.perAgent * p.agentCount < UInt64.size

private theorem sum_pos_of_zero_notMem {l : List UInt64} (hne : l ≠ []) (hpos : 0 ∉ l) :
    0 < (l.map UInt64.toNat).sum := by
  cases l with
  | nil => exact absurd rfl hne
  | cons a l =>
    have ha : a ≠ 0 := fun h => hpos (h ▸ List.mem_cons_self)
    have : 0 < a.toNat := Nat.pos_of_ne_zero fun h => ha (UInt64.toNat_inj.1 h)
    rw [List.map_cons, List.sum_cons]
    omega

namespace Accepted
variable {p : Plan} (h : p.Accepted)
include h

theorem perUser_pos : 0 < p.perUser := sum_pos_of_zero_notMem h.cycles_ne_nil h.cycles_pos

theorem perAgent_pos : 0 < p.perAgent :=
  Nat.mul_pos (sum_pos_of_zero_notMem h.users_ne_nil h.users_pos) h.perUser_pos

theorem agentCount_pos : 0 < p.agentCount := by
  unfold agentCount
  cases ha : p.agents with
  | none => decide
  | some a =>
    have : a ≠ 0 := fun h0 => h.agents_pos (by rw [ha, h0])
    exact Nat.pos_of_ne_zero fun h0 => this (UInt64.toNat_inj.1 h0)

theorem perAgent_lt : p.perAgent < UInt64.size :=
  Nat.lt_of_le_of_lt (Nat.le_mul_of_pos_right _ h.agentCount_pos) h.fits

theorem perUser_lt : p.perUser < UInt64.size :=
  Nat.lt_of_le_of_lt
    (Nat.le_mul_of_pos_left _ (sum_pos_of_zero_notMem h.users_ne_nil h.users_pos)) h.perAgent_lt

theorem invocationsPerAgent : p.invocationsPerAgent = .ok p.perAgent :=
  invocationsPerAgent_eq_ok_iff.2 ⟨h.perUser_lt, rfl, h.perAgent_lt⟩

theorem expectedTotal : p.expectedTotal = .ok (p.perAgent * p.agentCount) :=
  expectedTotal_eq_ok_iff.2 ⟨h.perUser_lt, h.perAgent_lt, rfl, h.fits⟩

theorem forSingleAgent : p.forSingleAgent.Accepted where
  users_ne_nil := h.users_ne_nil
  users_pos := h.users_pos
  cycles_ne_nil := h.cycles_ne_nil
  cycles_pos := h.cycles_pos
  agents_pos := by simp [Plan.forSingleAgent]
  fits := by
    show p.perAgent * 1 < UInt64.size
    rw [Nat.mul_one]
    exact h.perAgent_lt

end Accepted

/-- **The plans that are made.** A plan keeps the values it is made of. -/
theorem make_eq_ok_iff {users cycles : List UInt64} {agents : Option UInt64} {p : Plan} :
    make users cycles agents = .ok p ↔ p = ⟨users, cycles, agents⟩ ∧ p.Accepted := by
  unfold make
  by_cases hu : users = [] ∨ 0 ∈ users
  · rw [if_pos hu]
    simp only [reduceCtorEq, false_iff, not_and]
    rintro rfl h
    exact hu.elim h.users_ne_nil h.users_pos
  rw [if_neg hu]
  by_cases hc : cycles = [] ∨ 0 ∈ cycles
  · rw [if_pos hc]
    simp only [reduceCtorEq, false_iff, not_and]
    rintro rfl h
    exact hc.elim h.cycles_ne_nil h.cycles_pos
  rw [if_neg hc]
  by_cases ha : agents = some 0
  · rw [if_pos ha]
    simp only [reduceCtorEq, false_iff, not_and]
    rintro rfl h
    exact h.agents_pos ha
  rw [if_neg ha]
  push Not at hu hc
  cases ht : expectedTotal ⟨users, cycles, agents⟩ with
  | ok n =>
    obtain ⟨_, _, _, hfits⟩ := expectedTotal_eq_ok_iff.1 ht
    constructor
    · rintro hp
      obtain rfl := Except.ok.inj hp
      exact ⟨rfl, hu.1, hu.2, hc.1, hc.2, ha, hfits⟩
    · rintro ⟨rfl, _⟩
      rfl
  | error e =>
    simp only [reduceCtorEq, false_iff, not_and]
    rintro rfl h
    rw [h.expectedTotal] at ht
    cases ht

end LoadTest.Plan
