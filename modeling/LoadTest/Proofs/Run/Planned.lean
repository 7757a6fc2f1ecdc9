import Mathlib.Algebra.BigOperators.Ring.List
import Mathlib.Algebra.Ring.Nat
import Mathlib.Data.List.Nodup
import Mathlib.Data.List.TakeWhile
import LoadTest.Proofs.Plan.Accepted
import LoadTest.Run.Schedule

/-!
# The planned invocations

* `Plan.planned`          the slots of all users of all tiers
* `Plan.mem_planned`      what is planned, said by the entries of the plan
* `Plan.mem_tierSlots`, `Plan.pairwise_tier_planned`   tier by tier, in order
* `Plan.nodup_planned`    nothing is planned twice
* `Plan.length_planned`   as much is planned as is counted
* `Plan.prefix_planned_roomy`, `Plan.perAgent_roomy_lt`   what stands before a tier without room
-/

namespace LoadTest

/-! ## numbering from one -/

theorem toNat_ofNat_succ {n : UInt64} {i : Nat} (h : i < n.toNat) :
    (UInt64.ofNat (i + 1)).toNat = i + 1 := by
  rw [UInt64.toNat_ofNat']
  exact Nat.mod_eq_of_lt (by have := n.toNat_lt; omega)

theorem mem_usersOf {n u : UInt64} : u ∈ usersOf n ↔ 1 ≤ u ∧ u ≤ n := by
  simp only [usersOf, List.mem_map, List.mem_range, UInt64.le_iff_toNat_le, UInt64.toNat_one]
  constructor
  · rintro ⟨i, hi, rfl⟩
    rw [toNat_ofNat_succ hi]
    omega
  · rintro ⟨h₁, h₂⟩
    refine ⟨u.toNat - 1, by omega, UInt64.toNat_inj.1 ?_⟩
    rw [toNat_ofNat_succ (n := n) (by omega)]
    omega

theorem one_mem_usersOf {n : UInt64} (hn : n ≠ 0) : 1 ∈ usersOf n := by
  have hpos : n.toNat ≠ 0 := fun h => hn (UInt64.toNat_inj.1 h)
  rw [mem_usersOf, UInt64.le_iff_toNat_le, UInt64.le_iff_toNat_le, UInt64.toNat_one]
  omega

theorem nodup_usersOf (n : UInt64) : (usersOf n).Nodup := by
  refine List.Nodup.map_on (fun i hi j hj h => ?_) List.nodup_range
  have h := congrArg UInt64.toNat h
  rw [toNat_ofNat_succ (List.mem_range.1 hi), toNat_ofNat_succ (List.mem_range.1 hj)] at h
  omega

theorem length_usersOf (n : UInt64) : (usersOf n).length = n.toNat := by simp [usersOf]

/-! ## the slots of one user -/

theorem map_zipIdx_fst {α β : Type} (f : α → β) (l : List α) (n : Nat) :
    (l.zipIdx n).map (fun x => f x.1) = l.map f := by
  have hfst := congrArg (List.map f) (List.zipIdx_map_fst n l)
  rwa [List.map_map] at hfst

theorem stageSlots_eq (tier : Nat) (size user : UInt64) (stage : Nat) (cycle : UInt64) :
    stageSlots tier size user stage cycle =
      (usersOf cycle).map fun k => ⟨tier, stage, ⟨k, user, cycle, size⟩⟩ := by
  simp [stageSlots, usersOf]

/-- Lists that carry the tag of what they come from do not meet. -/
theorem nodup_flatMap_of_tag {α β γ : Type} {l : List α} {f : α → List β} (key : α → γ)
    (tag : β → γ) (hkeys : (l.map key).Nodup) (hf : ∀ a ∈ l, (f a).Nodup)
    (htag : ∀ a ∈ l, ∀ b ∈ f a, tag b = key a) : (l.flatMap f).Nodup := by
  induction l with
  | nil => exact List.nodup_nil
  | cons a l ih =>
    obtain ⟨hnot, hkeys⟩ := List.nodup_cons.1 hkeys
    rw [List.flatMap_cons]
    refine List.Nodup.append (hf a (by simp))
      (ih hkeys (fun x hx => hf x (by simp [hx])) fun x hx => htag x (by simp [hx])) ?_
    intro b hb hb'
    obtain ⟨x, hx, hbx⟩ := List.mem_flatMap.1 hb'
    have hsame : key a = key x := by
      rw [← htag a (by simp) b hb, htag x (by simp [hx]) b hbx]
    exact hnot (hsame ▸ List.mem_map_of_mem hx)

namespace Plan

theorem mem_slots {p : Plan} {tier : Nat} {size user : UInt64} {slot : Slot} :
    slot ∈ p.slots tier size user ↔
      slot.tier = tier ∧ slot.status.currentUser = size ∧ slot.status.user = user ∧
        p.cycles[slot.stage]? = some slot.status.currentCycle ∧
        1 ≤ slot.status.cycle ∧ slot.status.cycle ≤ slot.status.currentCycle := by
  simp only [slots, List.mem_flatMap, stageSlots_eq, List.mem_map, mem_usersOf, Prod.exists,
    List.mem_zipIdx_iff_getElem?]
  constructor
  · rintro ⟨cycle, stage, hstage, k, hk, rfl⟩
    exact ⟨rfl, rfl, rfl, hstage, hk⟩
  · rintro ⟨rfl, rfl, rfl, hstage, hk⟩
    exact ⟨_, _, hstage, _, hk, rfl⟩

theorem nodup_slots (p : Plan) (tier : Nat) (size user : UInt64) :
    (p.slots tier size user).Nodup := by
  refine nodup_flatMap_of_tag Prod.snd Slot.stage ?_ ?_ ?_
  · rw [List.zipIdx_map_snd]
    exact List.nodup_range'
  · rintro ⟨cycle, stage⟩ _
    show (stageSlots tier size user stage cycle).Nodup
    rw [stageSlots_eq]
    exact (nodup_usersOf _).map fun a b h => congrArg (fun s => s.status.cycle) h
  · rintro ⟨cycle, stage⟩ _ slot hslot
    change slot ∈ stageSlots tier size user stage cycle at hslot
    rw [stageSlots_eq] at hslot
    obtain ⟨k, _, rfl⟩ := List.mem_map.1 hslot
    rfl

theorem length_slots (p : Plan) (tier : Nat) (size user : UInt64) :
    (p.slots tier size user).length = p.perUser := by
  have hlen : ∀ x : UInt64 × Nat, (stageSlots tier size user x.2 x.1).length = x.1.toNat :=
    fun x => by rw [stageSlots_eq, List.length_map, length_usersOf]
  have hfst := map_zipIdx_fst UInt64.toNat p.cycles 0
  simp only [slots, List.length_flatMap, hlen, hfst]
  rfl

/-! ## all slots -/

def tierSlots (p : Plan) (tier : Nat) (size : UInt64) : List Slot :=
  (usersOf size).flatMap (p.slots tier size)

def planned (p : Plan) : List Slot := p.users.zipIdx.flatMap fun (size, tier) => p.tierSlots tier size

/-- **What is planned.** A slot names a tier and a cycle size of the plan, a user of this tier, and a
step of this cycle. -/
theorem mem_planned {p : Plan} {slot : Slot} :
    slot ∈ p.planned ↔
      p.users[slot.tier]? = some slot.status.currentUser ∧
        p.cycles[slot.stage]? = some slot.status.currentCycle ∧
        (1 ≤ slot.status.user ∧ slot.status.user ≤ slot.status.currentUser) ∧
        1 ≤ slot.status.cycle ∧ slot.status.cycle ≤ slot.status.currentCycle := by
  simp only [planned, tierSlots, List.mem_flatMap, mem_slots, mem_usersOf, Prod.exists,
    List.mem_zipIdx_iff_getElem?]
  constructor
  · rintro ⟨size, tier, htier, user, huser, rfl, rfl, rfl, hstage, hstep⟩
    exact ⟨htier, hstage, huser, hstep⟩
  · rintro ⟨htier, hstage, huser, hstep⟩
    exact ⟨_, _, htier, _, huser, rfl, rfl, rfl, hstage, hstep⟩

theorem mem_tierSlots {p : Plan} {tier : Nat} {size : UInt64} (htier : p.users[tier]? = some size)
    {slot : Slot} : slot ∈ p.tierSlots tier size ↔ slot ∈ p.planned ∧ slot.tier = tier := by
  simp only [tierSlots, List.mem_flatMap, mem_usersOf, mem_slots, mem_planned]
  constructor
  · rintro ⟨user, huser, rfl, rfl, rfl, hstage, hstep⟩
    exact ⟨⟨htier, hstage, huser, hstep⟩, rfl⟩
  · rintro ⟨⟨hsize, hstage, huser, hstep⟩, rfl⟩
    obtain rfl : slot.status.currentUser = size := Option.some.inj (hsize.symm.trans htier)
    exact ⟨_, huser, rfl, rfl, rfl, hstage, hstep⟩

/-- **Nothing is planned twice.** -/
theorem nodup_planned (p : Plan) : p.planned.Nodup := by
  refine nodup_flatMap_of_tag Prod.snd Slot.tier ?_ (fun x _ => ?_) fun x _ slot hslot => ?_
  · rw [List.zipIdx_map_snd]
    exact List.nodup_range'
  · refine nodup_flatMap_of_tag id (fun s => s.status.user) ?_
      (fun user _ => nodup_slots p x.2 x.1 user) fun user _ slot hslot => (mem_slots.1 hslot).2.2.1
    rw [List.map_id]
    exact nodup_usersOf x.1
  · obtain ⟨user, _, hslot⟩ := List.mem_flatMap.1 hslot
    exact (mem_slots.1 hslot).1

theorem pairwise_tier_planned (p : Plan) : p.planned.Pairwise fun a b => a.tier ≤ b.tier := by
  have htier : ∀ x : UInt64 × Nat, ∀ slot ∈ p.tierSlots x.2 x.1, slot.tier = x.2 := by
    intro x slot hslot
    obtain ⟨user, -, hslot⟩ := List.mem_flatMap.1 hslot
    exact (mem_slots.1 hslot).1
  have hpositions : p.users.zipIdx.Pairwise fun x y => x.2 < y.2 := by
    rw [← List.pairwise_map (f := Prod.snd), List.zipIdx_map_snd]
    exact List.pairwise_lt_range'
  refine List.pairwise_flatMap.2 ⟨fun x _ => ?_, hpositions.imp fun hlt a ha b hb => ?_⟩
  · refine List.pairwise_of_forall_mem_list fun a ha b hb => ?_
    rw [htier x a ha, htier x b hb]
  · rw [htier _ a ha, htier _ b hb]
    exact Nat.le_of_lt hlt

theorem length_tierSlots (p : Plan) (tier : Nat) (size : UInt64) :
    (p.tierSlots tier size).length = size.toNat * p.perUser := by
  rw [tierSlots, List.length_flatMap]
  simp only [length_slots, List.map_const', length_usersOf, List.sum_replicate_nat]

/-- **As much is planned as is counted.** -/
theorem length_planned (p : Plan) : p.planned.length = p.perAgent := by
  have hfst : p.users.zipIdx.map (fun x => x.1.toNat * p.perUser) =
      (p.users.map UInt64.toNat).map (· * p.perUser) := by
    rw [List.map_map]
    exact map_zipIdx_fst (fun size => size.toNat * p.perUser) p.users 0
  rw [planned, List.length_flatMap]
  simp only [length_tierSlots, hfst]
  rw [List.sum_map_mul_right (p.users.map UInt64.toNat) (fun n => n) p.perUser, List.map_id']
  rfl

/-! ## plans with room -/

section
variable {p : Plan}

theorem roomy_eq (h : p.HasRoom) : p.roomy = p := by
  rw [roomy, List.takeWhile_eq_self_iff.2 h]

/-- the tiers with room keep their places -/
theorem prefix_zipIdx_roomy (p : Plan) : p.roomy.users.zipIdx <+: p.users.zipIdx := by
  have hsplit : p.roomy.users ++ p.users.dropWhile hasRoom = p.users :=
    List.takeWhile_append_dropWhile
  rw [← hsplit, List.zipIdx_append]
  exact List.prefix_append ..

theorem prefix_planned_roomy (p : Plan) : p.roomy.planned <+: p.planned := by
  obtain ⟨later, hlater⟩ := p.prefix_zipIdx_roomy
  refine ⟨later.flatMap fun (size, tier) => p.tierSlots tier size, ?_⟩
  rw [planned, planned, ← hlater, List.flatMap_append]
  rfl

theorem perAgent_roomy_le (p : Plan) : p.roomy.perAgent ≤ p.perAgent := by
  have hsplit : p.roomy.users ++ p.users.dropWhile hasRoom = p.users :=
    List.takeWhile_append_dropWhile
  refine Nat.mul_le_mul_right _ ?_
  rw [← hsplit, List.map_append, List.sum_append]
  exact Nat.le_add_right ..

theorem exists_crowded (h : ¬ p.HasRoom) : ∃ size later,
    p.users = p.roomy.users ++ size :: later ∧ hasRoom size = false := by
  cases hrest : p.users.dropWhile hasRoom with
  | nil => exact absurd (List.dropWhile_eq_nil_iff.1 hrest) h
  | cons size later =>
    refine ⟨size, later, ?_, ?_⟩
    · rw [← hrest]
      exact List.takeWhile_append_dropWhile.symm
    · have hhead := List.head?_dropWhile_not hasRoom p.users
      rw [hrest] at hhead
      simpa using hhead

/-- a tier without room leaves something out -/
theorem perAgent_roomy_lt (hp : p.Accepted) (h : ¬ p.HasRoom) : p.roomy.perAgent < p.perAgent := by
  obtain ⟨size, later, husers, hsize⟩ := exists_crowded h
  have hpos : 0 < size.toNat := by
    have hlarge := of_decide_eq_false hsize
    omega
  refine Nat.mul_lt_mul_of_pos_right ?_ hp.perUser_pos
  rw [husers, List.map_append, List.sum_append, List.map_cons, List.sum_cons]
  omega

end

end Plan

end LoadTest
