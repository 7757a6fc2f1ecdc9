import Mathlib.Data.List.Forall2
import LoadTest.Proofs.Plan.Accepted
import LoadTest.Proofs.Text.Numbers

/-!
# Written plans

A plan is read from two lists of numbers with colons between them. What is accepted, and which fault
is reported of several, is said here by a grammar of the lists and by exact sums and products.

* `Plan.Entry`               an entry of a written list
* `Plan.Lists`, `Plan.IsListed`   a text lists these numbers, or any
* `Plan.exactTotal`          the invocations of all agents, users and cycles
* `Plan.readTiers_eq_some_iff`    exactly the lists are read
* `Plan.make_of_positive`    a plan of positive numbers is made if its total fits
* `Plan.Verdict`             the rules of written plans, in the order they are applied
* `Plan.parse_eq_iff`        a plan is read by the rules
* `Plan.Accepted.parse_specs`     the written form of an accepted plan is read back
* `Plan.parse_outcomes`      what comes of two texts and a number of agents
-/

namespace LoadTest.Plan

/-! ## lists -/

/-- An entry of a written list: a positive number of 64 bits, with blanks around it. -/
inductive Entry : List Char → UInt64 → Prop where
  | intro {before number after : List Char} {v : UInt64} (hbefore : Text.AllBlank before)
      (hnumber : Text.Denotes number v.toNat) (hafter : Text.AllBlank after) (hpos : 1 ≤ v.toNat) :
      Entry (before ++ number ++ after) v

theorem readTier_eq_some_iff {part : List Char} {v : UInt64} :
    readTier part = some v ↔ Entry part v := by
  have hread : readTier part = some v ↔
      Text.Denotes (Text.trim part) v.toNat ∧ 1 ≤ v.toNat := by
    rw [readTier, Option.filter_eq_some_iff, Text.word64?_eq_some_iff, decide_eq_true_eq,
      UInt64.le_iff_toNat_le]
    rfl
  rw [hread]
  constructor
  · rintro ⟨hnumber, hpos⟩
    obtain ⟨-, before, after, hbefore, hafter, hpart⟩ :=
      Text.trim_eq_iff.1 (rfl : Text.trim part = Text.trim part)
    rw [hpart]
    exact .intro hbefore hnumber hafter hpos
  · rintro ⟨hbefore, hnumber, hafter, hpos⟩
    have htrim := Text.trim_eq_iff.2 ⟨hnumber.isTrimmed, _, _, hbefore, hafter, rfl⟩
    rw [htrim]
    exact ⟨hnumber, hpos⟩

/-- the entries of a list stand between colons -/
def Lists (spec : String) (vs : List UInt64) : Prop :=
  List.Forall₂ Entry (spec.toList.splitOn ':') vs

def IsListed (spec : String) : Prop := ∀ part ∈ spec.toList.splitOn ':', ∃ v, Entry part v

theorem mapM_eq_some_iff {α β : Type} {f : α → Option β} {l : List α} {bs : List β} :
    l.mapM f = some bs ↔ List.Forall₂ (fun a b => f a = some b) l bs := by
  induction l generalizing bs with
  | nil =>
    rw [List.mapM_nil, List.forall₂_nil_left_iff]
    exact Option.some_inj.trans eq_comm
  | cons a l ih =>
    rw [List.mapM_cons, List.forall₂_cons_left_iff]
    cases ha : f a with
    | none => simp
    | some b =>
      cases hl : l.mapM f with
      | none =>
        have hno : ∀ bs, ¬ List.Forall₂ (fun a b => f a = some b) l bs := fun bs hbs => by
          rw [ih.2 hbs] at hl
          cases hl
        simp [hno]
      | some bs' =>
        have hyes : ∀ bs, List.Forall₂ (fun a b => f a = some b) l bs ↔ bs' = bs := fun bs => by
          rw [← ih, hl, Option.some_inj]
        simp [hyes, eq_comm]

theorem readTiers_eq_some_iff {spec : String} {vs : List UInt64} :
    readTiers spec = some vs ↔ Lists spec vs := by
  rw [readTiers, mapM_eq_some_iff]
  simp only [readTier_eq_some_iff]
  rfl

theorem exists_lists_iff {spec : String} : (∃ vs, Lists spec vs) ↔ IsListed spec := by
  unfold Lists IsListed
  induction spec.toList.splitOn ':' with
  | nil => simp
  | cons part parts ih =>
    rw [List.forall_mem_cons, ← ih]
    constructor
    · rintro ⟨vs, hvs⟩
      obtain ⟨v, vs', hv, hvs', rfl⟩ := List.forall₂_cons_left_iff.1 hvs
      exact ⟨⟨v, hv⟩, vs', hvs'⟩
    · rintro ⟨⟨v, hv⟩, vs, hvs⟩
      exact ⟨v :: vs, .cons hv hvs⟩

theorem readTiers_eq_none_iff {spec : String} : readTiers spec = none ↔ ¬ IsListed spec := by
  rw [← exists_lists_iff, Option.eq_none_iff_forall_ne_some, not_exists]
  exact forall_congr' fun vs => not_congr readTiers_eq_some_iff

namespace Lists
variable {spec : String} {vs : List UInt64} (h : Lists spec vs)
include h

theorem ne_nil : vs ≠ [] := by
  rintro rfl
  exact List.splitOn_ne_nil ':' spec.toList (List.forall₂_nil_right_iff.1 h)

theorem zero_notMem : 0 ∉ vs := by
  intro hzero
  obtain ⟨part, -, hpart⟩ : ∃ part ∈ spec.toList.splitOn ':', Entry part 0 := by
    unfold Lists at h
    generalize spec.toList.splitOn ':' = parts at h
    induction h with
    | nil => cases hzero
    | cons hv _ ih =>
      rcases List.mem_cons.1 hzero with rfl | hzero
      · exact ⟨_, List.mem_cons_self, hv⟩
      · obtain ⟨part, hmem, hpart⟩ := ih hzero
        exact ⟨part, List.mem_cons_of_mem _ hmem, hpart⟩
  obtain ⟨_, _, _, hpos⟩ := hpart
  exact absurd hpos (by decide)

theorem positive : vs ≠ [] ∧ 0 ∉ vs := ⟨h.ne_nil, h.zero_notMem⟩

end Lists

/-! ## totals -/

def exactTotal (users cycles : List UInt64) (agents : Option UInt64) : Nat :=
  (agents.getD 1).toNat * (users.map UInt64.toNat).sum * (cycles.map UInt64.toNat).sum

theorem perAgent_mul_agentCount (p : Plan) :
    p.perAgent * p.agentCount = exactTotal p.users p.cycles p.agents := by
  rw [exactTotal, Nat.mul_assoc, Nat.mul_comm]
  rfl

theorem perAgent_eq_exactTotal (p : Plan) : p.perAgent = exactTotal p.users p.cycles none := by
  rw [exactTotal, Nat.mul_assoc, show ((none : Option UInt64).getD 1).toNat = 1 from rfl,
    Nat.one_mul]
  rfl

/-- a plan of positive numbers is made if its exact total fits, whatever the sums on the way -/
theorem make_of_positive {us cs : List UInt64} {agents : Option UInt64} (hus : us ≠ [] ∧ 0 ∉ us)
    (hcs : cs ≠ [] ∧ 0 ∉ cs) (hagents : agents ≠ some 0) :
    make us cs agents = if exactTotal us cs agents ≤ 2 ^ 64 - 1 then .ok ⟨us, cs, agents⟩
      else .error .planOverflow := by
  have htotal : (⟨us, cs, agents⟩ : Plan).perAgent * (⟨us, cs, agents⟩ : Plan).agentCount =
      exactTotal us cs agents := perAgent_mul_agentCount _
  have hsize : UInt64.size = 2 ^ 64 := rfl
  by_cases hfits : exactTotal us cs agents ≤ 2 ^ 64 - 1
  · have hlt : (⟨us, cs, agents⟩ : Plan).perAgent * (⟨us, cs, agents⟩ : Plan).agentCount <
        UInt64.size := by omega
    rw [if_pos hfits]
    exact make_eq_ok_iff.2 ⟨rfl, hus.1, hus.2, hcs.1, hcs.2, hagents, hlt⟩
  · have hfail : ∀ p, make us cs agents ≠ .ok p := by
      intro p hp
      obtain ⟨rfl, haccepted⟩ := make_eq_ok_iff.1 hp
      have hlt := haccepted.fits
      omega
    rw [if_neg hfits]
    unfold make at hfail ⊢
    rw [if_neg (not_or.2 hus), if_neg (not_or.2 hcs), if_neg hagents] at hfail ⊢
    cases hcount : expectedTotal ⟨us, cs, agents⟩ with
    | ok n => exact absurd (by rw [hcount]) (hfail ⟨us, cs, agents⟩)
    | error e => rw [expectedTotal_error hcount]

/-! ## verdicts -/

/-- What the rules of written plans make of two texts and a number of agents. -/
inductive Verdict (users cycles : String) (agents : Option UInt64) : Except Error Plan → Prop where
  | badUsers (hu : ¬ IsListed users) : Verdict users cycles agents (.error (.invalidUsers users))
  | badCycles (hu : IsListed users) (hc : ¬ IsListed cycles) :
      Verdict users cycles agents (.error (.invalidCycles cycles))
  | noAgents (hu : IsListed users) (hc : IsListed cycles) (ha : agents = some 0) :
      Verdict users cycles agents (.error .invalidAgents)
  | tooLarge {us cs : List UInt64} (hus : Lists users us) (hcs : Lists cycles cs)
      (ha : agents ≠ some 0) (htotal : 2 ^ 64 - 1 < exactTotal us cs agents) :
      Verdict users cycles agents (.error .planOverflow)
  | accepted {us cs : List UInt64} (hus : Lists users us) (hcs : Lists cycles cs)
      (ha : agents ≠ some 0) (htotal : exactTotal us cs agents ≤ 2 ^ 64 - 1) :
      Verdict users cycles agents (.ok ⟨us, cs, agents⟩)

section
variable {users cycles : String} {agents : Option UInt64}

theorem parse_of_lists {us cs : List UInt64} (hus : Lists users us) (hcs : Lists cycles cs) :
    parse users cycles agents = make us cs agents := by
  rw [parse, readTiers_eq_some_iff.2 hus, readTiers_eq_some_iff.2 hcs]

theorem Verdict.parse_eq {r : Except Error Plan} (h : Verdict users cycles agents r) :
    parse users cycles agents = r := by
  cases h with
  | badUsers hu => rw [parse, readTiers_eq_none_iff.2 hu]
  | badCycles hu hc =>
    obtain ⟨us, hus⟩ := exists_lists_iff.2 hu
    rw [parse, readTiers_eq_some_iff.2 hus, readTiers_eq_none_iff.2 hc]
  | noAgents hu hc ha =>
    obtain ⟨us, hus⟩ := exists_lists_iff.2 hu
    obtain ⟨cs, hcs⟩ := exists_lists_iff.2 hc
    rw [parse_of_lists hus hcs, make, if_neg (not_or.2 hus.positive),
      if_neg (not_or.2 hcs.positive), if_pos ha]
  | tooLarge hus hcs ha htotal =>
    rw [parse_of_lists hus hcs, make_of_positive hus.positive hcs.positive ha,
      if_neg (Nat.not_le.2 htotal)]
  | accepted hus hcs ha htotal =>
    rw [parse_of_lists hus hcs, make_of_positive hus.positive hcs.positive ha, if_pos htotal]

theorem Verdict.accepted_plan {p : Plan} (h : Verdict users cycles agents (.ok p)) :
    p.Accepted := by
  have hparse := h.parse_eq
  cases h with
  | accepted hus hcs ha htotal =>
    rw [parse_of_lists hus hcs] at hparse
    exact (make_eq_ok_iff.1 hparse).2

theorem Verdict.agents_eq {p : Plan} (h : Verdict users cycles agents (.ok p)) :
    p.agents = agents := by
  cases h with
  | accepted => rfl

/-- the rules leave nothing open -/
theorem exists_verdict (users cycles : String) (agents : Option UInt64) :
    ∃ r, Verdict users cycles agents r := by
  by_cases hu : IsListed users
  case neg => exact ⟨_, .badUsers hu⟩
  by_cases hc : IsListed cycles
  case neg => exact ⟨_, .badCycles hu hc⟩
  by_cases ha : agents = some 0
  case pos => exact ⟨_, .noAgents hu hc ha⟩
  obtain ⟨us, hus⟩ := exists_lists_iff.2 hu
  obtain ⟨cs, hcs⟩ := exists_lists_iff.2 hc
  by_cases htotal : exactTotal us cs agents ≤ 2 ^ 64 - 1
  · exact ⟨_, .accepted hus hcs ha htotal⟩
  · exact ⟨_, .tooLarge hus hcs ha (Nat.lt_of_not_le htotal)⟩

theorem parse_eq_iff {r : Except Error Plan} :
    parse users cycles agents = r ↔ Verdict users cycles agents r := by
  constructor
  · rintro rfl
    obtain ⟨r, hr⟩ := exists_verdict users cycles agents
    rwa [hr.parse_eq]
  · exact Verdict.parse_eq

end

/-! ## written forms -/

theorem toList_writeTiers (vs : List UInt64) :
    (writeTiers vs).toList = [':'].intercalate (vs.map fun v => Text.digits v.toNat) := by
  rw [writeTiers, String.toList_intercalate, List.map_map]
  exact congrArg _ (List.map_congr_left fun v _ => Text.toList_decimal v.toNat)

theorem splitOn_writeTiers {vs : List UInt64} (hne : vs ≠ []) :
    (writeTiers vs).toList.splitOn ':' = vs.map fun v => Text.digits v.toNat := by
  have hcolon : ∀ part ∈ vs.map fun v => Text.digits v.toNat, ':' ∉ part := by
    intro part hpart hmem
    obtain ⟨v, -, rfl⟩ := List.mem_map.1 hpart
    exact absurd (Text.isDigit_of_mem_digits hmem) (by decide)
  rw [toList_writeTiers]
  exact List.splitOn_intercalate ':' hcolon (mt List.map_eq_nil_iff.1 hne)

theorem lists_writeTiers {vs : List UInt64} (h : vs ≠ [] ∧ 0 ∉ vs) : Lists (writeTiers vs) vs := by
  rw [Lists, splitOn_writeTiers h.1, List.forall₂_map_left_iff, List.forall₂_same]
  intro v hv
  have hpos : 1 ≤ v.toNat :=
    Nat.pos_of_ne_zero fun h0 => h.2 ((UInt64.toNat_inj.1 h0 : v = 0) ▸ hv)
  have hnone : Text.AllBlank [] := fun c hc => absurd hc List.not_mem_nil
  have hentry := Entry.intro hnone (Text.denotes_digits v.toNat) hnone hpos
  rwa [List.nil_append, List.append_nil] at hentry

theorem Accepted.parse_specs {p : Plan} (h : p.Accepted) :
    parse p.usersSpec p.cyclesSpec none = .ok p.forSingleAgent := by
  have hus : Lists p.usersSpec p.users := lists_writeTiers ⟨h.users_ne_nil, h.users_pos⟩
  have hcs : Lists p.cyclesSpec p.cycles := lists_writeTiers ⟨h.cycles_ne_nil, h.cycles_pos⟩
  have htotal : exactTotal p.users p.cycles none ≤ 2 ^ 64 - 1 := by
    have hlt := h.perAgent_lt
    have hsize : UInt64.size = 2 ^ 64 := rfl
    rw [← perAgent_eq_exactTotal]
    omega
  have hnone : (none : Option UInt64) ≠ some 0 := nofun
  exact (Verdict.accepted hus hcs hnone htotal).parse_eq

/-- **What comes of two texts and a number of agents.** The users are at fault if an entry of theirs
is no positive number of 64 bits; otherwise the cycles if an entry of theirs is not; otherwise the
agents if there are none; otherwise the plan is too large if its exact total does not fit in 64 bits;
otherwise it is read as it is written, and both counts are exact. -/
theorem parse_outcomes (users cycles : String) (agents : Option UInt64) :
    (∀ spec, parse users cycles agents = .error (.invalidUsers spec) ↔
      ¬ IsListed users ∧ spec = users) ∧
    (∀ spec, parse users cycles agents = .error (.invalidCycles spec) ↔
      IsListed users ∧ ¬ IsListed cycles ∧ spec = cycles) ∧
    (parse users cycles agents = .error .invalidAgents ↔
      IsListed users ∧ IsListed cycles ∧ agents = some 0) ∧
    (parse users cycles agents = .error .planOverflow ↔
      agents ≠ some 0 ∧ ∃ us cs, Lists users us ∧ Lists cycles cs ∧
        2 ^ 64 - 1 < (agents.getD 1).toNat * (us.map UInt64.toNat).sum *
          (cs.map UInt64.toNat).sum) ∧
    (∀ p, parse users cycles agents = .ok p ↔
      agents ≠ some 0 ∧ p.agents = agents ∧ Lists users p.users ∧ Lists cycles p.cycles ∧
        (agents.getD 1).toNat * (p.users.map UInt64.toNat).sum *
          (p.cycles.map UInt64.toNat).sum ≤ 2 ^ 64 - 1) ∧
    ∀ p, parse users cycles agents = .ok p →
      p.invocationsPerAgent =
        .ok ((p.users.map UInt64.toNat).sum * (p.cycles.map UInt64.toNat).sum) ∧
      p.expectedTotal = .ok ((agents.getD 1).toNat * (p.users.map UInt64.toNat).sum *
        (p.cycles.map UInt64.toNat).sum) := by
  simp only [parse_eq_iff]
  refine ⟨fun spec => ⟨?_, ?_⟩, fun spec => ⟨?_, ?_⟩, ⟨?_, ?_⟩, ⟨?_, ?_⟩, fun p => ⟨?_, ?_⟩,
    fun p hp => ?_⟩
  · intro h
    cases h with
    | badUsers hu => exact ⟨hu, rfl⟩
  · rintro ⟨hu, rfl⟩
    exact .badUsers hu
  · intro h
    cases h with
    | badCycles hu hc => exact ⟨hu, hc, rfl⟩
  · rintro ⟨hu, hc, rfl⟩
    exact .badCycles hu hc
  · intro h
    cases h with
    | noAgents hu hc ha => exact ⟨hu, hc, ha⟩
  · rintro ⟨hu, hc, ha⟩
    exact .noAgents hu hc ha
  · intro h
    cases h with
    | tooLarge hus hcs ha htotal => exact ⟨ha, _, _, hus, hcs, htotal⟩
  · rintro ⟨ha, us, cs, hus, hcs, htotal⟩
    exact .tooLarge hus hcs ha htotal
  · intro h
    cases h with
    | accepted hus hcs ha htotal => exact ⟨ha, rfl, hus, hcs, htotal⟩
  · obtain ⟨us, cs, agents⟩ := p
    rintro ⟨ha, rfl, hus, hcs, htotal⟩
    exact .accepted hus hcs ha htotal
  · have haccepted := hp.accepted_plan
    have hagents := hp.agents_eq
    have htotal := perAgent_mul_agentCount p
    rw [hagents] at htotal
    refine ⟨haccepted.invocationsPerAgent, ?_⟩
    rw [haccepted.expectedTotal, htotal]
    rfl

/-- blanks, a plus sign and a leading zero -/
theorem parse_outcomes_blanks :
    parse " +1\t: 02" "3" (some 4) = .ok ⟨[1, 2], [3], some 4⟩ ∧
      (⟨[1, 2], [3], some 4⟩ : Plan).expectedTotal = .ok 36 := by
  have hparse : parse " +1\t: 02" "3" (some 4) = .ok ⟨[1, 2], [3], some 4⟩ := by decide
  exact ⟨hparse, ((parse_outcomes _ _ _).2.2.2.2.2 _ hparse).2⟩

end LoadTest.Plan
