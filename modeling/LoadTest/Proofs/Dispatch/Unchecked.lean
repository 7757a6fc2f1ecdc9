import LoadTest.Proofs.Dispatch.Exchange
import LoadTest.Proofs.Plan.Written

/-!
# Plans that nobody checked

Every plan that is made from numbers or from texts has something to do for everybody, and its total
can be counted. A plan that is read from JSON can be any plan at all: what one process writes the
other reads back, and a broker goes ahead with it.

* `Plan.Sound`             what has to hold of a plan
* `Plan.sound_iff`         these are the accepted plans
* `Plan.parse_eq_ok_iff`, `Plan.compute_eq_ok_iff`   the plans that come of texts
* `Plan.sound_unless_read` plans of all origins
-/

namespace LoadTest

open Dispatch (Request)
open Testbed (TestBroker Launcher)

namespace Plan

/-- There are tiers and cycles, no number is zero, and the total can be counted. -/
structure Sound (p : Plan) : Prop where
  users_ne_nil : p.users ≠ []
  users_pos : ∀ u ∈ p.users, 1 ≤ u
  cycles_ne_nil : p.cycles ≠ []
  cycles_pos : ∀ c ∈ p.cycles, 1 ≤ c
  agents_pos : p.agents ≠ some 0
  counted : ∃ n, p.expectedTotal = .ok n

theorem zero_notMem_iff {vs : List UInt64} : 0 ∉ vs ↔ ∀ v ∈ vs, 1 ≤ v := by
  have hpos : ∀ v : UInt64, v ≠ 0 ↔ 1 ≤ v := by
    intro v
    rw [UInt64.le_iff_toNat_le, Ne, ← UInt64.toNat_inj]
    exact (Nat.one_le_iff_ne_zero (n := v.toNat)).symm
  constructor
  · intro h v hv
    exact (hpos v).1 fun heq => h (heq ▸ hv)
  · intro h hzero
    exact (hpos 0).2 (h 0 hzero) rfl

theorem sound_iff {p : Plan} : p.Sound ↔ p.Accepted := by
  constructor
  · intro h
    obtain ⟨n, hn⟩ := h.counted
    exact ⟨h.users_ne_nil, zero_notMem_iff.2 h.users_pos, h.cycles_ne_nil,
      zero_notMem_iff.2 h.cycles_pos, h.agents_pos, (expectedTotal_eq_ok_iff.1 hn).2.2.2⟩
  · intro h
    exact ⟨h.users_ne_nil, zero_notMem_iff.1 h.users_pos, h.cycles_ne_nil,
      zero_notMem_iff.1 h.cycles_pos, h.agents_pos, _, h.expectedTotal⟩

theorem parse_eq_ok_iff {users cycles : String} {agents : Option UInt64} {p : Plan} :
    parse users cycles agents = .ok p ↔
      Lists users p.users ∧ Lists cycles p.cycles ∧ p.agents = agents ∧ p.Sound := by
  constructor
  · intro h
    have hverdict : Verdict users cycles agents (.ok p) := parse_eq_iff.1 h
    have haccepted := hverdict.accepted_plan
    cases hverdict with
    | accepted hus hcs _ _ => exact ⟨hus, hcs, rfl, sound_iff.2 haccepted⟩
  · rintro ⟨hus, hcs, rfl, hsound⟩
    rw [parse_of_lists hus hcs]
    exact make_eq_ok_iff.2 ⟨rfl, sound_iff.1 hsound⟩

end Plan

def Workload.plan (w : Workload) : Plan := ⟨w.users, w.cycles, w.agents⟩

namespace Plan

theorem compute_eq_ok_iff {users cycles : String} {agents : Option UInt64} {w : Workload} :
    compute users cycles agents = .ok w ↔
      parse users cycles agents = .ok w.plan ∧ w.plan.expectedTotal = .ok w.expectedTotal := by
  rw [compute]
  cases hparse : parse users cycles agents with
  | error e => simp only [reduceCtorEq, false_and]
  | ok p =>
    obtain ⟨n, hn⟩ := (parse_eq_ok_iff.1 hparse).2.2.2.counted
    simp only [hn, Except.ok.injEq]
    constructor
    · rintro rfl
      exact ⟨rfl, hn⟩
    · rintro ⟨rfl, htotal⟩
      obtain rfl : n = w.expectedTotal := Except.ok.inj (hn.symm.trans htotal)
      rfl

theorem ofText?_render (p : Plan) : ofText? p.toJson.render.toList = some p := by
  rw [ofText?, Json.render, String.toList_ofList, Json.parse_write, Option.bind_some, ofJson?_toJson]

end Plan

theorem Testbed.TestBroker.requests_dispatch (b : TestBroker) (launch : Launcher) (r : Request) :
    (b.dispatch launch r).1.requests = b.requests ++ [r] := by
  rw [dispatch]
  dsimp only
  split
  · rfl
  · split <;> rfl

namespace Plan

/-- **Plans are sound unless they are read.** A plan that is made keeps its parts, and exactly the
sound ones are made: from numbers, from texts that list them, and in parts with the total that they
have. The plan of one agent is as sound as the plan. But any plan, sound or not, is read from its
JSON text, so that what is read is sound only where the plan is; and in a request a broker reads it,
keeps it and goes ahead. -/
theorem sound_unless_read (p : Plan) :
    (∀ users cycles agents,
      make users cycles agents = .ok p ↔ p = ⟨users, cycles, agents⟩ ∧ p.Sound) ∧
    (∀ users cycles agents, parse users cycles agents = .ok p ↔
      Lists users p.users ∧ Lists cycles p.cycles ∧ p.agents = agents ∧ p.Sound) ∧
    (∀ users cycles agents w, w.plan = p → (compute users cycles agents = .ok w ↔
      Lists users p.users ∧ Lists cycles p.cycles ∧ p.agents = agents ∧ p.Sound ∧
        p.expectedTotal = .ok w.expectedTotal)) ∧
    (p.Sound → p.forSingleAgent.Sound) ∧
    ofText? p.toJson.render.toList = some p ∧
    ((∀ text, ofText? text = some p → p.Sound) ↔ p.Sound) ∧
    (∀ (b : TestBroker) (launch : Launcher) (r : Request), r.plan = p →
      b.serve launch r.line = b.dispatch launch r ∧
        (b.serve launch r.line).1.requests = b.requests ++ [r]) := by
  refine ⟨fun users cycles agents => ?_, fun _ _ _ => parse_eq_ok_iff,
    fun users cycles agents w hw => ?_, fun h => ?_, ofText?_render p, ?_, fun b launch r _ => ?_⟩
  · rw [make_eq_ok_iff, sound_iff]
  · rw [compute_eq_ok_iff, hw, parse_eq_ok_iff, and_assoc, and_assoc, and_assoc]
  · exact sound_iff.2 (sound_iff.1 h).forSingleAgent
  · constructor
    · intro h
      exact h _ (ofText?_render p)
    · intro h _ _
      exact h
  · rw [Dispatch.serve_line]
    exact ⟨rfl, b.requests_dispatch launch r⟩

/-- A plan of two tiers is sound, and so is that of each of its agents; a plan without cycles, whose
one tier has no users, is not, but it is read, and a broker that rejects it has kept it. -/
theorem sound_unless_read_samples :
    let p : Plan := ⟨[2, 3], [4], some 2⟩
    let idle : Plan := ⟨[0], [], none⟩
    p.Sound ∧ p.forSingleAgent.Sound ∧ ¬ idle.Sound ∧
      ofText? idle.toJson.render.toList = some idle ∧
      ((⟨.reject "no", [], []⟩ : TestBroker).serve (fun _ _ => none)
        (⟨"test", idle, "tcp://h:1"⟩ : Request).line).1.requests = [⟨"test", idle, "tcp://h:1"⟩] := by
  intro p idle
  obtain ⟨hmake, -, -, hsingle, -⟩ := sound_unless_read p
  obtain ⟨-, -, -, -, hread, -, hserve⟩ := sound_unless_read idle
  have hsound : p.Sound := ((hmake [2, 3] [4] (some 2)).1 (by decide)).2
  exact ⟨hsound, hsingle hsound, fun h => h.cycles_ne_nil rfl, hread, (hserve _ _ _ rfl).2⟩

/-- The text of a plan with one tier of no users is read as that plan, which is not sound. -/
theorem read_not_sound :
    ¬ ∀ (text : List Char) (p : Plan), ofText? text = some p → p.Sound := by
  intro hsound
  have hread : ofText? "\x7b\"users\":[0],\"cycles\":[1],\"agents\":null\x7d".toList =
      some ⟨[0], [1], none⟩ := by decide +kernel
  exact absurd ((hsound _ _ hread).users_pos 0 List.mem_cons_self) (by decide)

end Plan

end LoadTest
