import LoadTest.Proofs.Coordinator.Outcomes
import LoadTest.Proofs.Run.TestCase
import LoadTest.Proofs.Sink.Totals

/-!
# What a distributed run gathers

The lines of all agents are merged in some order. The coordinator stops at the last ending that it
expects; by then nothing is left of any agent but the end of its own run. It does not get that far
if a late line stops it, or if the plan has a tier without room, in front of which agents break off.

* `Agent`, `Agent.log`      one agent with what its run depends on, and what it commits
* `Agent.rest_of_log`       what follows the last ending of a log
* `rest_of_woven`           what follows the last ending of all logs
* `consume_gathers`         each event of each agent is applied once, and the totals are exact
-/

namespace LoadTest.Coordinator

open Run (Weaver Woven)

/-- an agent of a distributed run of a test, with everything that its run depends on -/
structure Agent where
  context : RunContext
  test : String
  body : Slot → Option String → Body
  onlyMeasures : ∀ slot worker, (body slot worker).OnlyMeasures
  weaver : Weaver Act
  closing : Except Error Unit
  start : Instant

namespace Agent

def log (p : Plan) (a : Agent) : List Event :=
  (Run.execute a.context p.forSingleAgent (.testCase a.test a.body) a.weaver a.closing a.start).log

variable (p : Plan) (a : Agent)

theorem countP_isStopTest_log : (a.log p).countP Event.isStopTest = p.roomy.perAgent :=
  Run.countP_log (Run.perm_log ..) rfl rfl fun slot =>
    Run.countP_isStopTest_bracketLog (a.onlyMeasures slot _)

theorem countP_isOutcome_log : (a.log p).countP Event.isOutcome = p.roomy.perAgent :=
  Run.countP_log (Run.perm_log ..) rfl rfl fun slot =>
    Run.countP_isOutcome_bracketLog (a.onlyMeasures slot _)

/-- what follows the last ending of a log is at most the end of the run -/
theorem rest_of_log {p : Plan} (hp : p.Accepted) (hroom : p.HasRoom) {a : Agent}
    {front rest : List Event}
    (hlog : a.log p = front ++ rest) (hrest : ∀ e ∈ rest, e.isStopTest = false) :
    ∀ e ∈ rest, e = .stopTestRun a.context.worker := by
  obtain ⟨before, stop, hends, hstop⟩ :=
    Run.log_ends hp.forSingleAgent hroom a.context a.test a.onlyMeasures a.weaver a.closing a.start
  have hsplit : front ++ rest = (before ++ [stop]) ++ [.stopTestRun a.context.worker] := by
    rw [← hlog, List.append_assoc]
    exact hends
  rcases List.append_eq_append_iff.1 hsplit with ⟨between, hbefore, hrest'⟩ | ⟨between, -, hlast⟩
  · -- the rest would hold the last ending unless it starts behind it
    rcases List.eq_nil_or_concat between with rfl | ⟨between, x, rfl⟩
    · rw [hrest', List.nil_append]
      exact fun e he => List.mem_singleton.1 he
    · rw [List.concat_eq_append, ← List.append_assoc] at hbefore
      obtain rfl : stop = x := List.singleton_inj.1 (List.append_inj' hbefore rfl).2
      have hmem : stop ∈ rest := by simp [hrest']
      rw [hrest stop hmem] at hstop
      cases hstop
  · intro e he
    have hmem : e ∈ [Event.stopTestRun a.context.worker] := hlast ▸ List.mem_append_right _ he
    exact List.mem_singleton.1 hmem

end Agent

/-! ## merged logs -/

theorem countP_of_woven {p : Plan} {fleet : List Agent} {events : List Event} {f : Event → Bool}
    (hwoven : Woven (fleet.map (Agent.log p)) events)
    (hf : ∀ a : Agent, (a.log p).countP f = p.roomy.perAgent) :
    events.countP f = p.roomy.perAgent * fleet.length := by
  rw [hwoven.countP_eq, List.map_map]
  have hmap : fleet.map (List.countP f ∘ Agent.log p) = fleet.map fun _ => p.roomy.perAgent :=
    List.map_congr_left fun a _ => hf a
  rw [hmap, List.map_const', List.sum_replicate_nat, Nat.mul_comm]

/-- **Nothing but ends of runs follows the last ending.** -/
theorem rest_of_woven {p : Plan} (hp : p.Accepted) (hroom : p.HasRoom) {fleet : List Agent}
    {front rest : List Event}
    (hwoven : Woven (fleet.map (Agent.log p)) (front ++ rest))
    (hrest : ∀ e ∈ rest, e.isStopTest = false) : ∀ e ∈ rest, e.kind = .stopTestRun := by
  obtain ⟨parts, hparts, -, hwoven'⟩ := hwoven.cut front rest
  intro e he
  obtain ⟨_, hpart, he⟩ := List.mem_flatten.1 (hwoven'.perm.mem_iff.1 he)
  obtain ⟨part, hmem, rfl⟩ := List.mem_map.1 hpart
  -- the part that is left of one log has no ending either
  have hstop : ∀ x ∈ part.2, x.isStopTest = false := fun x hx =>
    hrest x (hwoven'.perm.mem_iff.2 (List.mem_flatten.2 ⟨part.2, hpart, hx⟩))
  have hlog : part.1 ++ part.2 ∈ fleet.map (Agent.log p) :=
    hparts ▸ List.mem_map_of_mem hmem
  obtain ⟨a, -, ha⟩ := List.mem_map.1 hlog
  rw [Agent.rest_of_log hp hroom ha hstop e he]
  rfl

/-! ## merged lines -/

theorem not_isRunEvent_of_isOutcome {e : Event} (he : e.isOutcome = true) :
    e.isRunEvent = false := by
  cases e <;> first | rfl | cases he

section
variable {p : Plan} {fleet : List Agent} {arrivals : List Arrival}
  (hfleet : fleet.length = p.agentCount)
  (hwoven : Woven (fleet.map (Agent.log p)) ((decodedAll arrivals).map Prod.snd))
include hfleet hwoven

theorem endings_of_woven : endings arrivals = p.roomy.perAgent * p.agentCount := by
  rw [endings_eq, countP_of_woven hwoven fun a => a.countP_isStopTest_log p, hfleet]

theorem outcomes_of_woven :
    ((applied arrivals).countP fun te => te.2.isOutcome) = p.roomy.perAgent * p.agentCount := by
  rw [← hfleet, ← countP_of_woven hwoven fun a => a.countP_isOutcome_log p, applied,
    List.countP_filter, List.countP_map]
  refine List.countP_congr fun te _ => ?_
  rw [Bool.and_eq_true]
  refine and_iff_left_of_imp fun he => ?_
  rw [not_isRunEvent_of_isOutcome he]
  rfl

/-- All endings that are expected arrive just if every tier has room. -/
theorem endings_read_iff (hp : p.Accepted) :
    endings (upToEnding (p.perAgent * p.agentCount) arrivals) = p.perAgent * p.agentCount ↔
      p.HasRoom := by
  rw [endings_upToEnding, endings_of_woven hfleet hwoven]
  by_cases hroom : p.HasRoom
  · rw [Plan.roomy_eq hroom, Nat.min_self]
    exact iff_of_true rfl hroom
  · have hfewer := Nat.mul_lt_mul_of_pos_right (Plan.perAgent_roomy_lt hp hroom) hp.agentCount_pos
    rw [Nat.min_eq_right (Nat.le_of_lt hfewer)]
    exact iff_of_false (Nat.ne_of_lt hfewer) hroom

theorem unread_of_woven (hp : p.Accepted) (hroom : p.HasRoom) :
    ∀ e ∈ (decodedAll (arrivals.drop
      (upToEnding (p.perAgent * p.agentCount) arrivals).length)).map Prod.snd,
      e.kind = .stopTestRun := by
  let read := upToEnding (p.perAgent * p.agentCount) arrivals
  let rest := arrivals.drop read.length
  have hsplit : read ++ rest = arrivals := upToEnding_append_drop ..
  have htotal := endings_of_woven hfleet hwoven
  have hnone : endings rest = 0 := by
    have hread := (endings_read_iff hfleet hwoven hp).2 hroom
    have hsum := endings_append read rest
    rw [hsplit, htotal, Plan.roomy_eq hroom, hread] at hsum
    omega
  rw [endings_eq, List.countP_eq_zero] at hnone
  rw [← hsplit, decodedAll_append, List.map_append] at hwoven
  exact rest_of_woven hp hroom hwoven fun e he => Bool.eq_false_iff.2 (hnone e he)

/-- what the coordinator leaves unread would not be applied anyway -/
theorem applied_of_woven (hp : p.Accepted) (hroom : p.HasRoom) :
    applied (upToEnding (p.perAgent * p.agentCount) arrivals) = applied arrivals := by
  let read := upToEnding (p.perAgent * p.agentCount) arrivals
  have hnil : applied (arrivals.drop read.length) = [] := by
    refine List.filter_eq_nil_iff.2 fun te hte => ?_
    rw [Event.isRunEvent, unread_of_woven hfleet hwoven hp hroom te.2 (List.mem_map_of_mem hte)]
    decide
  have hsplit := applied_append read (arrivals.drop read.length)
  rw [upToEnding_append_drop, hnil, List.append_nil] at hsplit
  exact hsplit.symm

end

theorem onClock_iff (queue : List Arrival) : OnClock queue ↔ ¬ ∃ a ∈ queue, IsLate a := by
  simp only [OnClock, ne_eq, ← isLate_iff, not_exists, not_and]

/-- Late lines keep a queue from being drained; otherwise the sink stays. -/
theorem drain_cases (s : Intake) (queue : List Arrival) :
    ((∃ a ∈ queue, IsLate a) ∧ drain s queue = .error .clockOverflow) ∨
      ∃ t, drain s queue = .ok t ∧ t.hub.sink = s.hub.sink := by
  by_cases hlate : ∃ a ∈ queue, IsLate a
  · exact .inl ⟨hlate, (drain_late_iff s queue .clockOverflow).2 ⟨rfl, hlate⟩⟩
  · exact .inr (drain_sink s queue ((onClock_iff queue).2 hlate))

/-- the loop comes to its end just if every tier has room and no late line is read -/
theorem consume_ok_iff {p : Plan} (hp : p.Accepted) {fleet : List Agent}
    (hfleet : fleet.length = p.agentCount) {arrivals : List Arrival}
    (hwoven : Woven (fleet.map (Agent.log p)) ((decodedAll arrivals).map Prod.snd))
    (shortage : Shortage) (hub : Hub) :
    (consume (p.perAgent * p.agentCount) shortage { hub } arrivals).result = .ok () ↔
      p.HasRoom ∧ ¬ ∃ a ∈ upToEnding (p.perAgent * p.agentCount) arrivals, IsLate a := by
  let expected := p.perAgent * p.agentCount
  let read := upToEnding expected arrivals
  by_cases hlate : ∃ a ∈ read, IsLate a
  · have hresult := (consume_late_iff expected shortage { hub } arrivals).2 hlate
    refine iff_of_false (fun hok => ?_) fun h => h.2 hlate
    rw [hresult] at hok
    cases hok
  · have hle : 0 + endings read ≤ expected := by
      rw [endings_upToEnding, Nat.zero_add]
      exact Nat.min_le_left ..
    have hclock : OnClock read := (onClock_iff read).2 hlate
    rw [consume_eq expected shortage { hub } arrivals hclock, and_iff_left hlate,
      ← endings_read_iff hfleet hwoven hp]
    exact (result_reception { hub } shortage hle).trans (by rw [Nat.zero_add])

/-- **Nothing is lost and nothing is counted twice.** However the lines of the agents are merged, and
whatever stands between them that is no event, the coordinator gets the endings that it expects,
unless it reads a late line, or the agents break off in front of a tier without room. What it leaves
unread then is at most the ends of the agents' runs. The events that it applies interleave all that
the agents report inside their runs, so each of them is applied once; there are as many outcomes and
completed invocations as the plan expects; and what is drained later does not reach the sink. -/
theorem consume_gathers {users cycles : List UInt64} {agents : Option UInt64} {p : Plan}
    (hplan : Plan.make users cycles agents = .ok p) {fleet : List Agent}
    (hfleet : fleet.length = p.agentCount) {arrivals : List Arrival}
    (hwoven : Woven (fleet.map (Agent.log p)) ((decodedAll arrivals).map Prod.snd))
    (shortage : Shortage) {hub : Hub} (hfresh : hub.sink = Sink.empty) :
    ∃ expected, p.expectedTotal = .ok expected ∧
      let read := upToEnding expected arrivals
      let r := consume expected shortage { hub } arrivals
      let sink := r.intake.hub.sink
      (r.result = .error .clockOverflow ↔ ∃ a ∈ read, IsLate a) ∧
      (r.result = .ok () ↔ p.HasRoom ∧ ¬ ∃ a ∈ read, IsLate a) ∧
      (r.result = .ok () →
        (∀ a ∈ r.unread, ∀ e, decoded? a = some e → e.kind = .stopTestRun) ∧
        (arrivals = read ++ r.unread ∧ sink = Sink.empty.commitAll (applied read) ∧
          Woven (fleet.map fun a => (a.log p).filter fun e => !e.isRunEvent)
            ((applied read).map Prod.snd)) ∧
        r.intake.tally.completed = expected ∧
        sink.successTotal none none + sink.failuresTotal none none + sink.errorsTotal none none =
          expected ∧
        ∀ s : Intake, ((∃ a ∈ r.unread, IsLate a) ∧ drain s r.unread = .error .clockOverflow) ∨
          ∃ t, drain s r.unread = .ok t ∧ t.hub.sink = s.hub.sink) := by
  have hp := (Plan.make_eq_ok_iff.1 hplan).2
  let expected := p.perAgent * p.agentCount
  refine ⟨expected, hp.expectedTotal, ?_⟩
  intro read r sink
  have hok : r.result = .ok () ↔ p.HasRoom ∧ ¬ ∃ a ∈ read, IsLate a :=
    consume_ok_iff hp hfleet hwoven shortage hub
  refine ⟨consume_late_iff expected shortage { hub } arrivals, hok, fun hresult => ?_⟩
  obtain ⟨hroom, hnone⟩ := hok.1 hresult
  have hr : r = Intake.reception { hub } expected shortage read arrivals :=
    consume_eq expected shortage { hub } arrivals ((onClock_iff read).2 hnone)
  have hread : endings read = expected := (endings_read_iff hfleet hwoven hp).2 hroom
  have happlied : applied read = applied arrivals := applied_of_woven hfleet hwoven hp hroom
  have hsink : sink = Sink.empty.commitAll (applied read) := by
    show r.intake.hub.sink = _
    rw [hr, ← hfresh]
    rfl
  refine ⟨?_, ⟨?_, hsink, ?_⟩, ?_, ?_, fun s => drain_cases s r.unread⟩
  · rw [hr]
    exact fun a ha e he => unread_of_woven hfleet hwoven hp hroom e
      (List.mem_map_of_mem (mem_decodedAll ha he))
  · rw [hr]
    exact (upToEnding_append_drop ..).symm
  · have h := hwoven.filter fun e => !e.isRunEvent
    rw [List.map_map] at h
    rw [happlied, events_applied]
    exact h
  · rw [hr]
    exact (Nat.zero_add _).trans hread
  · rw [hsink, Sink.outcomes_commitAll, happlied, outcomes_of_woven hfleet hwoven,
      Plan.roomy_eq hroom]

/-! ## two agents -/

def quietAgent (worker : String) : Agent where
  context := { stream := .stdout { total := none }, worker := some worker }
  test := "t"
  body _ _ := .only .success
  onlyMeasures _ _ := nofun
  weaver := .inTurn
  closing := .ok ()
  start := 0

def pairPlan : Plan := ⟨[1], [1], some 2⟩

def pair : List Agent := [quietAgent "a", quietAgent "b"]

/-- the logs of the pair line by line, after a blank line and a line that is no event -/
def pairArrivals : List Arrival :=
  [(0, ""),
    (1, "agents ready"),
    (2, "[\"startTestRun\",\"a\"]"),
    (3, "[\"startTestRun\",\"b\"]"),
    (4, "[\"startTest\",\"t\",[1,1,1,1],\"a\"]"),
    (5, "[\"startTest\",\"t\",[1,1,1,1],\"b\"]"),
    (6, "[\"addSuccess\",\"t\",[1,1,1,1],\"a\"]"),
    (7, "[\"addSuccess\",\"t\",[1,1,1,1],\"b\"]"),
    (8, "[\"stopTest\",\"t\",[1,1,1,1],\"a\"]"),
    (9, "[\"stopTest\",\"t\",[1,1,1,1],\"b\"]"),
    (10, "[\"stopTestRun\",\"a\"]"),
    (11, "[\"stopTestRun\",\"b\"]")]

theorem decodedAll_pairArrivals : OnClock pairArrivals ∧
    (decodedAll pairArrivals).map Prod.snd =
      Weaver.rounds.weave 0 (pair.map fun a => (a.log pairPlan).map fun e => [e]) := by
  unfold OnClock
  decide +kernel

theorem woven_pairArrivals :
    Woven (pair.map (Agent.log pairPlan)) ((decodedAll pairArrivals).map Prod.snd) := by
  have hsingle : ∀ l : List Event, (l.map fun e => [e]).flatten = l := fun l => by
    rw [← List.flatMap_def]
    exact List.flatMap_singleton' l
  have h := Weaver.rounds.woven 0 (pair.map fun a => (a.log pairPlan).map fun e => [e])
  rw [List.map_map] at h
  simp only [Function.comp_def, hsingle] at h
  rw [decodedAll_pairArrivals.2]
  exact h

theorem consume_gathers_pair :
    Plan.make [1] [1] (some 2) = .ok pairPlan ∧ pair.length = pairPlan.agentCount ∧
      Woven (pair.map (Agent.log pairPlan)) ((decodedAll pairArrivals).map Prod.snd) ∧
      Hub.empty.sink = Sink.empty ∧ pairPlan.HasRoom ∧
      (¬ ∃ a ∈ upToEnding 2 pairArrivals, IsLate a) ∧
      (consume 2 .closed { hub := Hub.empty } pairArrivals).result = .ok () ∧
      (consume 2 .closed { hub := Hub.empty } pairArrivals).intake.tally.completed = 2 := by
  have hplan : Plan.make [1] [1] (some 2) = .ok pairPlan := rfl
  have hfresh : Hub.empty.sink = Sink.empty := rfl
  have hroom : pairPlan.HasRoom := by decide
  have hnone : ¬ ∃ a ∈ upToEnding 2 pairArrivals, IsLate a := by
    rintro ⟨a, ha, hlate⟩
    exact (onClock_iff pairArrivals).1 decodedAll_pairArrivals.1
      ⟨a, (prefix_upToEnding 2 pairArrivals).subset ha, hlate⟩
  obtain ⟨expected, hexpected, -, hok, hgathered⟩ :=
    consume_gathers hplan rfl woven_pairArrivals .closed hfresh
  obtain rfl : 2 = expected := Except.ok.inj hexpected
  have hresult := hok.2 ⟨hroom, hnone⟩
  exact ⟨hplan, rfl, woven_pairArrivals, hfresh, hroom, hnone, hresult, (hgathered hresult).2.2.1⟩

/-- a line that is no event, in front of the lines of the pair -/
theorem consume_gathers_lateHit :
    let arrivals : List Arrival := (0, lateHit) :: pairArrivals
    Plan.make [1] [1] (some 2) = .ok pairPlan ∧ pair.length = pairPlan.agentCount ∧
      decoded? (0, lateHit) = none ∧
      Woven (pair.map (Agent.log pairPlan)) ((decodedAll arrivals).map Prod.snd) ∧
      (consume 2 .closed { hub := Hub.empty } arrivals).result ≠ .ok () := by
  intro arrivals
  have hplan : Plan.make [1] [1] (some 2) = .ok pairPlan := rfl
  have hline : Line.ofText lateHit = .clockOverflow := by decide +kernel
  have hnone : decoded? (0, lateHit) = none := by decide +kernel
  have hdecoded : decodedAll arrivals = decodedAll pairArrivals :=
    List.filterMap_cons_none (by rw [hnone]; rfl)
  have htake : ∀ s : Intake, s.take (0, lateHit) = .error .clockOverflow := fun s =>
    take_overflow s hline
  have hresult : (consume 2 .closed { hub := Hub.empty } arrivals).result =
      .error .clockOverflow := by
    rw [consume, htake]
    rfl
  refine ⟨hplan, rfl, hnone, ?_, ?_⟩
  · rw [hdecoded]
    exact woven_pairArrivals
  · rw [hresult]
    intro h
    cases h

end LoadTest.Coordinator
