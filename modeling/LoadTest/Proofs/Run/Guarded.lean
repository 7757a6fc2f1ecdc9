import LoadTest.Proofs.Run.Interleaving
import LoadTest.Proofs.Run.Planned
import LoadTest.Proofs.Sink.Observers
import LoadTest.Run.Local

/-!
# Runs that no panic leaves

Where no panic leaves an invocation, every user of every tier does all that is planned.

* `Scenario.Guarded`      no panic leaves an invocation
* `Plan.userLog`          what one user reports, cycle size by cycle size and step by step
* `schedule_of_guarded`   the schedule holds every planned invocation once
* `Finished.log`          the events of a run in the order of their commits
* `blocks_of_guarded`     the log of a run is one block for each tier that it comes to
* `countInvocations_of_guarded`   the counters of a run do not overflow
-/

namespace LoadTest

def Scenario.Guarded (s : Scenario) : Prop := ∀ slot worker, (s.invoke slot worker).escape = none

theorem Scenario.testCase_guarded (name : String) (body : Slot → Option String → Body) :
    (Scenario.testCase name body).Guarded := fun _ _ => rfl

def Scenario.slotLog (s : Scenario) (worker : Option String) (slot : Slot) : List Event :=
  reported (s.invoke slot worker).acts

def Stream.told (s : Stream) (log : List Event) : Stream :=
  log.foldl (fun s e => (s.push e).toOption.getD s) s

/-- What one user reports: for each cycle size in order, and for each step of it, what `log` says
about one invocation. -/
def Plan.userLog (p : Plan) (log : Slot → List Event) (tier : Nat) (size user : UInt64) :
    List Event :=
  p.cycles.zipIdx.flatMap fun (cycle, stage) =>
    (List.range cycle.toNat).flatMap fun k =>
      log ⟨tier, stage, ⟨UInt64.ofNat (k + 1), user, cycle, size⟩⟩

theorem reported_append (a b : List Act) : reported (a ++ b) = reported a ++ reported b :=
  List.filterMap_append

theorem reported_flatten (l : List (List Act)) :
    reported l.flatten = (l.map reported).flatten := by
  induction l with
  | nil => rfl
  | cons a l ih => rw [List.flatten_cons, reported_append, ih, List.map_cons, List.flatten_cons]

namespace Plan
variable (p : Plan) (log : Slot → List Event)

theorem userLog_eq (tier : Nat) (size user : UInt64) :
    p.userLog log tier size user = (p.slots tier size user).flatMap log := by
  simp only [userLog, slots, stageSlots, List.flatMap_assoc, List.flatMap_map]

theorem flatten_userLogs (tier : Nat) (size : UInt64) :
    ((usersOf size).map (p.userLog log tier size)).flatten = (p.tierSlots tier size).flatMap log := by
  rw [tierSlots, List.flatMap_assoc, ← List.flatMap_def]
  congr 1
  exact funext fun user => p.userLog_eq log tier size user

end Plan

namespace Run

/-! ## schedules -/

section
variable {log : List Invocation} (h : ∀ i ∈ log, i.escape = none)
include h

theorem untilEscape_eq_self : untilEscape log = log := by
  induction log with
  | nil => rfl
  | cons i log ih =>
    rw [untilEscape, h i (by simp), ih fun j hj => h j (by simp [hj])]
    rfl

theorem escapeOf_eq_none : escapeOf log = none := by
  induction log with
  | nil => rfl
  | cons i log ih =>
    show i.escape.or (escapeOf log) = none
    rw [h i (by simp), ih fun j hj => h j (by simp [hj])]
    rfl

end

theorem TierRun.escape_eq_none {t : TierRun} (h : ∀ u ∈ t, escapeOf u = none) :
    t.escape = none := by
  induction t with
  | nil => rfl
  | cons u t ih =>
    show (escapeOf u).or (TierRun.escape t) = none
    rw [h u (by simp), ih fun v hv => h v (by simp [hv])]
    rfl

theorem untilBroken_eq_self {ts : List TierRun} (h : ∀ t ∈ ts, t.escape = none) :
    untilBroken ts = ts := by
  induction ts with
  | nil => rfl
  | cons t ts ih =>
    rw [untilBroken, h t (by simp), ih fun v hv => h v (by simp [hv])]
    rfl

theorem Schedule.escape_eq_none {s : Schedule} (h : ∀ t ∈ s, t.escape = none) :
    s.escape = none := by
  induction s with
  | nil => rfl
  | cons t s ih =>
    show t.escape.or (Schedule.escape s) = none
    rw [h t (by simp), ih fun v hv => h v (by simp [hv])]
    rfl

def fullUserRun (p : Plan) (s : Scenario) (worker : Option String) (tier : Nat)
    (size user : UInt64) : List Invocation :=
  (p.slots tier size user).map fun slot => s.invoke slot worker

def fullTierRun (p : Plan) (s : Scenario) (worker : Option String) (size : UInt64) (tier : Nat) :
    TierRun :=
  (usersOf size).map (fullUserRun p s worker tier size)

section
variable {s : Scenario} (hs : s.Guarded) (p : Plan) (worker : Option String)
include hs

theorem escape_fullUserRun (tier : Nat) (size user : UInt64) :
    ∀ i ∈ fullUserRun p s worker tier size user, i.escape = none := by
  intro i hi
  obtain ⟨slot, _, rfl⟩ := List.mem_map.1 hi
  exact hs slot worker

theorem tierRun_of_guarded (tier : Nat) (size : UInt64) :
    tierRun p s worker tier size = fullTierRun p s worker size tier := by
  refine List.map_congr_left fun user _ => ?_
  exact untilEscape_eq_self (escape_fullUserRun hs p worker tier size user)

theorem escapeOf_of_mem_fullTierRun {size : UInt64} {tier : Nat} {u : List Invocation}
    (hu : u ∈ fullTierRun p s worker size tier) : escapeOf u = none := by
  obtain ⟨user, _, rfl⟩ := List.mem_map.1 hu
  exact escapeOf_eq_none (escape_fullUserRun hs p worker tier size user)

theorem escape_of_mem_full {t : TierRun}
    (ht : t ∈ p.users.zipIdx.map fun x => fullTierRun p s worker x.1 x.2) : t.escape = none := by
  obtain ⟨x, _, rfl⟩ := List.mem_map.1 ht
  exact TierRun.escape_eq_none fun u hu => escapeOf_of_mem_fullTierRun hs p worker hu

/-- **Nothing is left out.** Every tier is started, and each of its users does what is planned. -/
theorem schedule_of_guarded :
    schedule p s worker = p.users.zipIdx.map fun x => fullTierRun p s worker x.1 x.2 := by
  unfold schedule
  simp only [tierRun_of_guarded hs]
  exact untilBroken_eq_self fun t ht => escape_of_mem_full hs p worker ht

theorem escape_of_guarded : (schedule p s worker).escape = none := by
  rw [schedule_of_guarded hs]
  exact Schedule.escape_eq_none fun t ht => escape_of_mem_full hs p worker ht

end

/-! ## logs -/

theorem play_events (acts : List Act) (now : Instant) :
    (play now acts).1.map Prod.snd = reported acts := by
  induction acts generalizing now with
  | nil => rfl
  | cons a acts ih =>
    cases a with
    | wait nanos => exact ih (now + nanos)
    | report e => exact congrArg (e :: ·) (ih now)

def Finished.log (f : Finished) : List Event := f.history.map Prod.snd

/-- what a run reports last -/
def lastEvents (worker : Option String) (broken : Bool) : List Event :=
  if broken then [] else [.stopTestRun worker]

section
variable {worker : Option String} {broken : Bool}

theorem eq_of_mem_lastEvents {e : Event} (h : e ∈ lastEvents worker broken) :
    e = .stopTestRun worker := by
  cases broken with
  | true => cases h
  | false => exact List.mem_singleton.1 h

theorem countP_lastEvents {f : Event → Bool} (h : f (.stopTestRun worker) = false) :
    (lastEvents worker broken).countP f = 0 := by
  rw [List.countP_eq_zero]
  intro e he
  rw [eq_of_mem_lastEvents he, h]
  exact Bool.false_ne_true

theorem filterMap_lastEvents {α : Type} {f : Event → Option α} (h : f (.stopTestRun worker) = none) :
    (lastEvents worker broken).filterMap f = [] := by
  rw [List.filterMap_eq_nil_iff]
  intro e he
  rw [eq_of_mem_lastEvents he, h]

end

theorem log_execute (c : RunContext) (p : Plan) (s : Scenario) (weaver : Weaver Act)
    (closing : Except Error Unit) (start : Instant) :
    (execute c p s weaver closing start).log =
      .startTestRun c.worker :: reported ((schedule p.roomy s c.worker).acts weaver) ++
        lastEvents c.worker (breaksOff p (schedule p.roomy s c.worker)) := by
  show (play start (acts c.worker (schedule p.roomy s c.worker) weaver _)).1.map Prod.snd = _
  rw [play_events, acts, reported_append]
  cases breaksOff p (schedule p.roomy s c.worker) <;> rfl

theorem sink_execute (c : RunContext) (p : Plan) (s : Scenario) (weaver : Weaver Act)
    (closing : Except Error Unit) (start : Instant) :
    (execute c p s weaver closing start).hub.sink =
      Sink.empty.commitAll (execute c p s weaver closing start).history :=
  Hub.sink_applyAll (freshHub c) _

/-- the stream is told of every event, and closed at the end of a run that does not break off -/
theorem uses_execute (c : RunContext) (p : Plan) (s : Scenario) (weaver : Weaver Act)
    (closing : Except Error Unit) (start : Instant) :
    let run := execute c p s weaver closing start
    run.uses = run.log.map Stream.Use.push ++
      if breaksOff p (schedule p.roomy s c.worker) then [] else [.close] := by
  intro run
  have hseen : run.hub.seenBy 0 = run.log :=
    Hub.seenBy_applyAll (freshHub c) run.history Nat.one_pos
  show (run.hub.seenBy 0).map Stream.Use.push ++ _ = _
  rw [hseen]

theorem stream_execute (c : RunContext) (p : Plan) (s : Scenario) (weaver : Weaver Act)
    (closing : Except Error Unit) (start : Instant) :
    let run := execute c p s weaver closing start
    run.stream = if breaksOff p (schedule p.roomy s c.worker) then c.stream.told run.log
      else (c.stream.told run.log).close := by
  intro run
  have htold : (run.log.map Stream.Use.push).foldl Stream.use c.stream = c.stream.told run.log :=
    List.foldl_map
  show run.uses.foldl Stream.use c.stream = _
  rw [uses_execute c p s weaver closing start, List.foldl_append, htold]
  cases breaksOff p (schedule p.roomy s c.worker) <;> rfl

theorem result_execute (c : RunContext) (p : Plan) (s : Scenario) (weaver : Weaver Act)
    (closing : Except Error Unit) (start : Instant) :
    let run := execute c p s weaver closing start
    let sched := schedule p.roomy s c.worker
    ∃ stop, run.result = if breaksOff p sched then .error .capacityOverflow
      else verdict sched.escape closing (run.hub.sink.summary stop) :=
  ⟨_, rfl⟩

/-- Where all tiers have room, no run breaks off. -/
theorem breaksOff_of_hasRoom {p : Plan} (hroom : p.HasRoom) (s : Schedule) :
    breaksOff p s = false := by
  rw [breaksOff, decide_eq_true hroom, Bool.not_true, Bool.and_false]

theorem breaksOff_of_escape {s : Schedule} (h : s.escape.isSome = true) (p : Plan) :
    breaksOff p s = false := by
  rw [breaksOff, Option.isNone_eq_false_iff.2 h, Bool.false_and]

/-- Without a panic, only a tier without room breaks a run off. -/
theorem breaksOff_of_none {s : Schedule} (h : s.escape = none) (p : Plan) :
    breaksOff p s = !decide p.HasRoom := by
  rw [breaksOff, h]
  rfl

theorem Woven.reported {logs : List (List Act)} {w : List Act} (h : Woven logs w) :
    Woven (logs.map reported) (reported w) := by
  delta LoadTest.reported
  exact h.filterMap _

/-- `t.Reports block`: the block interleaves what the users of the tier report. -/
def TierRun.Reports (t : TierRun) (block : List Event) : Prop :=
  Woven (t.map fun u => u.flatMap fun i => reported i.acts) block

theorem TierRun.reports_acts (t : TierRun) (weaver : Weaver Act) (tier : Nat) :
    t.Reports (reported (t.acts weaver tier)) := by
  have h := (weaver.woven tier (t.map fun u => u.map Invocation.acts)).reported
  have heq : ∀ u : List Invocation,
      reported (u.map Invocation.acts).flatten = u.flatMap fun i => reported i.acts := fun u => by
    rw [reported_flatten, List.map_map, ← List.flatMap_def]
    rfl
  rw [List.map_map, List.map_map] at h
  unfold TierRun.Reports
  simp only [← heq]
  exact h

theorem Schedule.reported_acts (s : Schedule) (weaver : Weaver Act) :
    ∃ blocks, reported (s.acts weaver) = blocks.flatten ∧
      List.Forall₂ TierRun.Reports s blocks := by
  have hfrom : ∀ n, ∃ blocks,
      reported ((s.zipIdx n).flatMap fun x => x.1.acts weaver x.2) = blocks.flatten ∧
        List.Forall₂ TierRun.Reports s blocks := by
    induction s with
    | nil => exact fun _ => ⟨[], rfl, .nil⟩
    | cons t s ih =>
      intro n
      obtain ⟨blocks, heq, hblocks⟩ := ih (n + 1)
      refine ⟨_ :: blocks, ?_, .cons (t.reports_acts weaver n) hblocks⟩
      rw [List.zipIdx_cons, List.flatMap_cons, reported_append, heq, List.flatten_cons]
  exact hfrom 0

theorem flatMap_fullUserRun (p : Plan) (s : Scenario) (worker : Option String) (tier : Nat)
    (size user : UInt64) :
    ((fullUserRun p s worker tier size user).flatMap fun i => reported i.acts) =
      p.userLog (s.slotLog worker) tier size user := by
  rw [Plan.userLog_eq, fullUserRun, List.flatMap_map]
  rfl

/-- `IsBlock p log (size, tier) block`: the block interleaves what the users of the tier report. -/
def IsBlock (p : Plan) (log : Slot → List Event) (x : UInt64 × Nat) (block : List Event) : Prop :=
  Woven ((usersOf x.1).map (p.userLog log x.2 x.1)) block

theorem isBlock_of_reports {p : Plan} {s : Scenario} {worker : Option String} {x : UInt64 × Nat}
    {block : List Event} (h : (fullTierRun p s worker x.1 x.2).Reports block) :
    IsBlock p (s.slotLog worker) x block := by
  have heq : ((fun u : List Invocation => u.flatMap fun i => reported i.acts) ∘
      fullUserRun p s worker x.2 x.1) = p.userLog (s.slotLog worker) x.2 x.1 :=
    funext fun user => flatMap_fullUserRun p s worker x.2 x.1 user
  rw [TierRun.Reports, fullTierRun, List.map_map, heq] at h
  exact h

theorem breaksOff_of_guarded {s : Scenario} (hs : s.Guarded) (p : Plan) (worker : Option String) :
    breaksOff p (schedule p.roomy s worker) = !decide p.HasRoom :=
  breaksOff_of_none (escape_of_guarded hs p.roomy worker) p

/-- **One block for each tier.** After the start of the run stand the blocks of the tiers that have
room, one after the other, and then the end of the run unless it breaks off. -/
theorem blocks_of_guarded {s : Scenario} (hs : s.Guarded) (c : RunContext) (p : Plan)
    (weaver : Weaver Act) (closing : Except Error Unit) (start : Instant) :
    ∃ blocks, (execute c p s weaver closing start).log =
        .startTestRun c.worker :: blocks.flatten ++ lastEvents c.worker (!decide p.HasRoom) ∧
      List.Forall₂ (IsBlock p.roomy (s.slotLog c.worker)) p.roomy.users.zipIdx blocks := by
  obtain ⟨blocks, heq, hblocks⟩ := (schedule p.roomy s c.worker).reported_acts weaver
  rw [schedule_of_guarded hs, List.forall₂_map_left_iff] at hblocks
  refine ⟨blocks, ?_, hblocks.imp fun x block h => isBlock_of_reports h⟩
  rw [log_execute, heq, breaksOff_of_guarded hs]

theorem perm_of_blocks {p : Plan} {log : Slot → List Event} {tiers : List (UInt64 × Nat)}
    {blocks : List (List Event)} (h : List.Forall₂ (IsBlock p log) tiers blocks) :
    blocks.flatten.Perm ((tiers.flatMap fun x => p.tierSlots x.2 x.1).flatMap log) := by
  induction h with
  | nil => exact .refl _
  | cons hblock _ ih =>
    rw [List.flatten_cons, List.flatMap_cons, List.flatMap_append, ← Plan.flatten_userLogs]
    exact hblock.perm.append ih

/-- Where all tiers have room, only the end of the stream can make the run fail. -/
theorem result_of_guarded {s : Scenario} (hs : s.Guarded) (c : RunContext) {p : Plan}
    (hroom : p.HasRoom) (weaver : Weaver Act) (closing : Except Error Unit) (start : Instant) :
    let run := execute c p s weaver closing start
    ∃ stop, run.result = closing.map fun _ => run.hub.sink.summary stop := by
  obtain ⟨stop, hresult⟩ := result_execute c p s weaver closing start
  refine ⟨stop, hresult.trans ?_⟩
  rw [breaksOff_of_hasRoom hroom, escape_of_guarded hs]
  cases closing <;> rfl

/-- In front of a tier without room, a run breaks off. -/
theorem result_of_crowded {s : Scenario} (hs : s.Guarded) (c : RunContext) {p : Plan}
    (hcrowded : ¬ p.HasRoom) (weaver : Weaver Act) (closing : Except Error Unit)
    (start : Instant) :
    (execute c p s weaver closing start).result = .error .capacityOverflow := by
  obtain ⟨stop, hresult⟩ := result_execute c p s weaver closing start
  rw [breaksOff_of_guarded hs, decide_eq_false hcrowded] at hresult
  exact hresult

/-- a tier that is just too long -/
def crowdedPlan : Plan := ⟨[0x1000000000000000], [1], none⟩

theorem not_hasRoom_crowdedPlan : ¬ crowdedPlan.HasRoom := by decide

/-- The run is started, and that is all. -/
theorem execute_crowded {s : Scenario} (hs : s.Guarded) (c : RunContext) (weaver : Weaver Act)
    (closing : Except Error Unit) (start : Instant) :
    let run := execute c crowdedPlan s weaver closing start
    run.log = [.startTestRun c.worker] ∧ run.uses = [.push (.startTestRun c.worker)] ∧
      run.result = .error .capacityOverflow := by
  intro run
  have hlog : run.log = [.startTestRun c.worker] := by
    obtain ⟨blocks, hlog, hblocks⟩ := blocks_of_guarded hs c crowdedPlan weaver closing start
    have hnone : crowdedPlan.roomy.users.zipIdx = [] := by decide
    rw [hnone, List.forall₂_nil_left_iff] at hblocks
    rw [hblocks, decide_eq_false not_hasRoom_crowdedPlan] at hlog
    exact hlog
  have huses := uses_execute c crowdedPlan s weaver closing start
  rw [breaksOff_of_guarded hs, decide_eq_false not_hasRoom_crowdedPlan] at huses
  refine ⟨hlog, ?_, result_of_crowded hs c not_hasRoom_crowdedPlan weaver closing start⟩
  rw [huses, hlog]
  rfl

/-! ## counters -/

theorem foldlM_counts {α : Type} (step : Nat → α → Option Nat) (f : α → Nat) {l : List α} {a : Nat}
    (hstep : ∀ x ∈ l, ∀ n, n + f x < UInt64.size → step n x = some (n + f x))
    (h : a + (l.map f).sum < UInt64.size) : l.foldlM step a = some (a + (l.map f).sum) := by
  induction l generalizing a with
  | nil => rfl
  | cons x l ih =>
    rw [List.map_cons, List.sum_cons, ← Nat.add_assoc] at h ⊢
    rw [List.foldlM_cons, hstep x (by simp) a (by omega)]
    exact ih (fun y hy => hstep y (by simp [hy])) h

theorem addCounts_eq_some {a b : Nat} (h : a + b < UInt64.size) : addCounts a b = some (a + b) :=
  if_pos h

theorem countUser_eq_some {log : List Invocation} (h : log.length < UInt64.size) :
    countUser log = some log.length := by
  have hsum : (log.map fun _ => 1).sum = log.length := by
    rw [List.map_const', List.sum_replicate_nat, Nat.mul_one]
  have h' := foldlM_counts (l := log) (a := 0) (fun n _ => addCounts n 1) (fun _ => 1)
    (fun _ _ _ hn => addCounts_eq_some hn) (by omega)
  rw [hsum, Nat.zero_add] at h'
  exact h'

def TierRun.size (t : TierRun) : Nat := (t.map List.length).sum

theorem TierRun.countInvocations_eq_some {t : TierRun} {n : Nat}
    (ht : ∀ u ∈ t, escapeOf u = none) (h : n + t.size < UInt64.size) :
    t.countInvocations n = some (n + t.size) := by
  have hall : (t.filter fun u => (escapeOf u).isNone) = t :=
    List.filter_eq_self.2 fun u hu => by rw [ht u hu]; rfl
  unfold TierRun.countInvocations
  rw [hall]
  refine foldlM_counts _ List.length (fun u _ m hm => ?_) h
  rw [countUser_eq_some (by omega)]
  exact addCounts_eq_some hm

theorem size_fullTierRun (p : Plan) (s : Scenario) (worker : Option String) (size : UInt64)
    (tier : Nat) : (fullTierRun p s worker size tier).size = (p.tierSlots tier size).length := by
  rw [TierRun.size, fullTierRun, List.map_map, Plan.tierSlots, List.length_flatMap]
  congr 1
  exact List.map_congr_left fun user _ => List.length_map ..

/-- **The counters of a run do not overflow** where its invocations can be counted. -/
theorem countInvocations_of_guarded {s : Scenario} (hs : s.Guarded) (p : Plan)
    (worker : Option String) (h : p.perAgent < UInt64.size) :
    (schedule p s worker).countInvocations = some p.perAgent := by
  have hsum : ((schedule p s worker).map TierRun.size).sum = p.perAgent := by
    rw [← p.length_planned, Plan.planned, List.length_flatMap, schedule_of_guarded hs,
      List.map_map]
    congr 1
    exact List.map_congr_left fun x _ => size_fullTierRun p s worker x.1 x.2
  have hcount := foldlM_counts (l := schedule p s worker) (a := 0) TierRun.countInvocations
    TierRun.size (fun t ht n hn => ?_) (by omega)
  · rw [hsum, Nat.zero_add] at hcount
    exact hcount
  · rw [schedule_of_guarded hs] at ht
    obtain ⟨x, _, rfl⟩ := List.mem_map.1 ht
    exact TierRun.countInvocations_eq_some
      (fun u hu => escapeOf_of_mem_fullTierRun hs p worker hu) hn

end Run

end LoadTest
