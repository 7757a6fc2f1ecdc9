import LoadTest.Proofs.Run.FirstOccurrence
import LoadTest.Proofs.Run.TestCase
import LoadTest.Proofs.Sink.ArrivalOrder
import LoadTest.Proofs.Sink.Totals

/-!
# The buckets of a run

Which buckets a run of a test leaves, in which order, and how much stands in each of them, is a
function of the plan. Repeated sizes fold into one bucket, and how the users of a tier are
interleaved makes no difference.

* `Plan.countP_planned`       how often a pair of sizes is planned
* `Plan.bucketKeys`           the keys of the buckets in their order
* `Run.eraseDups_block`       the keys in the block of a tier
* `Run.outcomes_log`          each planned slot has one outcome
* `Run.filter_key?_perm`      logs with the same outcomes
* `Run.keys_execute`          the keys in the history of a run
* `Run.Laid`, `Run.execute_layout`   the buckets of a run
-/

namespace LoadTest

/-! ## how often a pair of sizes is planned -/

def Slot.hasSizes (user cycle : UInt64) (slot : Slot) : Bool :=
  slot.status.currentUser = user ∧ slot.status.currentCycle = cycle

namespace Plan

theorem sum_map_ite (l : List UInt64) (a : UInt64) (n : Nat) :
    (l.map fun b => if b = a then n else 0).sum = l.count a * n := by
  rw [List.sum_map_eq_nsmul_single a _ fun b hb _ => if_neg hb, if_pos rfl]
  rfl

section
variable (p : Plan) (user cycle : UInt64)

theorem countP_stageSlots (tier : Nat) (size number : UInt64) (stage : Nat) (length : UInt64) :
    (stageSlots tier size number stage length).countP (Slot.hasSizes user cycle) =
      if length = cycle then (if size = user then cycle.toNat else 0) else 0 := by
  rw [stageSlots_eq, List.countP_map]
  show (usersOf length).countP (fun _ => decide (size = user ∧ length = cycle)) = _
  by_cases hsizes : size = user ∧ length = cycle
  · rw [List.countP_eq_length.2 fun _ _ => decide_eq_true hsizes, length_usersOf, if_pos hsizes.2,
      if_pos hsizes.1, hsizes.2]
  · rw [List.countP_eq_zero.2 fun _ _ => by simpa using hsizes]
    by_cases hlength : length = cycle
    · rw [if_pos hlength, if_neg fun hsize => hsizes ⟨hsize, hlength⟩]
    · rw [if_neg hlength]

theorem countP_slots (tier : Nat) (size number : UInt64) :
    (p.slots tier size number).countP (Slot.hasSizes user cycle) =
      if size = user then p.cycles.count cycle * cycle.toNat else 0 := by
  have hstages : (p.slots tier size number).countP (Slot.hasSizes user cycle) =
      (p.cycles.map fun length =>
        if length = cycle then (if size = user then cycle.toNat else 0) else 0).sum := by
    rw [slots, List.countP_flatMap, ← map_zipIdx_fst _ p.cycles 0]
    apply congrArg List.sum
    apply List.map_congr_left
    intro x _
    exact countP_stageSlots user cycle tier size number x.2 x.1
  rw [hstages, sum_map_ite]
  split <;> rfl

theorem countP_tierSlots (tier : Nat) (size : UInt64) :
    (p.tierSlots tier size).countP (Slot.hasSizes user cycle) =
      if size = user then user.toNat * (p.cycles.count cycle * cycle.toNat) else 0 := by
  have husers : (usersOf size).map (List.countP (Slot.hasSizes user cycle) ∘ p.slots tier size) =
      (usersOf size).map fun _ => if size = user then p.cycles.count cycle * cycle.toNat else 0 :=
    List.map_congr_left fun number _ => p.countP_slots user cycle tier size number
  rw [tierSlots, List.countP_flatMap, husers, List.map_const', List.sum_replicate_nat,
    length_usersOf]
  by_cases hsize : size = user
  · rw [if_pos hsize, if_pos hsize, hsize]
  · rw [if_neg hsize, if_neg hsize, Nat.mul_zero]

/-- **How often a pair of sizes is planned**: every user of every such tier makes every step of
every such cycle. -/
theorem countP_planned : p.planned.countP (Slot.hasSizes user cycle) =
    user.toNat * cycle.toNat * p.users.count user * p.cycles.count cycle := by
  have htiers : p.planned.countP (Slot.hasSizes user cycle) = (p.users.map fun size =>
      if size = user then user.toNat * (p.cycles.count cycle * cycle.toNat) else 0).sum := by
    rw [planned, List.countP_flatMap, ← map_zipIdx_fst _ p.users 0]
    apply congrArg List.sum
    apply List.map_congr_left
    intro x _
    exact p.countP_tierSlots user cycle x.2 x.1
  rw [htiers, sum_map_ite]
  simp only [Nat.mul_comm, Nat.mul_left_comm]

end

/-! ## keys -/

section
variable (p : Plan) (test : String) (worker : Option String)

/-- the keys of the buckets of one tier: each cycle size once, in the order of first occurrence -/
def tierKeys (user : UInt64) : List BucketKey :=
  p.cycles.eraseDups.map fun cycle => ⟨test, user, cycle, worker⟩

/-- the keys of all buckets: each size of a tier once, in the order of first occurrence -/
def bucketKeys : List BucketKey := p.users.eraseDups.flatMap (p.tierKeys test worker)

theorem nodup_tierKeys (user : UInt64) : (p.tierKeys test worker user).Nodup :=
  (History.nodup_eraseDups p.cycles).map fun _ _ h => congrArg BucketKey.cycle h

theorem user_of_mem_tierKeys {user : UInt64} {key : BucketKey}
    (h : key ∈ p.tierKeys test worker user) : key.user = user := by
  obtain ⟨cycle, -, rfl⟩ := List.mem_map.1 h
  rfl

theorem mem_bucketKeys {key : BucketKey} : key ∈ p.bucketKeys test worker ↔
    key.test = test ∧ key.worker = worker ∧ key.user ∈ p.users ∧ key.cycle ∈ p.cycles := by
  simp only [bucketKeys, tierKeys, List.mem_flatMap, List.mem_map, History.mem_eraseDups]
  constructor
  · rintro ⟨user, huser, cycle, hcycle, rfl⟩
    exact ⟨rfl, rfl, huser, hcycle⟩
  · rintro ⟨rfl, rfl, huser, hcycle⟩
    exact ⟨_, huser, _, hcycle, rfl⟩

end

end Plan

namespace Run

theorem key?_of_isMeasurement {e : Event} (h : e.isMeasurement = true) : e.key? = none := by
  cases e <;> first | rfl | cases h

theorem key?_outcomeEvent (test : String) (status : Status) (worker : Option String) (e : Ending) :
    (outcomeEvent test status worker e).key? = some (.ofStatus test status worker) := by
  rcases e with (_ | _ | _) | (_ | _) <;> rfl

section
variable {test : String} {body : Slot → Option String → Body} {worker : Option String}
  (hbody : ∀ slot, (body slot worker).OnlyMeasures)
include hbody

theorem filterMap_key?_bracketLog (slot : Slot) :
    (bracketLog test body worker slot).filterMap Event.key? =
      List.replicate 3 (.ofStatus test slot.status worker) := by
  have hnone : (reported (body slot worker).acts).filterMap Event.key? = [] :=
    List.filterMap_eq_nil_iff.2 fun e he => key?_of_isMeasurement (hbody slot e he)
  have hstart : Event.key? (.startTest test slot.status worker) =
      some (.ofStatus test slot.status worker) := rfl
  rw [bracketLog, List.cons_append, List.filterMap_cons_some hstart, List.filterMap_append, hnone,
    List.nil_append, List.filterMap_cons_some (key?_outcomeEvent ..)]
  rfl

theorem eraseDups_userLog {p : Plan} (hcycles : 0 ∉ p.cycles) (tier : Nat) (size user : UInt64) :
    ((p.userLog (bracketLog test body worker) tier size user).filterMap Event.key?).eraseDups =
      p.tierKeys test worker size := by
  have hslots : (p.userLog (bracketLog test body worker) tier size user).filterMap Event.key? =
      p.cycles.zipIdx.flatMap fun x =>
        (usersOf x.1).flatMap fun _ => List.replicate 3 ⟨test, size, x.1, worker⟩ := by
    rw [Plan.userLog_eq, List.filterMap_flatMap]
    simp only [filterMap_key?_bracketLog hbody, Plan.slots, List.flatMap_assoc, stageSlots_eq,
      List.flatMap_map]
    rfl
  let key : UInt64 → BucketKey := fun cycle => ⟨test, size, cycle, worker⟩
  have hkeys : ∀ l : List UInt64, (l.map key).eraseDups = l.eraseDups.map key :=
    History.eraseDups_map fun c c' h => congrArg BucketKey.cycle h
  rw [hslots, History.eraseDups_flatMap_const, map_zipIdx_fst key p.cycles 0, hkeys]
  · rfl
  · -- a cycle has a step
    rintro ⟨cycle, stage⟩ hx
    have hmem : cycle ∈ p.cycles := List.fst_mem_of_mem_zipIdx hx
    have hone : 1 ∈ usersOf cycle := one_mem_usersOf fun h => hcycles (h ▸ hmem)
    exact List.ne_nil_of_mem (List.mem_flatMap.2 ⟨1, hone, List.mem_cons_self⟩)
  · rintro ⟨cycle, stage⟩ _ key hkey
    obtain ⟨_, _, hkey⟩ := List.mem_flatMap.1 hkey
    exact List.eq_of_mem_replicate hkey

theorem eraseDups_block {p : Plan} (hcycles : 0 ∉ p.cycles) {x : UInt64 × Nat} (hx : x.1 ≠ 0)
    {block : List Event} (hblock : IsBlock p (bracketLog test body worker) x block) :
    (block.filterMap Event.key?).eraseDups = p.tierKeys test worker x.1 := by
  have hwoven := hblock.filterMap Event.key?
  rw [List.map_map] at hwoven
  have huser : ∀ user, ((p.userLog (bracketLog test body worker) x.2 x.1 user).filterMap
      Event.key?).eraseDups = p.tierKeys test worker x.1 := eraseDups_userLog hbody hcycles x.2 x.1
  -- every user meets the keys of the tier in the same order, so their interleaving does too
  refine History.eraseDups_eq_of_prefix (p.nodup_tierKeys test worker x.1) ?_ fun key hkey => ?_
  · show ([] ++ block.filterMap Event.key?).eraseDups <+: _
    refine hwoven.eraseDups_prefix List.nil_prefix fun log hlog => ?_
    obtain ⟨user, -, rfl⟩ := List.mem_map.1 hlog
    exact (huser user) ▸ List.prefix_rfl
  · -- the first user meets them all
    rw [← huser 1, History.mem_eraseDups] at hkey
    exact (hwoven.sublist _ (List.mem_map_of_mem (one_mem_usersOf hx))).subset hkey

theorem eraseDups_blocks {p : Plan} (hcycles : 0 ∉ p.cycles) {tiers : List (UInt64 × Nat)}
    (htiers : ∀ x ∈ tiers, x.1 ≠ 0) {blocks : List (List Event)}
    (hblocks : List.Forall₂ (IsBlock p (bracketLog test body worker)) tiers blocks) :
    (blocks.flatMap fun block => (block.filterMap Event.key?).eraseDups) =
      tiers.flatMap fun x => p.tierKeys test worker x.1 := by
  induction hblocks with
  | nil => rfl
  | cons hblock _ ih =>
    have hfirst := eraseDups_block hbody hcycles (htiers _ List.mem_cons_self) hblock
    rw [List.flatMap_cons, List.flatMap_cons, hfirst,
      ih fun x hx => htiers x (List.mem_cons_of_mem _ hx)]

/-! ## what stands in a bucket -/

/-- only the three events around what a body measures can have a key -/
theorem filter_key?_bracketLog (slot : Slot) (key : BucketKey) :
    (bracketLog test body worker slot).filter (fun e => e.key? = some key) =
      [.startTest test slot.status worker,
        outcomeEvent test slot.status worker (body slot worker).ending,
        .stopTest test slot.status worker].filter fun e => e.key? = some key := by
  have hnone : (reported (body slot worker).acts).filter (fun e => e.key? = some key) = [] := by
    apply List.filter_eq_nil_iff.2
    intro e he
    rw [key?_of_isMeasurement (hbody slot e he)]
    simp
  have hsplit : bracketLog test body worker slot =
      [.startTest test slot.status worker] ++ reported (body slot worker).acts ++
        [outcomeEvent test slot.status worker (body slot worker).ending,
          .stopTest test slot.status worker] := rfl
  rw [hsplit, List.filter_append, List.filter_append, hnone, List.append_nil, ← List.filter_append]
  rfl

end

def outcomeKey? (e : Event) : Option BucketKey := if e.isOutcome then e.key? else none

section
variable {test : String} {body : Slot → Option String → Body} {worker : Option String}
  {p : Plan} {events : List Event} {broken : Bool}
  (hperm : events.Perm
    (.startTestRun worker :: p.planned.flatMap (bracketLog test body worker) ++
      lastEvents worker broken))
include hperm

theorem mem_bracket_of_key? {e : Event} {key : BucketKey} (he : e ∈ events)
    (hkey : e.key? = some key) : ∃ slot ∈ p.planned, e ∈ bracketLog test body worker slot := by
  rw [hperm.mem_iff, List.cons_append, List.mem_cons, List.mem_append] at he
  rcases he with rfl | he | he
  · cases hkey
  · exact List.mem_flatMap.1 he
  · rw [eq_of_mem_lastEvents he] at hkey
    cases hkey

variable (hbody : ∀ slot, (body slot worker).OnlyMeasures)
include hbody

/-- **Each planned slot has one outcome**, and it goes to the bucket of its status. -/
theorem outcomes_log : (events.filterMap outcomeKey?).Perm
    (p.planned.map fun slot => .ofStatus test slot.status worker) := by
  have hslot : ∀ slot, (bracketLog test body worker slot).filterMap outcomeKey? =
      [.ofStatus test slot.status worker] := by
    intro slot
    have hnone : (reported (body slot worker).acts).filterMap outcomeKey? = [] := by
      apply List.filterMap_eq_nil_iff.2
      intro e he
      rw [outcomeKey?, if_neg (by simp [(not_of_isMeasurement (hbody slot e he)).2.2.1])]
    have hone : outcomeKey? (outcomeEvent test slot.status worker (body slot worker).ending) =
        some (.ofStatus test slot.status worker) := by
      rw [outcomeKey?, if_pos (isOutcome_outcomeEvent ..), key?_outcomeEvent]
    rw [bracketLog, List.cons_append, List.filterMap_cons_none rfl, List.filterMap_append, hnone,
      List.nil_append, List.filterMap_cons_some hone]
    rfl
  have hmap : (p.planned.flatMap fun slot => [BucketKey.ofStatus test slot.status worker]) =
      p.planned.map fun slot => .ofStatus test slot.status worker := List.flatMap_pure_eq_map ..
  have hevents := hperm.filterMap outcomeKey?
  rw [List.cons_append, List.filterMap_cons_none rfl, List.filterMap_append,
    List.filterMap_flatMap, filterMap_lastEvents rfl] at hevents
  simp only [hslot, hmap] at hevents
  exact hevents.trans (List.Perm.of_eq (List.append_nil _))

/-- a key of a log is that of a status, and the log has an end with this key -/
theorem any_isStopTest {e : Event} {key : BucketKey} (he : e ∈ events) (hkey : e.key? = some key) :
    (events.filter fun e => e.key? = some key).any Event.isStopTest = true := by
  -- an event with a key stands in a bracket, and the bracket has an end with the same key
  obtain ⟨slot, hslot, he⟩ := mem_bracket_of_key? hperm he hkey
  have hstatus : key = .ofStatus test slot.status worker := by
    have hmem := List.mem_filterMap.2 ⟨e, he, hkey⟩
    rw [filterMap_key?_bracketLog hbody] at hmem
    exact List.eq_of_mem_replicate hmem
  have hstop : .stopTest test slot.status worker ∈ events := by
    rw [hperm.mem_iff]
    refine List.mem_append_left _ (List.mem_cons_of_mem _ (List.mem_flatMap.2 ⟨slot, hslot, ?_⟩))
    rw [bracketLog]
    simp
  refine List.any_eq_true.2 ⟨_, List.mem_filter.2 ⟨hstop, decide_eq_true ?_⟩, rfl⟩
  rw [hstatus]
  rfl

/-- **Two logs with the same outcomes** have the same events of each key, in some order. -/
theorem filter_key?_perm {body' : Slot → Option String → Body}
    (hbody' : ∀ slot, (body' slot worker).OnlyMeasures)
    (hsame : ∀ slot, (body slot worker).ending.outcome = (body' slot worker).ending.outcome)
    {events' : List Event}
    (hperm' : events'.Perm
      (.startTestRun worker :: p.planned.flatMap (bracketLog test body' worker) ++
        lastEvents worker broken)) (key : BucketKey) :
    (events.filter fun e => e.key? = some key).Perm
      (events'.filter fun e => e.key? = some key) := by
  have hslot : ∀ slot, (bracketLog test body worker slot).filter (fun e => e.key? = some key) =
      (bracketLog test body' worker slot).filter fun e => e.key? = some key := by
    intro slot
    have hevent : outcomeEvent test slot.status worker (body slot worker).ending =
        outcomeEvent test slot.status worker (body' slot worker).ending := by
      rw [← event_outcome, ← event_outcome, hsame]
    rw [filter_key?_bracketLog hbody, filter_key?_bracketLog hbody', hevent]
  have hleft := hperm.filter fun e => decide (e.key? = some key)
  have hright := hperm'.filter fun e => decide (e.key? = some key)
  rw [List.filter_append, List.filter_cons, List.filter_flatMap] at hleft hright
  simp only [hslot] at hleft
  exact hleft.trans hright.symm

/-- the outcomes in a bucket are as many as the slots with its sizes -/
theorem outcomes_bucket_eq {h : History} (hevents : h.events = events) {key : BucketKey}
    (htest : key.test = test) (hworker : key.worker = worker) :
    (History.bucket h key).outcomes =
      key.user.toNat * key.cycle.toNat * p.users.count key.user * p.cycles.count key.cycle := by
  have hcount : (History.bucket h key).outcomes = (events.filterMap outcomeKey?).count key := by
    rw [History.outcomes_bucket, History.forKey, List.countP_filter, List.count_filterMap,
      ← hevents, History.events, List.countP_map]
    refine List.countP_congr fun te _ => ?_
    by_cases houtcome : te.2.isOutcome <;> simp [outcomeKey?, houtcome]
  rw [hcount, (outcomes_log hperm hbody).count_eq, ← p.countP_planned, List.count_eq_countP,
    List.countP_map]
  refine List.countP_congr fun slot _ => ?_
  obtain ⟨test', user, cycle, worker'⟩ := key
  obtain rfl : test' = test := htest
  obtain rfl : worker' = worker := hworker
  simp [BucketKey.ofStatus, Slot.hasSizes]

theorem sum_outcomes {h : History} (hevents : h.events = events) :
    ((History.keys h).map fun key => (History.bucket h key).outcomes).sum = p.perAgent := by
  have hcount : events.countP Event.isOutcome = p.perAgent :=
    countP_log hperm rfl rfl fun slot => countP_isOutcome_bracketLog (hbody slot)
  have hhistory : (h.countP fun te => te.2.isOutcome) = p.perAgent := by
    rw [← hcount, ← hevents, History.events, List.countP_map]
    rfl
  rw [← hhistory, ← History.sum_countP_forKey h fun e => Event.key?_of_isOutcome]
  exact congrArg List.sum (List.map_congr_left fun key _ => History.outcomes_bucket h key)

end

/-! ## the buckets of a run -/

theorem tests_execute (c : RunContext) (p : Plan) (s : Scenario) (weaver : Weaver Act)
    (closing : Except Error Unit) (start : Instant) :
    let run := execute c p s weaver closing start
    run.hub.sink.tests none none =
      (History.keys run.history).map (History.bucket run.history) := by
  intro run
  have hsink : run.hub.sink = Sink.empty.commitAll run.history := sink_execute ..
  rw [Sink.tests_all, hsink, (Sink.groups_commitAll run.history).buckets_eq]

/-- **The keys in the history of a run** in the order of their first events. -/
theorem keys_execute {p : Plan} (husers : 0 ∉ p.users) (hcycles : 0 ∉ p.cycles) (c : RunContext)
    (test : String) {body : Slot → Option String → Body}
    (hbody : ∀ slot, (body slot c.worker).OnlyMeasures)
    (weaver : Weaver Act) (closing : Except Error Unit) (start : Instant) :
    History.keys (execute c p (.testCase test body) weaver closing start).history =
      p.roomy.bucketKeys test c.worker := by
  let run := execute c p (.testCase test body) weaver closing start
  obtain ⟨blocks, hlog, hblocks⟩ := blocks_of_testCase c p test body weaver closing start
  have hbounds : run.log.filterMap Event.key? = blocks.flatten.filterMap Event.key? := by
    rw [hlog, List.cons_append, List.filterMap_cons_none rfl, List.filterMap_append,
      filterMap_lastEvents rfl, List.append_nil]
  have hpos : ∀ x ∈ p.roomy.users.zipIdx, x.1 ≠ 0 := fun x hx h =>
    husers (h ▸ (List.takeWhile_sublist _).subset (List.fst_mem_of_mem_zipIdx hx))
  have htiers : (blocks.flatMap fun block => (block.filterMap Event.key?).eraseDups) =
      p.roomy.users.flatMap (p.roomy.tierKeys test c.worker) := by
    rw [eraseDups_blocks (p := p.roomy) hbody hcycles hpos hblocks, List.flatMap_def,
      List.flatMap_def, map_zipIdx_fst (p.roomy.tierKeys test c.worker) p.roomy.users 0]
  rw [History.keys_eq]
  show (run.log.filterMap Event.key?).eraseDups = _
  rw [hbounds, List.filterMap_flatten, ← List.flatMap_def, History.eraseDups_flatMap_eraseDups,
    htiers, History.eraseDups_flatMap (p.roomy.nodup_tierKeys test c.worker)]
  · rfl
  · intro user user' key hkey hkey'
    rw [← p.roomy.user_of_mem_tierKeys test _ hkey, ← p.roomy.user_of_mem_tierKeys test _ hkey']

/-- The buckets of a run that has gone through tiers of these sizes: one for each size of a tier and
each cycle size, in the order in which these first occur; each of them is finished and holds as many
outcomes as there are invocations with its sizes. -/
structure Laid (test : String) (worker : Option String) (users cycles : List UInt64)
    (tests : List Bucket) : Prop where
  keys : tests.map Bucket.key = users.eraseDups.flatMap fun user =>
    cycles.eraseDups.map fun cycle => ⟨test, user, cycle, worker⟩
  finished : ∀ b ∈ tests, b.isFinished = true
  outcomes : ∀ b ∈ tests, b.success + b.failures.size + b.errors.size =
    b.key.user.toNat * b.key.cycle.toNat * users.count b.key.user * cycles.count b.key.cycle

section
variable {p : Plan} (hp : p.Accepted) (c : RunContext) (test : String)
  {body : Slot → Option String → Body} (hbody : ∀ slot, (body slot c.worker).OnlyMeasures)
  (weaver : Weaver Act) (closing : Except Error Unit) (start : Instant)
include hp hbody

theorem laid_execute : Laid test c.worker p.roomy.users p.cycles
    ((execute c p (.testCase test body) weaver closing start).hub.sink.tests none none) := by
  let h := (execute c p (.testCase test body) weaver closing start).history
  have hkeys : History.keys h = p.roomy.bucketKeys test c.worker :=
    keys_execute hp.users_pos hp.cycles_pos c test hbody weaver closing start
  have hperm := perm_log c p test body weaver closing start
  rw [tests_execute]
  refine ⟨?_, fun b hb => ?_, fun b hb => ?_⟩
  · rw [List.map_map, hkeys]
    exact List.map_id' _
  · obtain ⟨key, hkey, rfl⟩ := List.mem_map.1 hb
    obtain ⟨te, hte, hkey⟩ := History.mem_keys.1 hkey
    show (History.bucket h key).account.isFinished = true
    rw [History.account_bucket]
    exact any_isStopTest hperm hbody (List.mem_map_of_mem hte) hkey
  · obtain ⟨key, hkey, rfl⟩ := List.mem_map.1 hb
    obtain ⟨htest, hworker, -⟩ := (p.roomy.mem_bucketKeys test c.worker).1 (hkeys ▸ hkey)
    exact outcomes_bucket_eq hperm hbody rfl htest hworker

omit hp in
theorem sum_outcomes_execute :
    (((execute c p (.testCase test body) weaver closing start).hub.sink.tests none none).map
      Bucket.outcomes).sum = p.roomy.perAgent := by
  rw [tests_execute, List.map_map]
  exact sum_outcomes (perm_log c p test body weaver closing start) hbody rfl

/-- what else a body measures, and how the users of a tier are interleaved, makes no difference -/
theorem layout_congr {body' : Slot → Option String → Body}
    (hbody' : ∀ slot, (body' slot c.worker).OnlyMeasures)
    (hsame : ∀ slot, (body slot c.worker).ending.outcome = (body' slot c.worker).ending.outcome)
    (weaver' : Weaver Act) (closing' : Except Error Unit) (start' : Instant) :
    List.Forall₂
      (fun b b' => b.key = b'.key ∧ b.success = b'.success ∧
        b.failures.size = b'.failures.size ∧ b.errors.size = b'.errors.size)
      ((execute c p (.testCase test body) weaver closing start).hub.sink.tests none none)
      ((execute c p (.testCase test body') weaver' closing' start').hub.sink.tests none none) := by
  let h := (execute c p (.testCase test body) weaver closing start).history
  let h' := (execute c p (.testCase test body') weaver' closing' start').history
  have hperm := perm_log c p test body weaver closing start
  have hperm' := perm_log c p test body' weaver' closing' start'
  have hkeys : History.keys h' = History.keys h :=
    (keys_execute hp.users_pos hp.cycles_pos c test hbody' weaver' closing' start').trans
      (keys_execute hp.users_pos hp.cycles_pos c test hbody weaver closing start).symm
  have halike : ∀ key, (History.bucket h key).account.Alike (History.bucket h' key).account := by
    intro key
    rw [History.account_bucket, History.account_bucket]
    exact Bucket.Account.ofEvents_alike (filter_key?_perm hperm hbody hbody' hsame hperm' key)
  rw [tests_execute, tests_execute, List.forall₂_map_left_iff, List.forall₂_map_right_iff, hkeys]
  refine List.forall₂_same.2 fun key _ => ⟨rfl, (halike key).success_eq, ?_, ?_⟩
  · exact (halike key).failures_perm.length_eq
  · exact (halike key).errors_perm.length_eq

end

/-- **The buckets of a run are a function of its plan.** Where every tier has room, they are laid out
as the plan says, and without agents their outcomes add up to the expected total. A run that breaks
off leaves the buckets of the tiers in front of the one without room. Where the outcome of a body
depends on nothing but the status, the counts in each bucket are the same however the users of a tier
are interleaved, and whatever the body measures. -/
theorem execute_layout {users cycles : List UInt64} {agents : Option UInt64} {p : Plan}
    (hplan : Plan.make users cycles agents = .ok p) (c : RunContext) (test : String)
    {body : Slot → Option String → Body} (hbody : ∀ slot worker, (body slot worker).OnlyMeasures)
    (weaver : Weaver Act) (closing : Except Error Unit) (start : Instant) :
    let run := execute c p (.testCase test body) weaver closing start
    let tests := run.hub.sink.tests none none
    (p.HasRoom → Laid test c.worker users cycles tests ∧
      (agents = none → p.expectedTotal = .ok (tests.map Bucket.outcomes).sum)) ∧
    (¬ p.HasRoom → ∃ size later, users = p.roomy.users ++ size :: later ∧ hasRoom size = false ∧
      Laid test c.worker p.roomy.users cycles tests ∧ run.result = .error .capacityOverflow) ∧
    ∀ outcome : Status → Outcome,
      (∀ slot, (body slot c.worker).ending.outcome = outcome slot.status) →
      ∀ body' : Slot → Option String → Body, (∀ slot worker, (body' slot worker).OnlyMeasures) →
      (∀ slot, (body' slot c.worker).ending.outcome = outcome slot.status) →
      ∀ (weaver' : Weaver Act) (closing' : Except Error Unit) (start' : Instant),
        let run' := execute c p (.testCase test body') weaver' closing' start'
        List.Forall₂
          (fun b b' => b.key = b'.key ∧ b.success = b'.success ∧
            b.failures.size = b'.failures.size ∧ b.errors.size = b'.errors.size)
          tests (run'.hub.sink.tests none none) := by
  obtain ⟨hparts, hp⟩ := Plan.make_eq_ok_iff.1 hplan
  obtain rfl : p.users = users := by rw [hparts]
  obtain rfl : p.cycles = cycles := by rw [hparts]
  obtain rfl : p.agents = agents := by rw [hparts]
  intro run tests
  have hworker : ∀ slot, (body slot c.worker).OnlyMeasures := fun slot => hbody slot c.worker
  have hlaid : Laid test c.worker p.roomy.users p.cycles tests :=
    laid_execute hp c test hworker weaver closing start
  refine ⟨fun hroom => ?_, fun hcrowded => ?_,
    fun outcome houtcome body' hbody' houtcome' weaver' closing' start' => ?_⟩
  · have hsum : (tests.map Bucket.outcomes).sum = p.roomy.perAgent :=
      sum_outcomes_execute c test hworker ..
    rw [Plan.roomy_eq hroom] at hlaid hsum
    refine ⟨hlaid, fun hagents => ?_⟩
    have hagent : p.agentCount = 1 := by
      rw [Plan.agentCount, hagents]
      rfl
    rw [hp.expectedTotal, hagent, Nat.mul_one, ← hsum]
  · obtain ⟨size, later, husers, hsize⟩ := Plan.exists_crowded hcrowded
    exact ⟨size, later, husers, hsize, hlaid, result_of_crowded
      (Scenario.testCase_guarded test body) c hcrowded weaver closing start⟩
  · exact layout_congr hp c test hworker weaver closing start (fun slot => hbody' slot c.worker)
      (fun slot => (houtcome slot).trans (houtcome' slot).symm) weaver' closing' start'

/-- two tiers of two users with one of one user between them, and two cycles of one step -/
theorem execute_layout_repeated :
    let p : Plan := ⟨[2, 1, 2], [1, 1], none⟩
    let c : RunContext := { stream := .stdout { total := none } }
    let outcome : Status → Outcome := fun status =>
      if status.user = 2 then .error "panicked: boom" else .success
    let tests := fun weaver : Weaver Act =>
      (execute c p (.testCase "t" flakyBody) weaver (.ok ()) 0).hub.sink.tests none none
    Plan.make [2, 1, 2] [1, 1] none = .ok p ∧ p.HasRoom ∧
      (∀ slot worker, (flakyBody slot worker).OnlyMeasures) ∧
      (∀ slot, (flakyBody slot c.worker).ending.outcome = outcome slot.status) ∧
      (tests .rounds).map Bucket.key = [⟨"t", 2, 1, none⟩, ⟨"t", 1, 1, none⟩] ∧
      ((tests .rounds).map Bucket.outcomes).sum = 10 ∧
      List.Forall₂
        (fun b b' => b.key = b'.key ∧ b.success = b'.success ∧
          b.failures.size = b'.failures.size ∧ b.errors.size = b'.errors.size)
        (tests .rounds) (tests .inTurn) := by
  intro p c outcome tests
  have hplan : Plan.make [2, 1, 2] [1, 1] none = .ok p := rfl
  have hroom : p.HasRoom := by decide
  have houtcome : ∀ slot, (flakyBody slot c.worker).ending.outcome = outcome slot.status := by
    intro slot
    by_cases huser : slot.status.user = 2
    · simp [flakyBody, outcome, huser, Ending.outcome]
    · simp [flakyBody, outcome, huser, Ending.outcome]
  obtain ⟨hwhole, -, hsame⟩ :=
    execute_layout hplan c "t" flakyBody_onlyMeasures .rounds (.ok ()) 0
  obtain ⟨hlaid, htotal⟩ := hwhole hroom
  have hexpected : p.expectedTotal = .ok 10 := rfl
  have hten := Except.ok.inj (hexpected.symm.trans (htotal rfl))
  exact ⟨hplan, hroom, flakyBody_onlyMeasures, houtcome, hlaid.keys, hten.symm,
    hsame outcome houtcome flakyBody flakyBody_onlyMeasures houtcome .inTurn (.ok ()) 0⟩

/-- An accepted plan that names one pair of sizes, and whose run leaves no bucket. -/
theorem execute_layout_crowded :
    let run := execute { stream := .stdout { total := none } } crowdedPlan
      (.testCase "t" fun _ _ => .only .success) .rounds (.ok ()) 0
    Plan.make [0x1000000000000000] [1] none = .ok crowdedPlan ∧
      crowdedPlan.expectedTotal = .ok 0x1000000000000000 ∧ run.hub.sink.tests none none = [] := by
  intro run
  have hplan : Plan.make [0x1000000000000000] [1] none = .ok crowdedPlan := rfl
  have htotal : crowdedPlan.expectedTotal = .ok 0x1000000000000000 := rfl
  obtain ⟨hlog, -⟩ := execute_crowded (Scenario.testCase_guarded "t" _)
    { stream := .stdout { total := none } } .rounds (.ok ()) 0
  refine ⟨hplan, htotal, ?_⟩
  have hkeys : History.keys run.history = [] := by
    rw [History.keys_eq]
    show (run.log.filterMap Event.key?).eraseDups = []
    rw [hlog]
    rfl
  have htests : run.hub.sink.tests none none =
      (History.keys run.history).map (History.bucket run.history) := tests_execute ..
  rw [htests, hkeys]
  rfl

end Run

end LoadTest
