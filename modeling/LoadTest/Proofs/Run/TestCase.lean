import LoadTest.Proofs.Run.Guarded

/-!
# Runs of tests

A test reports its start, what its body measures, one outcome and its end. A run of a test follows
its plan to the letter, whatever the bodies do and however the users of a tier are interleaved.

* `Body.OnlyMeasures`     the body reports nothing but hits and socket events
* `bracketLog`            what one invocation of a test reports
* `countP_log_of`, `countP_log`   how often a kind of event stands in the log of a run
* `log_ends`              the end of an invocation comes right before the end of the run
* `execute_follows_plan`  the log, the counts and the result of a run
-/

namespace LoadTest

/-- hits and socket events, which belong to no bracket -/
def Event.isMeasurement (e : Event) : Bool :=
  e.kind = .addHit || e.kind = .socketOpen || e.kind = .socketClose || e.kind = .socketMessage

def Event.isStartTest (e : Event) : Bool := e.kind = .startTest

def Event.started? : Event → Option Status
  | .startTest _ status _ => some status
  | _ => none

/-- the body reports nothing but measurements -/
def Body.OnlyMeasures (b : Body) : Prop := ∀ e ∈ reported b.acts, e.isMeasurement

namespace Run

/-! ## brackets -/

def outcomeEvent (test : String) (status : Status) (worker : Option String) : Ending → Event
  | .returned .success => .addSuccess test status worker
  | .returned (.failure message) => .addFailure test message status worker
  | .returned (.error message) => .addError test message status worker
  | .panicked (some message) => .addError test ("panicked: " ++ message) status worker
  | .panicked none => .addError test "panicked: unknown panic payload" status worker

def bracketLog (test : String) (body : Slot → Option String → Body) (worker : Option String)
    (slot : Slot) : List Event :=
  .startTest test slot.status worker :: reported (body slot worker).acts ++
    [outcomeEvent test slot.status worker (body slot worker).ending,
     .stopTest test slot.status worker]

theorem event_outcome (e : Ending) (test : String) (status : Status) (worker : Option String) :
    e.outcome.event test status worker = outcomeEvent test status worker e := by
  cases e with
  | returned o => cases o <;> rfl
  | panicked payload => cases payload <;> rfl

theorem slotLog_testCase (test : String) (body : Slot → Option String → Body)
    (worker : Option String) :
    (Scenario.testCase test body).slotLog worker = bracketLog test body worker := by
  funext slot
  show reported (.report (.startTest test slot.status worker) :: (body slot worker).acts ++ _) = _
  rw [reported_append, event_outcome]
  rfl

section
variable (test : String) (status : Status) (worker : Option String) (e : Ending)

theorem isOutcome_outcomeEvent : (outcomeEvent test status worker e).isOutcome = true := by
  rcases e with (_ | _ | _) | (_ | _) <;> rfl

theorem isStopTest_outcomeEvent : (outcomeEvent test status worker e).isStopTest = false := by
  rcases e with (_ | _ | _) | (_ | _) <;> rfl

theorem isStartTest_outcomeEvent : (outcomeEvent test status worker e).isStartTest = false := by
  rcases e with (_ | _ | _) | (_ | _) <;> rfl

theorem started?_outcomeEvent : (outcomeEvent test status worker e).started? = none := by
  rcases e with (_ | _ | _) | (_ | _) <;> rfl

end

theorem not_of_isMeasurement {e : Event} (h : e.isMeasurement = true) :
    e.isStartTest = false ∧ e.isStopTest = false ∧ e.isOutcome = false ∧ e.isRunEvent = false ∧
      e.started? = none := by
  cases e <;> first | exact ⟨rfl, rfl, rfl, rfl, rfl⟩ | cases h

section
variable {test : String} {body : Slot → Option String → Body} {worker : Option String} {slot : Slot}
  (hbody : (body slot worker).OnlyMeasures)
include hbody

theorem countP_bracketLog {f : Event → Bool}
    (hf : ∀ e : Event, e.isMeasurement = true → f e = false) :
    (bracketLog test body worker slot).countP f =
      [.startTest test slot.status worker,
        outcomeEvent test slot.status worker (body slot worker).ending,
        .stopTest test slot.status worker].countP f := by
  have hzero : (reported (body slot worker).acts).countP f = 0 :=
    List.countP_eq_zero.2 fun e he => by rw [hf e (hbody e he)]; exact Bool.false_ne_true
  rw [bracketLog, List.cons_append, List.countP_cons, List.countP_append, hzero, Nat.zero_add,
    ← List.countP_cons]

theorem countP_isStartTest_bracketLog :
    (bracketLog test body worker slot).countP Event.isStartTest = 1 := by
  rw [countP_bracketLog hbody fun e he => (not_of_isMeasurement he).1]
  simp only [List.countP_cons, List.countP_nil, isStartTest_outcomeEvent]
  rfl

theorem countP_isStopTest_bracketLog :
    (bracketLog test body worker slot).countP Event.isStopTest = 1 := by
  rw [countP_bracketLog hbody fun e he => (not_of_isMeasurement he).2.1]
  simp only [List.countP_cons, List.countP_nil, isStopTest_outcomeEvent]
  rfl

theorem countP_isOutcome_bracketLog :
    (bracketLog test body worker slot).countP Event.isOutcome = 1 := by
  rw [countP_bracketLog hbody fun e he => (not_of_isMeasurement he).2.2.1]
  simp only [List.countP_cons, List.countP_nil, isOutcome_outcomeEvent]
  rfl

theorem started_bracketLog :
    (bracketLog test body worker slot).filterMap Event.started? = [slot.status] := by
  have hnone : (reported (body slot worker).acts).filterMap Event.started? = [] :=
    List.filterMap_eq_nil_iff.2 fun e he => (not_of_isMeasurement (hbody e he)).2.2.2.2
  have htail : [outcomeEvent test slot.status worker (body slot worker).ending,
      .stopTest test slot.status worker].filterMap Event.started? = [] := by
    rw [List.filterMap_cons_none (started?_outcomeEvent ..)]
    rfl
  show slot.status :: ((reported (body slot worker).acts) ++ _).filterMap Event.started? = _
  rw [List.filterMap_append, hnone, htail, List.nil_append]

end

/-! ## logs -/

section
variable (c : RunContext) (p : Plan) (test : String) (body : Slot → Option String → Body)
  (weaver : Weaver Act) (closing : Except Error Unit) (start : Instant)

theorem blocks_of_testCase :
    ∃ blocks, (execute c p (.testCase test body) weaver closing start).log =
        .startTestRun c.worker :: blocks.flatten ++ lastEvents c.worker (!decide p.HasRoom) ∧
      List.Forall₂ (IsBlock p.roomy (bracketLog test body c.worker)) p.roomy.users.zipIdx
        blocks := by
  have h := blocks_of_guarded (Scenario.testCase_guarded test body) c p weaver closing start
  rwa [slotLog_testCase] at h

/-- the log has the brackets of all invocations that are planned before a tier without room, in some
order -/
theorem perm_log :
    (execute c p (.testCase test body) weaver closing start).log.Perm
      (.startTestRun c.worker :: p.roomy.planned.flatMap (bracketLog test body c.worker) ++
        lastEvents c.worker (!decide p.HasRoom)) := by
  obtain ⟨blocks, hlog, hblocks⟩ := blocks_of_testCase c p test body weaver closing start
  rw [hlog]
  exact ((perm_of_blocks hblocks).append_right _).cons _

end

section
variable {p : Plan} {worker : Option String} {log : Slot → List Event} {events : List Event}
  {broken : Bool} (hperm : events.Perm
    (.startTestRun worker :: p.planned.flatMap log ++ lastEvents worker broken))
include hperm

/-- a kind of event that stands once in what some invocations report, and not in the others -/
theorem countP_log_of {f : Event → Bool} (hstart : f (.startTestRun worker) = false)
    (hstop : f (.stopTestRun worker) = false) {g : Slot → Bool}
    (hslot : ∀ slot, (log slot).countP f = if g slot then 1 else 0) :
    events.countP f = p.planned.countP g := by
  have hflat : (p.planned.flatMap log).countP f = p.planned.countP g := by
    induction p.planned with
    | nil => rfl
    | cons slot slots ih =>
      rw [List.flatMap_cons, List.countP_append, List.countP_cons, hslot, ih, Nat.add_comm]
  rw [hperm.countP_eq, List.cons_append, List.countP_cons, List.countP_append, hflat,
    countP_lastEvents hstop, hstart]
  rfl

theorem countP_log {f : Event → Bool} (hstart : f (.startTestRun worker) = false)
    (hstop : f (.stopTestRun worker) = false) (hone : ∀ slot, (log slot).countP f = 1) :
    events.countP f = p.perAgent := by
  have hall := countP_log_of hperm hstart hstop (g := fun _ => true) hone
  rw [hall, List.countP_true, p.length_planned]

theorem started_log (hone : ∀ slot, (log slot).filterMap Event.started? = [slot.status]) :
    (events.filterMap Event.started?).Perm (p.planned.map Slot.status) := by
  have hflat : (p.planned.flatMap log).filterMap Event.started? = p.planned.map Slot.status := by
    rw [List.filterMap_flatMap]
    simp only [hone]
    exact List.flatMap_pure_eq_map ..
  have h := hperm.filterMap Event.started?
  change List.Perm _ ((p.planned.flatMap log ++ lastEvents worker broken).filterMap _) at h
  rw [List.filterMap_append, hflat, filterMap_lastEvents rfl, List.append_nil] at h
  exact h

end

/-! ## ends -/

/-- the last event, if there is one, is the end of an invocation -/
def EndsInStop (events : List Event) : Prop := ∀ e ∈ events.getLast?, e.isStopTest = true

theorem EndsInStop.nil : EndsInStop [] := nofun

theorem EndsInStop.append {a b : List Event} (ha : EndsInStop a) (hb : EndsInStop b) :
    EndsInStop (a ++ b) := by
  intro e he
  rw [List.getLast?_append] at he
  rcases Option.or_eq_some_iff.1 he with he | ⟨-, he⟩
  · exact hb e he
  · exact ha e he

theorem EndsInStop.flatMap {α : Type} {f : α → List Event} (h : ∀ a, EndsInStop (f a))
    (l : List α) : EndsInStop (l.flatMap f) := by
  induction l with
  | nil => exact .nil
  | cons a l ih =>
    rw [List.flatMap_cons]
    exact (h a).append ih

theorem endsInStop_bracketLog (test : String) (body : Slot → Option String → Body)
    (worker : Option String) (slot : Slot) : EndsInStop (bracketLog test body worker slot) := by
  intro e he
  rw [bracketLog, List.getLast?_append] at he
  obtain rfl := Option.some.inj he
  rfl

theorem endsInStop_blocks {p : Plan} {log : Slot → List Event} (hlog : ∀ slot, EndsInStop (log slot))
    {tiers : List (UInt64 × Nat)} {blocks : List (List Event)}
    (h : List.Forall₂ (IsBlock p log) tiers blocks) : EndsInStop blocks.flatten := by
  induction h with
  | nil => exact .nil
  | cons hblock _ ih =>
    rw [List.flatten_cons]
    refine EndsInStop.append (hblock.forall_last _ fun l hl => ?_) ih
    obtain ⟨user, -, rfl⟩ := List.mem_map.1 hl
    rw [Plan.userLog_eq]
    exact EndsInStop.flatMap hlog _

/-- **The end of an invocation comes right before the end of the run.** -/
theorem log_ends {p : Plan} (hp : p.Accepted) (hroom : p.HasRoom) (c : RunContext) (test : String)
    {body : Slot → Option String → Body} (hbody : ∀ slot worker, (body slot worker).OnlyMeasures)
    (weaver : Weaver Act) (closing : Except Error Unit) (start : Instant) :
    ∃ front stop, (execute c p (.testCase test body) weaver closing start).log =
      front ++ [stop, .stopTestRun c.worker] ∧ stop.isStopTest = true := by
  have hcount := countP_log (perm_log c p test body weaver closing start) rfl rfl fun slot =>
    countP_isStopTest_bracketLog (hbody slot _)
  obtain ⟨blocks, hlog, hblocks⟩ := blocks_of_testCase c p test body weaver closing start
  rw [decide_eq_true hroom] at hlog
  rw [Plan.roomy_eq hroom] at hcount
  have hends := endsInStop_blocks (endsInStop_bracketLog test body c.worker) hblocks
  rcases List.eq_nil_or_concat blocks.flatten with hnil | ⟨front, stop, hconcat⟩
  · -- an accepted plan has an invocation, and it ends
    rw [hlog, hnil] at hcount
    exact absurd hcount.symm (Nat.ne_of_gt hp.perAgent_pos)
  · rw [List.concat_eq_append] at hconcat
    refine ⟨.startTestRun c.worker :: front, stop, ?_, hends stop ?_⟩
    · rw [hlog, hconcat, ← List.cons_append, List.append_assoc]
      rfl
    · rw [hconcat, List.getLast?_concat]
      rfl

/-- **A run of a test follows its plan** where every tier has room. The log is the start of the run,
one block for each tier in order, and the end of the run. The block of a tier interleaves the logs of
its users, which have one bracket for each step of each cycle size in order. So each planned
invocation is made exactly once, the counters hold their number, and only the end of the stream can
make the run fail. In front of the first tier without room a run breaks off: the tiers before it have
their blocks, the run is not stopped, and the stream is not closed. -/
theorem execute_follows_plan {users cycles : List UInt64} {agents : Option UInt64} {p : Plan}
    (hplan : Plan.make users cycles agents = .ok p) (c : RunContext) (test : String)
    {body : Slot → Option String → Body} (hbody : ∀ slot worker, (body slot worker).OnlyMeasures)
    (weaver : Weaver Act) (closing : Except Error Unit) (start : Instant) :
    let run := execute c p (.testCase test body) weaver closing start
    let bracket := bracketLog test body c.worker
    (p.users = users ∧ p.cycles = cycles) ∧
    (p.HasRoom →
      (∃ blocks, run.log = .startTestRun c.worker :: blocks.flatten ++ [.stopTestRun c.worker] ∧
        List.Forall₂
          (fun (size, tier) block => Woven ((usersOf size).map (p.userLog bracket tier size)) block)
          p.users.zipIdx blocks) ∧
      (p.planned.Nodup ∧
        (∀ slot, slot ∈ p.planned ↔
          p.users[slot.tier]? = some slot.status.currentUser ∧
            p.cycles[slot.stage]? = some slot.status.currentCycle ∧
            (1 ≤ slot.status.user ∧ slot.status.user ≤ slot.status.currentUser) ∧
            1 ≤ slot.status.cycle ∧ slot.status.cycle ≤ slot.status.currentCycle) ∧
        run.log.Perm
          (.startTestRun c.worker :: p.planned.flatMap bracket ++ [.stopTestRun c.worker]) ∧
        (run.log.filterMap Event.started?).Perm (p.planned.map Slot.status)) ∧
      (∃ n, p.invocationsPerAgent = .ok n ∧ p.planned.length = n ∧ run.invocations = some n ∧
        run.log.countP Event.isStartTest = n ∧ run.log.countP Event.isOutcome = n ∧
        run.log.countP Event.isStopTest = n) ∧
      ∃ stop, run.result = closing.map fun _ => run.hub.sink.summary stop) ∧
    (¬ p.HasRoom →
      (∃ size later, users = p.roomy.users ++ size :: later ∧ hasRoom size = false) ∧
      (∃ blocks, run.log = .startTestRun c.worker :: blocks.flatten ∧
        List.Forall₂
          (fun (size, tier) block => Woven ((usersOf size).map (p.userLog bracket tier size)) block)
          p.roomy.users.zipIdx blocks) ∧
      run.uses = run.log.map Stream.Use.push ∧ run.result = .error .capacityOverflow) := by
  obtain ⟨hp, haccepted⟩ := Plan.make_eq_ok_iff.1 hplan
  have hparts : p.users = users ∧ p.cycles = cycles := by rw [hp]; exact ⟨rfl, rfl⟩
  intro run bracket
  have hguarded := Scenario.testCase_guarded test body
  obtain ⟨blocks, hlog, hblocks⟩ := blocks_of_testCase c p test body weaver closing start
  have hperm := perm_log c p test body weaver closing start
  have hcount := countInvocations_of_guarded hguarded p.roomy c.worker
    (Nat.lt_of_le_of_lt p.perAgent_roomy_le haccepted.perAgent_lt)
  refine ⟨hparts, fun hroom => ?_, fun hcrowded => ?_⟩
  · rw [decide_eq_true hroom] at hlog hperm
    rw [Plan.roomy_eq hroom] at hblocks hperm hcount
    exact ⟨⟨blocks, hlog, hblocks⟩,
      ⟨p.nodup_planned, fun slot => Plan.mem_planned, hperm,
        started_log hperm fun slot => started_bracketLog (hbody slot _)⟩,
      ⟨_, haccepted.invocationsPerAgent, p.length_planned,
        (congrArg (fun q => (schedule q _ c.worker).countInvocations) (Plan.roomy_eq hroom)).trans
          hcount,
        countP_log hperm rfl rfl fun slot => countP_isStartTest_bracketLog (hbody slot _),
        countP_log hperm rfl rfl fun slot => countP_isOutcome_bracketLog (hbody slot _),
        countP_log hperm rfl rfl fun slot => countP_isStopTest_bracketLog (hbody slot _)⟩,
      result_of_guarded hguarded c hroom weaver closing start⟩
  · have huses := uses_execute c p (.testCase test body) weaver closing start
    rw [breaksOff_of_guarded hguarded, decide_eq_false hcrowded] at huses
    rw [decide_eq_false hcrowded] at hlog
    refine ⟨hparts.1 ▸ Plan.exists_crowded hcrowded,
      ⟨blocks, hlog.trans (List.append_nil _), hblocks⟩, huses.trans (List.append_nil _),
      result_of_crowded hguarded c hcrowded weaver closing start⟩

/-- a body that opens a socket and panics for the second user of a tier -/
def flakyBody (slot : Slot) (worker : Option String) : Body where
  acts := [.report (.socketOpen slot.status worker), .wait 5]
  ending := if slot.status.user = 2 then .panicked (some "boom") else .returned .success

theorem flakyBody_onlyMeasures (slot : Slot) (worker : Option String) :
    (flakyBody slot worker).OnlyMeasures := by
  intro e he
  obtain rfl : e = .socketOpen slot.status worker := List.mem_singleton.1 he
  rfl

/-- three users make nine invocations, and those that panic are counted too -/
theorem execute_follows_plan_flaky :
    let p : Plan := ⟨[2, 1], [2, 1], some 3⟩
    let run := execute { stream := .stdout { total := none }, worker := some "agent-1" } p
      (.testCase "t" flakyBody) .rounds (.ok ()) 0
    Plan.make [2, 1] [2, 1] (some 3) = .ok p ∧
      (∀ slot worker, (flakyBody slot worker).OnlyMeasures) ∧ p.HasRoom ∧
      run.invocations = some 9 ∧ run.log.countP Event.isOutcome = 9 := by
  intro p run
  have hplan : Plan.make [2, 1] [2, 1] (some 3) = .ok p := rfl
  have hroom : p.HasRoom := by decide
  obtain ⟨-, -, ⟨n, hn, -, hcount, -, houtcome, -⟩, -⟩ := (execute_follows_plan hplan
    { stream := .stdout { total := none }, worker := some "agent-1" } "t" flakyBody_onlyMeasures
    .rounds (.ok ()) 0).2.1 hroom
  obtain rfl : 9 = n := Except.ok.inj hn
  exact ⟨hplan, flakyBody_onlyMeasures, hroom, hcount, houtcome⟩

/-- An accepted plan whose run is neither stopped nor reported. -/
theorem execute_follows_plan_crowded :
    let run := execute { stream := .stdout { total := none } } crowdedPlan
      (.testCase "t" fun _ _ => .only .success) .rounds (.ok ()) 0
    Plan.make [0x1000000000000000] [1] none = .ok crowdedPlan ∧
      .stopTestRun none ∉ run.log ∧ run.log.countP Event.isOutcome = 0 ∧
      ∀ summary, run.result ≠ .ok summary := by
  intro run
  have hplan : Plan.make [0x1000000000000000] [1] none = .ok crowdedPlan := rfl
  obtain ⟨hlog, -, hresult⟩ := execute_crowded (Scenario.testCase_guarded "t" _)
    { stream := .stdout { total := none } } .rounds (.ok ()) 0
  refine ⟨hplan, ?_, ?_, fun summary => ?_⟩
  · rw [hlog]
    decide
  · rw [hlog]
    rfl
  · rw [hresult]
    intro h
    cases h

end Run

end LoadTest
