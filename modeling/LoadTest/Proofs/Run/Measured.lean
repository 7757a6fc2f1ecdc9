import LoadTest.Proofs.Http.InFlight
import LoadTest.Proofs.Run.TestCase
import LoadTest.Proofs.Sink.Partition
import LoadTest.Scenario.Builtin

/-!
# Outcomes and measurements of requests

A test whose body is one measured request tells of each response twice: by its outcome and by its
hit. Both tell the same.

* `Builtin.answer`             what comes of the request at a slot
* `Builtin.requestLog`         what the invocation reports
* `Builtin.countP_requestLog`  how often a kind of event stands in it
* `Run.httpGet_measured`       the summary of a run
-/

namespace LoadTest

open Http (Fault Response Sending)

namespace Builtin

/-- the request of the invocation at a slot, as its session sends it -/
def sending (o : Outside) (worker : Option String) (slot : Slot) : Sending :=
  ⟨⟨slot.status, worker⟩, .get (targetUrl o), o.exchange slot⟩

def answer (o : Outside) (slot : Slot) : Except Fault Response :=
  (Http.Request.get (targetUrl o)).send (o.exchange slot)

/-! ## kinds of answers -/

def isFine : Except Fault Response → Bool
  | .ok r => r.status < 400
  | .error _ => false

def isRefusal : Except Fault Response → Bool
  | .ok r => 400 ≤ r.status
  | .error _ => false

def isFault : Except Fault Response → Bool
  | .ok _ => false
  | .error _ => true

theorem isFine_eq_not (r : Response) : isFine (.ok r) = !isRefusal (.ok r) := by
  show decide (r.status < 400) = !decide (400 ≤ r.status)
  rw [← decide_not]
  exact decide_eq_decide.2 UInt16.not_le.symm

/-! ## one invocation -/

def requestLog (o : Outside) (worker : Option String) (slot : Slot) : List Event :=
  Run.bracketLog "http-get" (requestBody o) worker slot

section
variable {o : Outside} {worker : Option String} {slot : Slot}

theorem requestLog_eq : requestLog o worker slot =
    .startTest "http-get" slot.status worker :: (sending o worker slot).log ++
      [(requestOutcome (targetUrl o) (answer o slot)).event "http-get" slot.status worker,
        .stopTest "http-get" slot.status worker] := by
  rw [requestLog, Run.bracketLog, ← Run.event_outcome]
  rfl

theorem kinds_of_error {fault : Fault} (h : answer o slot = .error fault) :
    (requestLog o worker slot).map Event.kind =
      [.startTest, .socketOpen, .socketClose, .addError, .stopTest] := by
  have hlog : (sending o worker slot).log = _ := Sending.log_of_error h
  rw [requestLog_eq, hlog, h]
  rfl

theorem kinds_of_ok {r : Response} (h : answer o slot = .ok r) :
    (requestLog o worker slot).map Event.kind =
      [.startTest, .socketOpen, .addHit, .socketMessage, .socketClose,
        if isRefusal (.ok r) then .addFailure else .addSuccess, .stopTest] := by
  have hlog : (sending o worker slot).log = _ := Sending.log_of_ok h
  rw [requestLog_eq, hlog, h]
  by_cases hrefusal : 400 ≤ r.status
  · simp [requestOutcome, isRefusal, hrefusal, Outcome.event, Event.kind]
  · simp [requestOutcome, isRefusal, hrefusal, Outcome.event, Event.kind]

/-- **Each kind of event stands once in the log of an invocation or not at all**, as the answer
says. -/
theorem countP_requestLog (o : Outside) (worker : Option String) (slot : Slot) :
    (requestLog o worker slot).countP (·.kind = .addSuccess) =
      (if isFine (answer o slot) then 1 else 0) ∧
    (requestLog o worker slot).countP (·.kind = .addFailure) =
      (if isRefusal (answer o slot) then 1 else 0) ∧
    (requestLog o worker slot).countP (·.kind = .addError) =
      (if isFault (answer o slot) then 1 else 0) ∧
    (requestLog o worker slot).countP (·.kind = .socketOpen) = 1 ∧
    (requestLog o worker slot).countP (·.kind = .socketClose) = 1 := by
  have hkinds : ∀ k : EventKind, (requestLog o worker slot).countP (·.kind = k) =
      ((requestLog o worker slot).map Event.kind).countP (· = k) := by
    intro k
    rw [List.countP_map]
    rfl
  rw [hkinds, hkinds, hkinds, hkinds, hkinds]
  cases hanswer : answer o slot with
  | error fault =>
    rw [kinds_of_error hanswer]
    exact ⟨rfl, rfl, rfl, rfl, rfl⟩
  | ok r =>
    rw [kinds_of_ok hanswer, isFine_eq_not]
    cases isRefusal (.ok r) <;> exact ⟨rfl, rfl, rfl, rfl, rfl⟩

theorem filterMap_hit_requestLog : (requestLog o worker slot).filterMap Event.hit? =
    (sending o worker slot).hit?.toList := by
  have hdone : (⟨sending o worker slot, (sending o worker slot).log.length⟩ : Http.Underway).isDone =
      true := decide_eq_true (Nat.le_refl _)
  have hhit := (Http.Underway.settled hdone).2.1
  have htally := (Http.Underway.tally ⟨sending o worker slot, (sending o worker slot).log.length⟩).2.1
  rw [Http.Underway.events_of_isDone hdone, hhit] at htally
  have htail : [(requestOutcome (targetUrl o) (answer o slot)).event "http-get" slot.status worker,
      .stopTest "http-get" slot.status worker].filterMap Event.hit? = [] := by
    cases requestOutcome (targetUrl o) (answer o slot) <;> rfl
  rw [requestLog_eq, List.cons_append, List.filterMap_cons_none rfl, List.filterMap_append, htail,
    List.append_nil]
  exact htally

theorem hit_sending (o : Outside) (worker : Option String) (slot : Slot) :
    (sending o worker slot).hit?.isSome = !isFault (answer o slot) ∧
    (∀ hit, (sending o worker slot).hit? = some hit → hit.url = targetUrl o) ∧
    ((∀ r, answer o slot = .ok r → 200 ≤ r.status) →
      ((sending o worker slot).hit?.map Hit.isSuccess).getD false = isFine (answer o slot)) := by
  have hresult : (sending o worker slot).result = answer o slot := rfl
  rw [Sending.hit?, hresult]
  cases answer o slot with
  | error fault => exact ⟨rfl, fun _ hhit => absurd hhit.symm (Option.some_ne_none _),
      fun _ => rfl⟩
  | ok r =>
    refine ⟨rfl, fun hit hhit => Option.some.inj hhit ▸ rfl, fun hstatus => ?_⟩
    have hlow : decide (200 ≤ r.status) = true := decide_eq_true (hstatus r rfl)
    show (decide (200 ≤ r.status) && decide (r.status < 400)) = decide (r.status < 400)
    rw [hlow, Bool.true_and]

end

theorem countP_answers (answers : List (Except Fault Response)) :
    answers.countP isFine + answers.countP isRefusal + answers.countP isFault = answers.length := by
  induction answers with
  | nil => rfl
  | cons a answers ih =>
    have hone : (if isFine a then 1 else 0) + (if isRefusal a then 1 else 0) +
        (if isFault a then 1 else 0) = 1 := by
      cases a with
      | error fault => rfl
      | ok r =>
        rw [isFine_eq_not]
        cases isRefusal (.ok r) <;> rfl
    rw [List.countP_cons, List.countP_cons, List.countP_cons, List.length_cons]
    omega

end Builtin

namespace Run

open Builtin (answer isFine isRefusal isFault requestLog sending targetUrl countP_requestLog)

/-- A sink tells of the answers to requests for one target twice, by outcomes and by hits. -/
structure Agrees (answers : List (Except Fault Response)) (url : String) (sink : Sink) : Prop where
  success : sink.successTotal none none = answers.countP isFine
  failures : sink.failuresTotal none none = answers.countP isRefusal
  errors : sink.errorsTotal none none = answers.countP isFault
  hits : sink.hitCount + answers.countP isFault = answers.length
  isSuccess : (∀ r, .ok r ∈ answers → 200 ≤ r.status) →
    sink.hits.toList.countP Hit.isSuccess = answers.countP isFine
  urls : sink.urls = [] ∨ sink.urls = [url]
  sockets : sink.sockets = 0

namespace Agrees
variable {answers : List (Except Fault Response)} {url : String} {sink : Sink}
  (h : Agrees answers url sink)
include h

theorem all_counted : sink.hitCount + sink.errorsTotal none none = answers.length := by
  rw [h.errors]
  exact h.hits

theorem hits_eq : sink.hitCount = sink.successTotal none none + sink.failuresTotal none none := by
  have hkinds := Builtin.countP_answers answers
  have hhits := h.hits
  rw [h.success, h.failures]
  omega

theorem summary (stop : Instant) :
    let summary := sink.summary stop
    (summary.successTotal = answers.countP isFine ∧
      summary.failuresTotal = answers.countP isRefusal ∧
      summary.errorsTotal = answers.countP isFault) ∧
    (summary.hitsTotal = summary.successTotal + summary.failuresTotal ∧
      summary.hitsTotal + summary.errorsTotal = answers.length) ∧
    ((∀ r, .ok r ∈ answers → 200 ≤ r.status) →
      sink.hits.toList.countP Hit.isSuccess = summary.successTotal) ∧
    (summary.urls = [] ∨ summary.urls = [url]) ∧
    summary.socketsOpen = 0 :=
  ⟨⟨h.success, h.failures, h.errors⟩, ⟨h.hits_eq, h.all_counted⟩,
    fun hstatus => (h.isSuccess hstatus).trans h.success.symm, h.urls, h.sockets⟩

end Agrees

section
variable (c : RunContext) (p : Plan) (o : Outside) (weaver : Weaver Act)
  (closing : Except Error Unit) (start : Instant)

theorem perm_httpGet : (execute c p (Builtin.httpGet o) weaver closing start).log.Perm
    (.startTestRun c.worker :: p.roomy.planned.flatMap (requestLog o c.worker) ++
      lastEvents c.worker (!decide p.HasRoom)) :=
  perm_log c p "http-get" (Builtin.requestBody o) weaver closing start

theorem countP_httpGet (k : EventKind) (hstart : k ≠ .startTestRun) (hstop : k ≠ .stopTestRun)
    (f : Except Fault Response → Bool)
    (hslot : ∀ slot, (requestLog o c.worker slot).countP (·.kind = k) =
      if f (answer o slot) then 1 else 0) :
    (execute c p (Builtin.httpGet o) weaver closing start).history.countP (fun te => te.2.kind = k) =
      (p.roomy.planned.map (answer o)).countP f := by
  have hlog := countP_log_of (perm_httpGet c p o weaver closing start)
    (decide_eq_false hstart.symm) (decide_eq_false hstop.symm) hslot
  rw [List.countP_map]
  exact List.countP_map.symm.trans hlog

/-- **The outcomes of a run are those of its answers.** -/
theorem outcomes_httpGet :
    let sink := (execute c p (Builtin.httpGet o) weaver closing start).hub.sink
    let answers := p.roomy.planned.map (answer o)
    sink.successTotal none none = answers.countP isFine ∧
    sink.failuresTotal none none = answers.countP isRefusal ∧
    sink.errorsTotal none none = answers.countP isFault := by
  have hslot := countP_requestLog o c.worker
  have hcount := countP_httpGet c p o weaver closing start
  have hsuccess := hcount .addSuccess nofun nofun isFine fun slot => (hslot slot).1
  have hfailures := hcount .addFailure nofun nofun isRefusal fun slot => (hslot slot).2.1
  have herrors := hcount .addError nofun nofun isFault fun slot => (hslot slot).2.2.1
  rw [sink_execute]
  exact ⟨(Sink.counts_successTotal.total_all _).trans hsuccess,
    (Sink.counts_failuresTotal.total_all _).trans hfailures,
    (Sink.counts_errorsTotal.total_all _).trans herrors⟩

theorem sockets_httpGet :
    (execute c p (Builtin.httpGet o) weaver closing start).hub.sink.sockets = 0 := by
  have hslot := countP_requestLog o c.worker
  have hcount := countP_httpGet c p o weaver closing start
  have hopened := hcount .socketOpen nofun nofun (fun _ => true) fun slot => (hslot slot).2.2.2.1
  have hclosed := hcount .socketClose nofun nofun (fun _ => true) fun slot => (hslot slot).2.2.2.2
  rw [sink_execute, Sink.sockets_commitAll]
  simp only [Event.isOpen, Event.isClose, hopened, hclosed]
  exact Int.add_sub_cancel ..

theorem hits_httpGet : (execute c p (Builtin.httpGet o) weaver closing start).hub.sink.hits.toList.Perm
    (p.roomy.planned.filterMap fun slot => (sending o c.worker slot).hit?) := by
  have hslots : (p.roomy.planned.flatMap (requestLog o c.worker)).filterMap Event.hit? =
      p.roomy.planned.filterMap fun slot => (sending o c.worker slot).hit? := by
    rw [List.filterMap_flatMap]
    simp only [Builtin.filterMap_hit_requestLog]
    exact (List.filterMap_eq_flatMap_toList _ _).symm
  have hlog := (perm_httpGet c p o weaver closing start).filterMap Event.hit?
  rw [List.cons_append, List.filterMap_cons_none rfl, List.filterMap_append, hslots,
    filterMap_lastEvents rfl] at hlog
  rw [sink_execute, Sink.toList_hits]
  exact (List.append_nil (p.roomy.planned.filterMap fun slot => (sending o c.worker slot).hit?)) ▸ hlog

/-- **The hits of a run are those of its answers.** -/
theorem measurements_httpGet :
    let sink := (execute c p (Builtin.httpGet o) weaver closing start).hub.sink
    let answers := p.roomy.planned.map (answer o)
    sink.hitCount + answers.countP isFault = answers.length ∧
    ((∀ r, .ok r ∈ answers → 200 ≤ r.status) →
      sink.hits.toList.countP Hit.isSuccess = answers.countP isFine) ∧
    (sink.urls = [] ∨ sink.urls = [targetUrl o]) := by
  intro sink answers
  have hperm := hits_httpGet c p o weaver closing start
  have hhit := fun slot => Builtin.hit_sending o c.worker slot
  refine ⟨?_, fun hstatus => ?_, Text.sortedTexts_of_same fun url hurl => ?_⟩
  · have hcount : sink.hitCount = p.roomy.planned.countP fun slot => !isFault (answer o slot) := by
      rw [Sink.hitCount, ← Array.length_toList, hperm.length_eq, List.length_filterMap_eq_countP]
      exact List.countP_congr fun slot _ => by rw [(hhit slot).1]
    rw [hcount, List.countP_map, List.length_map,
      List.length_eq_countP_add_countP fun slot => !isFault (answer o slot)]
    simp [Function.comp_def]
  · rw [hperm.countP_eq, List.countP_filterMap, List.countP_map]
    refine List.countP_congr fun slot hslot => ?_
    rw [(hhit slot).2.2 fun r hr => hstatus r (hr ▸ List.mem_map_of_mem hslot)]
    rfl
  · obtain ⟨hit, hmem, rfl⟩ := List.mem_map.1 hurl
    obtain ⟨slot, -, hslot⟩ := List.mem_filterMap.1 (hperm.mem_iff.1 hmem)
    exact (hhit slot).2.1 hit hslot

theorem agrees_httpGet : Agrees (p.roomy.planned.map (answer o)) (targetUrl o)
    (execute c p (Builtin.httpGet o) weaver closing start).hub.sink :=
  have ⟨hsuccess, hfailures, herrors⟩ := outcomes_httpGet c p o weaver closing start
  have ⟨hhits, hisSuccess, hurls⟩ := measurements_httpGet c p o weaver closing start
  ⟨hsuccess, hfailures, herrors, hhits, hisSuccess, hurls, sockets_httpGet c p o weaver closing start⟩

end

/-- **The outcomes of a run of measured requests agree with its measurements.** Whatever comes of
each request, and however the users are interleaved, a response below 400 is one success and one
successful hit, any other response is one failure and one hit that is not successful, and a request
without a response is one error and no hit. Where every tier has room, they add up to the expected
total; a run that breaks off has the outcomes of the tiers in front of the one without room. -/
theorem httpGet_measured {users cycles : List UInt64} {p : Plan}
    (hplan : Plan.make users cycles none = .ok p) (c : RunContext) (o : Outside)
    (weaver : Weaver Act) (closing : Except Error Unit) (start : Instant) :
    let run := execute c p (Builtin.httpGet o) weaver closing start
    let sink := run.hub.sink
    (p.HasRoom →
      let answers := p.planned.map (answer o)
      ∃ (summary : Summary) (total : Nat),
        (∃ stop, summary = sink.summary stop) ∧
        run.result = closing.map (fun _ => summary) ∧
        (p.expectedTotal = .ok total ∧ answers.length = total) ∧
        (summary.successTotal = answers.countP isFine ∧
          summary.failuresTotal = answers.countP isRefusal ∧
          summary.errorsTotal = answers.countP isFault) ∧
        (summary.hitsTotal = summary.successTotal + summary.failuresTotal ∧
          summary.hitsTotal + summary.errorsTotal = total) ∧
        ((∀ r, .ok r ∈ answers → 200 ≤ r.status) →
          sink.hits.toList.countP Hit.isSuccess = summary.successTotal) ∧
        (summary.urls = [] ∨ summary.urls = [targetUrl o]) ∧
        summary.socketsOpen = 0) ∧
    (¬ p.HasRoom →
      let answers := p.roomy.planned.map (answer o)
      (∃ size later, users = p.roomy.users ++ size :: later ∧ hasRoom size = false) ∧
      (sink.successTotal none none = answers.countP isFine ∧
        sink.failuresTotal none none = answers.countP isRefusal ∧
        sink.errorsTotal none none = answers.countP isFault) ∧
      sink.hitCount + sink.errorsTotal none none = answers.length ∧ sink.sockets = 0 ∧
      run.result = .error .capacityOverflow) := by
  obtain ⟨hp, haccepted⟩ := Plan.make_eq_ok_iff.1 hplan
  have htotal : p.expectedTotal = .ok p.perAgent := by
    have hagent : p.agentCount = 1 := by
      rw [hp]
      rfl
    rw [haccepted.expectedTotal, hagent, Nat.mul_one]
  have hguarded : (Builtin.httpGet o).Guarded := Scenario.testCase_guarded _ _
  have hagrees := agrees_httpGet c p o weaver closing start
  refine ⟨fun hroom => ?_, fun hcrowded => ?_⟩
  · obtain ⟨stop, hresult⟩ := result_of_guarded hguarded c hroom weaver closing start
    have hlength : (p.planned.map (answer o)).length = p.perAgent := by
      rw [List.length_map, p.length_planned]
    rw [Plan.roomy_eq hroom] at hagrees
    exact ⟨_, p.perAgent, ⟨stop, rfl⟩, hresult, ⟨htotal, hlength⟩, hlength ▸ hagrees.summary stop⟩
  · obtain rfl : p.users = users := by rw [hp]
    exact ⟨Plan.exists_crowded hcrowded, ⟨hagrees.success, hagrees.failures, hagrees.errors⟩,
      hagrees.all_counted, hagrees.sockets,
      result_of_crowded hguarded c hcrowded weaver closing start⟩

/-- The first user is always answered; the second one is refused once and then finds no one. -/
theorem httpGet_measured_four :
    let p : Plan := ⟨[2], [2], none⟩
    let o : Outside := {
      setting := fun _ => none
      clock := .still
      exchange := fun slot _ =>
        { reaction := if slot.status.user = 1 then .answered {}
            else if slot.status.cycle = 1 then .answered { status := 404 } else .lost } }
    let run := execute { stream := .stdout { total := none } } p (Builtin.httpGet o) .rounds
      (.ok ()) 0
    Plan.make [2] [2] none = .ok p ∧ p.HasRoom ∧
      ∃ summary, run.result = .ok summary ∧ summary.successTotal = 2 ∧
        summary.failuresTotal = 1 ∧ summary.errorsTotal = 1 ∧ summary.hitsTotal = 3 ∧
        run.hub.sink.hits.toList.countP Hit.isSuccess = 2 ∧ summary.socketsOpen = 0 := by
  intro p o
  have hplan : Plan.make [2] [2] none = .ok p := rfl
  have hroom : p.HasRoom := by decide
  have hanswers : (p.planned.map (answer o)).countP isFine = 2 ∧
      (p.planned.map (answer o)).countP isRefusal = 1 ∧
      (p.planned.map (answer o)).countP isFault = 1 ∧
      ∀ slot ∈ p.planned, (answer o slot).toOption.all fun r => 200 ≤ r.status := by
    decide +kernel
  obtain ⟨hfine, hrefusal, hfault, hall⟩ := hanswers
  have hstatus : ∀ r, .ok r ∈ p.planned.map (answer o) → 200 ≤ r.status := by
    intro r hr
    obtain ⟨slot, hslot, hanswer⟩ := List.mem_map.1 hr
    have h := hall slot hslot
    rw [hanswer] at h
    exact of_decide_eq_true h
  obtain ⟨summary, -, -, hresult, -, ⟨hsuccess, hfailures, herrors⟩, ⟨hhits, -⟩, hisSuccess, -,
    hsockets⟩ := (httpGet_measured hplan { stream := .stdout { total := none } } o .rounds (.ok ())
      0).1 hroom
  rw [hfine] at hsuccess
  rw [hrefusal] at hfailures
  rw [hfault] at herrors
  rw [hsuccess, hfailures] at hhits
  exact ⟨hplan, hroom, summary, hresult, hsuccess, hfailures, herrors, hhits,
    (hisSuccess hstatus).trans hsuccess, hsockets⟩

/-- An accepted plan whose run makes no request. -/
theorem httpGet_measured_crowded :
    let o : Outside := {
      setting := fun _ => none
      clock := .still
      exchange := fun _ _ => { reaction := .lost } }
    let run := execute { stream := .stdout { total := none } } crowdedPlan (Builtin.httpGet o)
      .rounds (.ok ()) 0
    let sink := run.hub.sink
    Plan.make [0x1000000000000000] [1] none = .ok crowdedPlan ∧
      crowdedPlan.expectedTotal = .ok 0x1000000000000000 ∧
      sink.hitCount + sink.errorsTotal none none = 0 ∧ ∀ summary, run.result ≠ .ok summary := by
  intro o run sink
  have hplan : Plan.make [0x1000000000000000] [1] none = .ok crowdedPlan := rfl
  have htotal : crowdedPlan.expectedTotal = .ok 0x1000000000000000 := rfl
  obtain ⟨-, -, hresult⟩ := execute_crowded (s := Builtin.httpGet o) (Scenario.testCase_guarded _ _)
    { stream := .stdout { total := none } } .rounds (.ok ()) 0
  have hnone : crowdedPlan.roomy.planned = [] := by decide
  have hagrees := agrees_httpGet { stream := .stdout { total := none } } crowdedPlan o .rounds
    (.ok ()) 0
  rw [hnone] at hagrees
  refine ⟨hplan, htotal, hagrees.all_counted, fun summary => ?_⟩
  rw [hresult]
  intro h
  cases h

end Run

end LoadTest
