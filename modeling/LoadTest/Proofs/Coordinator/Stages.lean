import Mathlib.Logic.Relation
import LoadTest.Coordinator
import LoadTest.Coordinator.Connection
import LoadTest.Proofs.Coordinator.Outcomes
import LoadTest.Proofs.Run.Interleaving
import LoadTest.Proofs.Sink.Totals

/-!
# Stages of a distributed run

Between two lines, a run either receives or drains. Each step takes in one line, or stops the run
once all expected invocations have ended. The stages that a run goes through say what its report
holds, and that nothing which comes after the last ending changes it.

* `Stage`, `Stage.Step`     where a run stands, and how it goes on
* `Sink.timed`              the times of a run beside the rest of a sink
* `InStep`                  the echo has counted what the tally has
* `Accounted`               what is true of every stage
* `steps_of_run`            a run goes through its stages up to an empty queue
* `run_reports`             what a run reports
-/

namespace LoadTest

/-! ## the times of a run -/

namespace Sink

def timed (s : Sink) (started stopped : Option Instant) : Sink := { s with started, stopped }

theorem commit_timed (s : Sink) (started stopped : Option Instant) (t : Tick) {e : Event}
    (he : e.isRunEvent = false) :
    (s.timed started stopped).commit t e = (s.commit t e).timed started stopped := by
  have hupdate : ∀ start key f, (s.timed started stopped).update start key f =
      (s.update start key f).timed started stopped := by
    intro start key f
    simp only [update, timed]
    cases s.index[key]? <;> rfl
  cases e with
  | startTestRun | stopTestRun => cases he
  | startTest | stopTest | addError | addFailure | addSuccess => exact hupdate _ _ _
  | addHit | socketOpen | socketClose | socketMessage => rfl

/-- what belongs to no run is taken in alike, whatever the times of the run are -/
theorem commitAll_timed (s : Sink) (started stopped : Option Instant) {history : History}
    (h : ∀ te ∈ history, te.2.isRunEvent = false) :
    (s.timed started stopped).commitAll history = (s.commitAll history).timed started stopped := by
  induction history generalizing s with
  | nil => rfl
  | cons te history ih =>
    have hone := commit_timed s started stopped te.1 (h te List.mem_cons_self)
    rw [commitAll_cons, commitAll_cons, hone]
    exact ih (s.commit te.1 te.2) fun te hte => h te (List.mem_cons_of_mem _ hte)

/-- A summary depends on the times of the run in three fields only, and on the time at which it is
taken not at all once the run has been stopped. -/
theorem summary_timed (s : Sink) (start stop now now' : Instant) :
    let run := Duration.between start stop
    (s.timed (some start) (some stop)).summary now =
      { s.summary now' with
        durationSecs := run.wholeSeconds
        testsPerSec := perSecond s.testCount run
        requestsPerSec := perSecond s.hitCount run } := rfl

end Sink

namespace Coordinator

/-! ## stages -/

/-- where a run stands between two lines: what it has taken in, and the lines that are to come -/
inductive Stage where
  | receiving (s : Intake) (queue : List Arrival)
  | draining (s : Intake) (queue : List Arrival)

def Stage.intake : Stage → Intake
  | receiving s _ => s
  | draining s _ => s

/-- How a run goes on. While an ending is missing it takes in a line; once there are enough it is
stopped; from then on lines are drained. -/
inductive Stage.Step (expected : Nat) (stoppedAt : Instant) : Stage → Stage → Prop
  | take {s t : Intake} {a : Arrival} {queue : List Arrival}
      (hmissing : s.tally.completed < expected) (htake : s.take a = .ok t) :
      Step expected stoppedAt (receiving s (a :: queue)) (receiving t queue)
  | stop {s : Intake} {queue : List Arrival} (henough : expected ≤ s.tally.completed) :
      Step expected stoppedAt (receiving s queue)
        (draining (s.apply stoppedAt (.stopTestRun none)) queue)
  | skim {s t : Intake} {a : Arrival} {queue : List Arrival} (hskim : s.skim a = .ok t) :
      Step expected stoppedAt (draining s (a :: queue)) (draining t queue)

abbrev Stage.Reaches (expected : Nat) (stoppedAt : Instant) : Stage → Stage → Prop :=
  Relation.ReflTransGen (Step expected stoppedAt)

def firstStage (world : Surroundings) : Stage :=
  .receiving { hub := startedHub world.startedAt } world.arrivals

/-! ## the echo -/

/-- the echo is told of the events, and it has counted what the tally has -/
structure InStep (expected : Nat) (s : Intake) : Prop where
  observed : 0 < s.hub.observers.size
  counted : (echo expected s).completed = s.tally.completed

namespace InStep
variable {expected : Nat} {s t : Intake} (hs : InStep expected s)

theorem started (expected : Nat) (now : Instant) : InStep expected { hub := startedHub now } where
  observed := Nat.one_pos
  counted := rfl

include hs

/-- being told of an event keeps the echo in step if the tally counts the event too -/
theorem told {e : Event} (hobservers : t.hub.observers = s.hub.observers)
    (hseen : t.hub.seenBy 0 = s.hub.seenBy 0 ++ [e])
    (hcompleted : t.tally.completed = s.tally.completed + if e.isStopTest then 1 else 0) :
    InStep expected t where
  observed := hobservers ▸ hs.observed
  counted := by
    have hpush : Echo.pushAll { total := some expected } (s.hub.seenBy 0 ++ [e]) =
        (echo expected s).push e := List.foldl_append
    rw [echo, hseen, hpush, Echo.completed_push, hs.counted, hcompleted]

theorem forward {e : Event} (he : e.isStopTest = false) : InStep expected (s.forward e) :=
  hs.told rfl (Hub.seenBy_forward s.hub e hs.observed) (by rw [he]; rfl)

theorem apply (now : Tick) {e : Event} (he : e.isStopTest = false) :
    InStep expected (s.apply now e) :=
  hs.told rfl (Hub.seenBy_apply s.hub now e hs.observed) (by rw [he]; rfl)

theorem apply_ending (now : Tick) {e : Event} (he : e.isStopTest = true) :
    InStep expected (s.apply now e).countCompleted :=
  hs.told rfl (Hub.seenBy_apply s.hub now e hs.observed) (by rw [he]; rfl)

theorem countReceived : InStep expected s.countReceived := ⟨hs.observed, hs.counted⟩

theorem countDropped : InStep expected s.countDropped := ⟨hs.observed, hs.counted⟩

theorem takeEvent (now : Tick) (e : Event) : InStep expected (s.takeEvent now e) := by
  unfold Intake.takeEvent
  by_cases hrun : e.isRunEvent
  · rw [if_pos hrun]
    exact hs.forward (not_isStopTest_of_isRunEvent hrun)
  · rw [if_neg hrun]
    by_cases hending : e.isStopTest
    · rw [if_pos hending]
      exact hs.apply_ending now hending
    · rw [if_neg hending]
      exact hs.apply now (Bool.eq_false_iff.2 hending)

theorem take {a : Arrival} (htake : s.take a = .ok t) : InStep expected t := by
  rcases take_skim_cases s a with ⟨-, heq, -⟩ | ⟨-, heq, -⟩ | ⟨e, -, heq, -⟩ | ⟨-, heq, -⟩ <;>
    rw [htake] at heq
  · exact Except.ok.inj heq ▸ hs
  · exact Except.ok.inj heq ▸ hs.countReceived.countDropped
  · exact Except.ok.inj heq ▸ hs.countReceived.takeEvent a.1 e
  · cases heq

theorem skim {a : Arrival} (hskim : s.skim a = .ok t) : InStep expected t := by
  rcases take_skim_cases s a with ⟨-, -, heq⟩ | ⟨-, -, heq⟩ | ⟨e, -, -, heq⟩ | ⟨-, -, heq⟩ <;>
    rw [hskim] at heq
  · exact Except.ok.inj heq ▸ hs
  · exact Except.ok.inj heq ▸ hs.countReceived.countDropped
  · obtain rfl := Except.ok.inj heq
    by_cases hrun : e.isRunEvent
    · rw [if_pos hrun]
      exact hs.countReceived.forward (not_isStopTest_of_isRunEvent hrun)
    · rw [if_neg hrun]
      exact hs.countReceived
  · cases heq

end InStep

/-- **The echo keeps in step with the tally**, before and after the last ending. -/
theorem inStep_of_step {expected : Nat} {stoppedAt : Instant} {x y : Stage}
    (hstep : Stage.Step expected stoppedAt x y) (hx : InStep expected x.intake) :
    InStep expected y.intake := by
  cases hstep with
  | take _ htake => exact hx.take htake
  | stop _ => exact hx.apply stoppedAt rfl
  | skim hskim => exact hx.skim hskim

theorem inStep_of_reaches {expected : Nat} {stoppedAt : Instant} {x y : Stage}
    (h : Stage.Reaches expected stoppedAt x y) (hx : InStep expected x.intake) :
    InStep expected y.intake := by
  induction h with
  | refl => exact hx
  | tail _ hstep ih => exact inStep_of_step hstep ih

/-! ## what is true of every stage -/

section
variable (expected : Nat) (start : Intake) (stoppedAt : Instant) (arrivals : List Arrival)

/-- While a run receives, it has taken in a part of what it reads. -/
structure Receives (front queue : List Arrival) (s : Intake) : Prop where
  arrivals_eq : arrivals = front ++ queue
  intake_eq : s = start.after front
  read_eq : upToEnding expected arrivals = front ++ upToEnding (expected - endings front) queue

/-- While it drains, its sink is what it was when the run was stopped, and it goes on counting
lines. -/
structure Drains (back queue : List Arrival) (s : Intake) : Prop where
  arrivals_eq : arrivals = upToEnding expected arrivals ++ back ++ queue
  endings_eq : endings (upToEnding expected arrivals) = expected
  sink_eq : s.hub.sink =
    (start.after (upToEnding expected arrivals)).hub.sink.commit stoppedAt (.stopTestRun none)
  tally_eq : s.tally =
    { (start.after (upToEnding expected arrivals ++ back)).tally with completed := expected }

def Accounted : Stage → Prop
  | .receiving s queue => ∃ front, Receives expected start arrivals front queue s
  | .draining s queue => ∃ back, Drains expected start stoppedAt arrivals back queue s

end

section
variable {expected : Nat} {start : Intake} {stoppedAt : Instant} {arrivals : List Arrival}

theorem Receives.completed_eq (hstart : start.tally.completed = 0) {front queue : List Arrival}
    {s : Intake} (h : Receives expected start arrivals front queue s) :
    s.tally.completed = endings front := by
  rw [h.intake_eq, ← Nat.zero_add (endings front), ← hstart]
  rfl

theorem Receives.take (hstart : start.tally.completed = 0) {front queue : List Arrival}
    {a : Arrival} {s t : Intake} (h : Receives expected start arrivals front (a :: queue) s)
    (hmissing : s.tally.completed < expected) (htake : s.take a = .ok t) :
    Receives expected start arrivals (front ++ [a]) queue t where
  arrivals_eq := by
    rw [h.arrivals_eq, List.append_assoc]
    rfl
  intake_eq := by rw [take_ok htake, h.intake_eq, Intake.after_append]
  read_eq := by
    have hcompleted := h.completed_eq hstart
    have hone : endings [a] = if isEnding a then 1 else 0 := by
      rw [endings_cons]
      exact Nat.zero_add _
    rw [h.read_eq, upToEnding_cons (by omega), endings_append, hone, Nat.sub_add_eq,
      List.append_assoc]
    rfl

theorem Receives.stop (hstart : start.tally.completed = 0) {front queue : List Arrival}
    {s : Intake} (h : Receives expected start arrivals front queue s)
    (henough : expected ≤ s.tally.completed) :
    Drains expected start stoppedAt arrivals [] queue (s.apply stoppedAt (.stopTestRun none)) := by
  have hcompleted := h.completed_eq hstart
  -- nothing is missing any more, so what was taken in is all that is read
  have hread : upToEnding expected arrivals = front := by
    rw [h.read_eq, Nat.sub_eq_zero_of_le (hcompleted ▸ henough), upToEnding_zero, List.append_nil]
  have hendings : endings front = expected := by
    have hmin := endings_upToEnding expected arrivals
    rw [hread] at hmin
    omega
  constructor
  · rw [hread, List.append_nil]
    exact h.arrivals_eq
  · rw [hread, hendings]
  · rw [hread, ← h.intake_eq]
    rfl
  · rw [hread, List.append_nil, ← h.intake_eq, ← hendings, ← hcompleted]
    rfl

theorem Drains.skim {back queue : List Arrival} {a : Arrival} {s t : Intake}
    (h : Drains expected start stoppedAt arrivals back (a :: queue) s) (hskim : s.skim a = .ok t) :
    Drains expected start stoppedAt arrivals (back ++ [a]) queue t where
  arrivals_eq := by
    rw [← List.append_assoc, List.append_assoc _ [a]]
    exact h.arrivals_eq
  endings_eq := h.endings_eq
  sink_eq := (skim_ok hskim).1.trans h.sink_eq
  tally_eq := by
    rw [(skim_ok hskim).2, ← List.append_assoc, ← Intake.after_append _ _ [a]]
    simp only [Intake.after, h.tally_eq]

/-- **Every step goes from a stage with this property to one that has it too.** -/
theorem accounted_of_step (hstart : start.tally.completed = 0) {x y : Stage}
    (hstep : Stage.Step expected stoppedAt x y)
    (hx : Accounted expected start stoppedAt arrivals x) :
    Accounted expected start stoppedAt arrivals y := by
  cases hstep with
  | take hmissing htake =>
    obtain ⟨front, hx⟩ := hx
    exact ⟨_, hx.take hstart hmissing htake⟩
  | stop henough =>
    obtain ⟨front, hx⟩ := hx
    exact ⟨_, hx.stop hstart henough⟩
  | skim hskim =>
    obtain ⟨back, hx⟩ := hx
    exact ⟨_, hx.skim hskim⟩

theorem accounted_of_reaches (hstart : start.tally.completed = 0) {y : Stage}
    (h : Stage.Reaches expected stoppedAt (.receiving start arrivals) y) :
    Accounted expected start stoppedAt arrivals y := by
  induction h with
  | refl =>
    refine ⟨[], ?_, ?_, ?_⟩
    · rfl
    · exact start.after_nil.symm
    · rfl
  | tail _ hstep ih => exact accounted_of_step hstart hstep ih

end

/-! ## runs -/

theorem steps_of_consume {expected : Nat} {shortage : Shortage} (stoppedAt : Instant) {s : Intake}
    {queue : List Arrival} (h : (consume expected shortage s queue).result = .ok ()) :
    let r := consume expected shortage s queue
    Stage.Reaches expected stoppedAt (.receiving s queue) (.receiving r.intake r.unread) ∧
      expected ≤ r.intake.tally.completed := by
  induction queue generalizing s with
  | nil =>
    rw [consume] at h ⊢
    by_cases henough : expected ≤ s.tally.completed
    · rw [if_pos henough]
      exact ⟨.refl, henough⟩
    · rw [if_neg henough] at h
      cases h
  | cons a queue ih =>
    rw [consume] at h ⊢
    by_cases henough : expected ≤ s.tally.completed
    · rw [if_pos henough]
      exact ⟨.refl, henough⟩
    · rw [if_neg henough] at h ⊢
      cases htake : s.take a with
      | error e =>
        rw [htake] at h
        cases h
      | ok t =>
        rw [htake] at h
        obtain ⟨hsteps, hcompleted⟩ := ih h
        exact ⟨hsteps.head (.take (Nat.lt_of_not_le henough) htake), hcompleted⟩

theorem steps_of_drain (expected : Nat) (stoppedAt : Instant) {s t : Intake} {queue : List Arrival}
    (h : drain s queue = .ok t) :
    Stage.Reaches expected stoppedAt (.draining s queue) (.draining t []) := by
  induction queue generalizing s with
  | nil =>
    obtain rfl := Except.ok.inj h
    exact .refl
  | cons a queue ih =>
    rw [drain] at h
    cases hskim : s.skim a with
    | error e =>
      rw [hskim] at h
      cases h
    | ok u =>
      rw [hskim] at h
      exact (ih h).head (.skim hskim)

/-- **A run that reports goes through its stages up to an empty queue.** -/
theorem steps_of_run {job : Job} {world : Surroundings} {report : Report}
    (hrun : run job world = .ok report) :
    ∃ expected s, job.plan.expectedTotal = .ok expected ∧
      Stage.Reaches expected world.stoppedAt (firstStage world) (.draining s []) ∧
      report.summary = s.hub.sink.summary world.stoppedAt ∧ report.tally = s.tally := by
  unfold run at hrun
  cases hexpected : job.plan.expectedTotal with
  | error e => simp only [hexpected, reduceCtorEq] at hrun
  | ok expected =>
  cases hport : world.port job.endpoint with
  | error cause => simp only [hexpected, hport, reduceCtorEq] at hrun
  | ok port =>
  cases hworkers : world.broker (job.request port) with
  | error e => simp only [hexpected, hport, hworkers, reduceCtorEq] at hrun
  | ok workers =>
  cases hfinish : finish world (gather expected world) with
  | error e => simp only [hexpected, hport, hworkers, hfinish, reduceCtorEq] at hrun
  | ok s =>
  simp only [hexpected, hport, hworkers, hfinish, Except.ok.injEq] at hrun
  refine ⟨expected, s, rfl, ?_, by rw [← hrun], by rw [← hrun]⟩
  unfold finish at hfinish
  cases hresult : (gather expected world).result with
  | error e => simp only [hresult, reduceCtorEq] at hfinish
  | ok =>
    simp only [hresult] at hfinish
    obtain ⟨hreceive, henough⟩ := steps_of_consume world.stoppedAt hresult
    exact (hreceive.tail (.stop henough)).trans (steps_of_drain expected world.stoppedAt hfinish)

/-! ## reports -/

/-- the summary of a stopped run, said by a sink that knows nothing of runs -/
theorem Drains.summary_eq {expected : Nat} {startedAt stoppedAt : Instant}
    {arrivals back queue : List Arrival} {s : Intake}
    (h : Drains expected { hub := startedHub startedAt } stoppedAt arrivals back queue s)
    (now now' : Instant) :
    let fresh := Sink.empty.commitAll (applied (upToEnding expected arrivals))
    let took := Duration.between startedAt stoppedAt
    s.hub.sink.summary now =
      { fresh.summary now' with
        durationSecs := took.wholeSeconds
        testsPerSec := Sink.perSecond fresh.testCount took
        requestsPerSec := Sink.perSecond fresh.hitCount took } := by
  intro fresh took
  have hnoRun : ∀ te ∈ applied (upToEnding expected arrivals), te.2.isRunEvent = false := by
    intro te hte
    simpa using (List.mem_filter.1 hte).2
  have hreceived : (startedHub startedAt).sink.commitAll (applied (upToEnding expected arrivals)) =
      fresh.timed (some startedAt) none := Sink.commitAll_timed Sink.empty _ _ hnoRun
  have hsink : s.hub.sink = fresh.timed (some startedAt) (some stoppedAt) := by
    rw [h.sink_eq]
    show ((startedHub startedAt).sink.commitAll _).commit stoppedAt _ = _
    rw [hreceived]
    rfl
  rw [hsink]
  exact Sink.summary_timed fresh startedAt stoppedAt now now'

theorem countP_of_connections {connections : List (List UInt8)} {arrivals : List Arrival}
    (hwoven : Run.Woven (connections.map decodeLines) (arrivals.map Prod.snd)) (f : String → Bool) :
    arrivals.countP (fun a => f a.2) = (connections.flatMap decodeLines).countP f := by
  rw [List.flatMap_def, ← hwoven.perm.countP_eq, List.countP_map]
  rfl

/-- **What a distributed run reports.** A run that reports has read up to the last ending that its
plan expects. Its counts are those of all lines of all connections. Its summary is that of a fresh
sink to which just the events that belong to no run were applied, up to that ending, with the times
at which the coordinator itself started and stopped the run. No stage after the last ending has
another summary, and at every stage the echo has counted what the tally has. -/
theorem run_reports {job : Job} {world : Surroundings} {report : Report}
    (hrun : run job world = .ok report) :
    ∃ expected, job.plan.expectedTotal = .ok expected ∧
      let read := upToEnding expected world.arrivals
      let fresh := Sink.empty.commitAll (applied read)
      let took := Duration.between world.startedAt world.stoppedAt
      let Reaches := Stage.Reaches expected world.stoppedAt (firstStage world)
      report.tally.completed = expected ∧
      (endings read = expected ∧
        ∀ part, part <+: world.arrivals → (read <+: part ↔ expected ≤ endings part)) ∧
      (∀ connections : List (List UInt8),
        Run.Woven (connections.map decodeLines) (world.arrivals.map Prod.snd) →
          let lines := (connections.flatMap decodeLines).map Text.trimmed
          report.tally.received = lines.countP (fun line => line ≠ "") ∧
          report.tally.dropped =
            lines.countP fun line => line ≠ "" ∧ (Event.ofLine line).toOption = none) ∧
      (∀ now, report.summary =
        { fresh.summary now with
          durationSecs := took.wholeSeconds
          testsPerSec := Sink.perSecond fresh.testCount took
          requestsPerSec := Sink.perSecond fresh.hitCount took }) ∧
      (∀ s queue now, Reaches (.draining s queue) → s.hub.sink.summary now = report.summary) ∧
      (∃ s, Reaches (.draining s []) ∧ report.tally = s.tally) ∧
      ∀ stage, Reaches stage →
        (echo expected stage.intake).completed = stage.intake.tally.completed := by
  obtain ⟨expected, s, hexpected, hsteps, hsummary, htally⟩ := steps_of_run hrun
  refine ⟨expected, hexpected, ?_⟩
  intro read fresh took Reaches
  obtain ⟨back, hdrains⟩ := accounted_of_reaches rfl hsteps
  have hfresh : ∀ now, report.summary = _ := fun now =>
    hsummary.trans (hdrains.summary_eq world.stoppedAt now)
  have hcount : ∀ f, world.arrivals.countP f = (read ++ back).countP f := by
    have harrivals : read ++ back = world.arrivals := by
      rw [← List.append_nil (read ++ back)]
      exact hdrains.arrivals_eq.symm
    exact fun f => congrArg (List.countP f) harrivals.symm
  have hreceived : report.tally.received = world.arrivals.countP fun a => !isBlank a := by
    rw [htally, hdrains.tally_eq, hcount]
    exact Nat.zero_add _
  have hdropped : report.tally.dropped = world.arrivals.countP isMalformed := by
    rw [htally, hdrains.tally_eq, hcount]
    exact Nat.zero_add _
  have henough : expected ≤ endings world.arrivals := by
    have hmin := endings_upToEnding expected world.arrivals
    rw [hdrains.endings_eq] at hmin
    omega
  refine ⟨?_, ⟨hdrains.endings_eq, fun part hpart => upToEnding_prefix_iff henough hpart⟩,
    fun connections hwoven => ?_, hfresh, fun t queue now ht => ?_, ⟨s, hsteps, htally⟩,
    fun stage hstage => (inStep_of_reaches hstage (.started expected world.startedAt)).counted⟩
  · rw [htally, hdrains.tally_eq]
  · intro lines
    constructor
    · rw [hreceived, List.countP_map, ← countP_of_connections hwoven]
      exact List.countP_congr fun a _ => by simp [isBlank]
    · rw [hdropped, List.countP_map, ← countP_of_connections hwoven]
      exact List.countP_congr fun a _ => by simp [isMalformed, isBlank, decoded?]
  · obtain ⟨_, ht⟩ := accounted_of_reaches rfl ht
    exact (ht.summary_eq now world.stoppedAt).trans (hfresh world.stoppedAt).symm

/-- two agents with one invocation each; the second one talks on after its end -/
def talkative : Job × Surroundings where
  fst := ⟨"t", ⟨[1], [1], some 2⟩, ⟨"localhost", 0⟩⟩
  snd :=
    { port _ := .ok 9000
      broker _ := .ok ["a", "b"]
      arrivals :=
        [(2, "[\"startTest\",\"t\",[1,1,1,1],\"a\"]"), (3, " "),
          (4, "[\"stopTest\",\"t\",[1,1,1,1],\"a\"]"),
          (5, "[\"stopTest\",\"t\",[1,1,1,1],\"b\"]"),
          (6, "[\"addSuccess\",\"t\",[1,1,1,1],\"b\"]"),
          (7, "done"), (8, "[\"stopTestRun\",\"b\"]")]
      shortage := .closed
      startedAt := 1
      stoppedAt := 5 }

theorem run_reports_talkative : ∃ report, run talkative.1 talkative.2 = .ok report ∧
    report.tally = ⟨6, 2, 1⟩ ∧ report.summary.successTotal = 0 := by
  let lines := talkative.2.arrivals.map Prod.snd
  let bytes := lines.flatMap fun line => Text.utf8 line ++ [0x0A]
  let part := applied (upToEnding 2 talkative.2.arrivals)
  have hok : (run talkative.1 talkative.2).isOk = true := by decide +kernel
  have htotal : talkative.1.plan.expectedTotal = .ok 2 := rfl
  have hlines : decodeLines bytes = lines := by decide +kernel
  have hwoven : Run.Woven [decodeLines bytes] lines := by
    have hsingle : ∀ l : List String, Run.Woven [l] l := fun l => by
      simpa using @Run.Woven.takeMany _ [] [] [] [] l (.done (by simp))
    rw [hlines]
    exact hsingle lines
  have hnone : part.countP (fun te => te.2.isOutcome) = 0 := by decide +kernel
  have hsum := Sink.outcomes_commitAll part
  rw [hnone] at hsum
  cases hrun : run talkative.1 talkative.2 with
  | error e =>
    rw [hrun] at hok
    cases hok
  | ok report =>
    obtain ⟨expected, hexpected, hcompleted, -, hcounts, hsummary, -⟩ := run_reports hrun
    obtain rfl : 2 = expected := Except.ok.inj (htotal.symm.trans hexpected)
    obtain ⟨hreceived, hdropped⟩ := hcounts [bytes] hwoven
    refine ⟨report, rfl, ?_, ?_⟩
    · have hreceived : report.tally.received = 6 := hreceived.trans (by decide +kernel)
      have hdropped : report.tally.dropped = 1 := hdropped.trans (by decide +kernel)
      generalize report.tally = tally at hcompleted hreceived hdropped ⊢
      cases tally
      simp_all
    · -- the sink is not to be computed
      generalize Sink.empty.commitAll part = fresh at hsum hsummary
      have hfresh : report.summary.successTotal = fresh.successTotal none none :=
        congrArg Summary.successTotal (hsummary 0)
      omega

end Coordinator

end LoadTest
