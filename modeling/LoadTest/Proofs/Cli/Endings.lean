import LoadTest.Cli.Program
import LoadTest.Proofs.Cli.Jobs
import LoadTest.Proofs.Coordinator.Failures
import LoadTest.Proofs.Run.Uniform

/-!
# How jobs end

A job that has begun ends well, with or without problems, or fails in a way that is its own; only a
hit that starts beyond the clock, sent by an agent, or a local run of a plan with a tier without room
ends the program. The code of a report tells of the events that the report is made of.

* `Printed.Ends`           well, with problems, or with a failure of its own
* `Course.aggregated`, `Tells`   the events that a report is made of, and what a code says of them
* `LocalJob.ends_course`, `SharedJob.ends_course`     how a job ends
* `LocalJob.tells_course`, `SharedJob.tells_course`   what the code of a report says
* `LocalJob.course_uniform`   scenarios with one outcome
* `LocalJob.crowded_iff`, `SharedJob.late_iff`   the ends that are none of these
-/

namespace LoadTest.Cli

/-! ## codes -/

namespace Printed

theorem isAborted_iff (c : Course) :
    (ofCourse c).isAborted = true ↔ ∃ f, c.result = .error f ∧ f.isFatal = true := by
  unfold ofCourse
  cases hresult : c.result with
  | ok code => simp
  | error f =>
    cases hf : f.isFatal <;> simp [hf, aborted]

theorem isAborted_of_fatal {c : Course} {e : Error} (h : c.result = .error (.error e))
    (he : e.isFatal = true) : (ofCourse c).isAborted = true :=
  (isAborted_iff c).2 ⟨.error e, h, he⟩

theorem exit_ofCourse {c : Course} (h : (ofCourse c).isAborted = false) :
    (ofCourse c).exit = c.exit.code := by
  revert h
  unfold ofCourse Course.exit
  cases hresult : c.result with
  | ok code => simp
  | error f =>
    cases hf : f.isFatal <;> simp [hf, aborted]

theorem exit_of_isAborted {c : Course} (h : (ofCourse c).isAborted = true) :
    (ofCourse c).exit = abortCode := by
  obtain ⟨f, hresult, hf⟩ := (isAborted_iff c).1 h
  simp [ofCourse, hresult, hf, aborted]

/-- `Ends c`: well, with problems, or with a failure of its own. -/
inductive Ends (c : Course) : Prop
  | success (h : c.result = .ok .success)
  | problems (h : c.result = .ok .problemsRecorded)
  | failed {e : Error} (h : c.result = .error (.error e)) (he : e.IsRuntime)

theorem Ends.of_summary {c : Course} {s : Summary} (h : c.result = .ok (.ofSummary s)) :
    Ends c := by
  unfold ExitCode.ofSummary at h
  cases hs : s.hasProblems with
  | true =>
    rw [hs] at h
    exact .problems h
  | false =>
    rw [hs] at h
    exact .success h

theorem Ends.not_aborted {c : Course} (h : Ends c) : (ofCourse c).isAborted = false := by
  rw [← Bool.not_eq_true, isAborted_iff]
  rintro ⟨f, hresult, hf⟩
  cases h with
  | success h | problems h =>
    rw [hresult] at h
    cases h
  | failed h he =>
    rw [hresult] at h
    obtain rfl := Except.error.inj h
    exact Bool.false_ne_true (he.2.symm.trans hf)

/-- where only one failure is no end of its own, the program is ended by it -/
theorem isAborted_iff_of_ends {c : Course} {e : Error}
    (h : Ends c ∨ c.result = .error (.error e)) (he : e.isFatal = true) :
    (ofCourse c).isAborted = true ↔ c.result = .error (.error e) := by
  refine ⟨fun haborted => h.resolve_left fun hends => ?_, fun hfatal => isAborted_of_fatal hfatal he⟩
  exact Bool.false_ne_true (hends.not_aborted.symm.trans haborted)

theorem Ends.exit {c : Course} (h : Ends c) :
    ∃ code ∈ [ExitCode.success, .problemsRecorded, .runtimeError],
      (ofCourse c).exit = code.code := by
  rw [exit_ofCourse h.not_aborted]
  unfold Course.exit
  cases h with
  | success h => exact ⟨.success, by decide, by rw [h]⟩
  | problems h => exact ⟨.problemsRecorded, by decide, by rw [h]⟩
  | failed h he =>
    refine ⟨.runtimeError, by decide, ?_⟩
    rw [h]
    show (ExitCode.ofError _).code = _
    unfold ExitCode.ofError
    rw [he.1]
    rfl

theorem exit_ne_invalidInput {c : Course} (h : Ends c ∨ (ofCourse c).isAborted = true) :
    (ofCourse c).exit ≠ ExitCode.invalidInput.code := by
  rcases h with hends | haborted
  · have hall : ∀ code ∈ [ExitCode.success, .problemsRecorded, .runtimeError],
        code.code ≠ ExitCode.invalidInput.code := by decide
    obtain ⟨code, hcode, hexit⟩ := hends.exit
    rw [hexit]
    exact hall code hcode
  · rw [exit_of_isAborted haborted]
    decide

end Printed

/-! ## what a report is made of -/

def IsProblem (e : Event) : Prop := e.kind = .addFailure ∨ e.kind = .addError

/-- `Tells code events`: the code says whether there is a problem among the events. -/
def Tells (code : ExitCode) (events : List Event) : Prop :=
  (code = .problemsRecorded ↔ ∃ e ∈ events, IsProblem e) ∧
    (code = .success ↔ ∀ e ∈ events, ¬ IsProblem e)

theorem tells_ofSummary {s : Summary} {history : History} {now : Instant}
    (h : s.hasProblems = ((Sink.empty.commitAll history).summary now).hasProblems) :
    Tells (.ofSummary s) (history.map Prod.snd) := by
  have hproblems : s.hasProblems = true ↔ ∃ e ∈ history.map Prod.snd, IsProblem e := by
    rw [h, Sink.hasProblems_iff]
    constructor
    · rintro ⟨te, hte, hproblem⟩
      exact ⟨te.2, List.mem_map_of_mem hte, hproblem⟩
    · rintro ⟨e, he, hproblem⟩
      obtain ⟨te, hte, rfl⟩ := List.mem_map.1 he
      exact ⟨te, hte, hproblem⟩
  unfold ExitCode.ofSummary
  cases hs : s.hasProblems with
  | true =>
    obtain ⟨e, he, hproblem⟩ := hproblems.1 hs
    exact ⟨iff_of_true rfl ⟨e, he, hproblem⟩, iff_of_false nofun fun hnone => hnone e he hproblem⟩
  | false =>
    have hnone : ¬ ∃ e ∈ history.map Prod.snd, IsProblem e := fun hsome => by
      rw [hproblems.2 hsome] at hs
      cases hs
    refine ⟨iff_of_false nofun hnone, iff_of_true rfl fun e he hproblem => ?_⟩
    exact hnone ⟨e, he, hproblem⟩

/-- The events that a report is made of: those of the local run, or those that the agents sent up to
the last ending that their plan expects. -/
def Course.aggregated (c : Course) (w : World) : List Event :=
  match c.finished?, c.request? with
  | some f, _ => f.log
  | none, some r =>
    (Coordinator.applied (Coordinator.upToEnding (r.plan.perAgent * r.plan.agentCount)
      (w.arrivals r))).map Prod.snd
  | none, none => []

/-! ## local runs -/

namespace LocalJob
variable (job : LocalJob) (a : Arguments) (w : World)

theorem closing_error {e : Error} (h : job.closing w = .error e) : e.IsRuntime := by
  unfold closing at h
  cases hcause : job.stream.destination?.bind w.closing with
  | none =>
    simp only [hcause] at h
    cases h
  | some cause =>
    simp only [hcause] at h
    obtain rfl := Except.error.inj h
    exact ⟨rfl, rfl⟩

/-- A run that fails broke off, or was left by a panic, or its stream did not end well. -/
theorem execution_error {stream : Stream} {e : Error}
    (h : (job.execution a w stream).result = .error e) : e.IsRuntime ∨ e = .capacityOverflow := by
  obtain ⟨stop, hresult⟩ := Run.result_execute ⟨stream, a.worker⟩ job.header.plan job.scenario
    w.weaver (job.closing w) w.startedAt
  rw [execution, hresult] at h
  split at h
  · exact .inr (Except.error.inj h).symm
  · left
    unfold Run.verdict at h
    split at h
    · obtain rfl := Except.error.inj h
      exact ⟨rfl, rfl⟩
    · next hclosing =>
      obtain rfl := Except.error.inj h
      exact job.closing_error w hclosing
    · cases h

theorem execution_ok {stream : Stream} {summary : Summary}
    (h : (job.execution a w stream).result = .ok summary) :
    ∃ stop, summary =
      (Sink.empty.commitAll (job.execution a w stream).history).summary stop := by
  obtain ⟨stop, hresult⟩ := Run.result_execute ⟨stream, a.worker⟩ job.header.plan job.scenario
    w.weaver (job.closing w) w.startedAt
  rw [execution, hresult] at h
  rw [execution, ← Run.sink_execute]
  split at h
  · cases h
  · unfold Run.verdict at h
    split at h
    · cases h
    · cases h
    · exact ⟨stop, (Except.ok.inj h).symm⟩

theorem ends_course : Printed.Ends (job.course a w) ∨
    (job.course a w).result = .error (.error .capacityOverflow) := by
  refine job.course_of_does a w fun c hdoes => ?_
  cases hdoes with
  | unopened hfill =>
    obtain ⟨place, cause, rfl⟩ := StreamOrder.error_of_fill hfill
    exact .inl (.failed rfl ⟨rfl, rfl⟩)
  | failed hfill hresult =>
    rcases job.execution_error a w hresult with hruntime | rfl
    · exact .inl (.failed rfl hruntime)
    · exact .inr rfl
  | reported hfill hresult => exact .inl (.of_summary rfl)

theorem ask_notMem_effects (broker : Endpoint) (r : Dispatch.Request) :
    Effect.ask broker r ∉ (job.course a w).effects := by
  refine job.course_of_does a w fun c hdoes => ?_
  cases hdoes with
  | unopened => simp [connections]
  | failed => simp [connections]
  | reported => simp [connections, Course.reported]

variable {job a w}

theorem finished?_course {stream : Stream} (hfill : job.stream.fill w.link = .ok stream) :
    (job.course a w).finished? = some (job.execution a w stream) := by
  refine job.course_of_does a w fun c hdoes => ?_
  cases hdoes with
  | unopened hfill' =>
    rw [hfill'] at hfill
    cases hfill
  | failed hfill' =>
    obtain rfl := Except.ok.inj (hfill'.symm.trans hfill)
    unfold Course.finished? connections
    cases job.stream.destination? <;> rfl
  | reported hfill' =>
    obtain rfl := Except.ok.inj (hfill'.symm.trans hfill)
    unfold Course.finished? Course.reported connections
    cases job.stream.destination? <;> rfl

theorem result_ok {code : ExitCode} (h : (job.course a w).result = .ok code) :
    ∃ stream summary, job.stream.fill w.link = .ok stream ∧
      (job.execution a w stream).result = .ok summary ∧ code = .ofSummary summary := by
  revert h
  refine job.course_of_does a w fun c hdoes h => ?_
  cases hdoes with
  | unopened => cases h
  | failed => cases h
  | reported hfill hresult => exact ⟨_, _, hfill, hresult, (Except.ok.inj h).symm⟩

theorem tells_course {code : ExitCode} (h : (job.course a w).result = .ok code) :
    Tells code ((job.course a w).aggregated w) := by
  obtain ⟨stream, summary, hfill, hresult, rfl⟩ := result_ok h
  obtain ⟨stop, rfl⟩ := job.execution_ok a w hresult
  unfold Course.aggregated
  rw [finished?_course hfill]
  exact tells_ofSummary rfl

/-- A run that no panic leaves breaks off just if its plan has a tier without room. -/
theorem execution_crowded_iff (hguarded : job.scenario.Guarded) (stream : Stream) :
    (job.execution a w stream).result = .error .capacityOverflow ↔
      ¬ job.header.plan.HasRoom := by
  unfold execution
  by_cases hroom : job.header.plan.HasRoom
  · obtain ⟨stop, hresult⟩ := Run.result_of_guarded hguarded ⟨stream, a.worker⟩ hroom w.weaver
      (job.closing w) w.startedAt
    refine iff_of_false (fun hcrowded => ?_) (not_not_intro hroom)
    rw [hresult] at hcrowded
    cases hclosing : job.closing w with
    | ok u =>
      rw [hclosing] at hcrowded
      cases hcrowded
    | error e =>
      rw [hclosing] at hcrowded
      obtain rfl := Except.error.inj hcrowded
      cases (job.closing_error w hclosing).2
  · exact iff_of_true (Run.result_of_crowded hguarded ⟨stream, a.worker⟩ hroom w.weaver
      (job.closing w) w.startedAt) hroom

theorem crowded_iff (hguarded : job.scenario.Guarded) :
    (job.course a w).result = .error (.error .capacityOverflow) ↔
      (job.course a w).finished?.isSome = true ∧ ¬ job.header.plan.HasRoom := by
  refine job.course_of_does a w fun c hdoes => ?_
  cases hdoes with
  | unopened hfill =>
    obtain ⟨place, cause, rfl⟩ := StreamOrder.error_of_fill hfill
    unfold Course.finished? connections
    cases job.stream.destination? <;> simp
  | @failed stream e hfill hresult =>
    have hcrowded := execution_crowded_iff (a := a) (w := w) hguarded stream
    rw [← hcrowded, hresult]
    unfold Course.finished? connections
    cases job.stream.destination? <;> simp
  | @reported stream summary hfill hresult =>
    have hcrowded := execution_crowded_iff (a := a) (w := w) hguarded stream
    rw [← hcrowded, hresult]
    simp [Course.reported]

/-- **A scenario with one outcome** comes to as many of them as the plan has invocations. -/
theorem course_uniform {test : String} {body : Slot → Option String → Body} {k : EventKind}
    (hbody : Run.Uniform body k) (hscenario : job.scenario = .testCase test body)
    {total : Option Nat} (hstream : job.stream = .stdout total) (hroom : job.header.plan.HasRoom) :
    ∃ finished summary, (job.course a w).finished? = some finished ∧
      finished.result = .ok summary ∧
      (job.course a w).result = .ok (.ofSummary summary) ∧
      summary.successTotal = (if k = .addSuccess then job.header.plan.perAgent else 0) ∧
      summary.failuresTotal = (if k = .addFailure then job.header.plan.perAgent else 0) ∧
      summary.errorsTotal = if k = .addError then job.header.plan.perAgent else 0 := by
  have hfill : job.stream.fill w.link = .ok (.stdout { total }) := by rw [hstream]; rfl
  have hclosing : job.closing w = .ok () := by
    unfold closing
    rw [hstream]
    rfl
  have hexecution : job.execution a w (.stdout { total }) =
      Run.execute ⟨.stdout { total }, a.worker⟩ job.header.plan (.testCase test body) w.weaver
        (.ok ()) w.startedAt := by
    unfold execution
    rw [hscenario, hclosing]
  obtain ⟨stop, hresult⟩ := Run.result_of_guarded (Scenario.testCase_guarded test body)
    ⟨.stdout { total }, a.worker⟩ hroom w.weaver (.ok ()) w.startedAt
  obtain ⟨hsuccess, hfailures, herrors⟩ := Run.outcomes_uniform hbody
    ⟨.stdout { total }, a.worker⟩ job.header.plan test w.weaver (.ok ()) w.startedAt
  rw [← hexecution] at hresult hsuccess hfailures herrors
  rw [Plan.roomy_eq hroom] at hsuccess hfailures herrors
  refine ⟨_, _, finished?_course hfill, hresult, ?_, hsuccess, hfailures, herrors⟩
  refine job.course_of_does a w fun c hdoes => ?_
  cases hdoes with
  | unopened hfill' =>
    rw [hfill'] at hfill
    cases hfill
  | failed hfill' hresult' =>
    obtain rfl := Except.ok.inj (hfill'.symm.trans hfill)
    rw [hresult'] at hresult
    cases hresult
  | reported hfill' hresult' =>
    obtain rfl := Except.ok.inj (hfill'.symm.trans hfill)
    rw [hresult'] at hresult
    obtain rfl := Except.ok.inj hresult
    rfl

end LocalJob

/-! ## runs with agents -/

namespace SharedJob
variable {job : SharedJob} {a : Arguments} {w : World}

theorem request?_course : (job.course a w).request? = job.request? w := by
  refine job.course_of_does a w fun c hdoes => ?_
  cases hdoes with
  | failed =>
    unfold Course.request? opening
    cases job.request? w <;> rfl
  | reported =>
    unfold Course.request? Course.reported opening
    cases job.request? w <;> rfl

theorem finished?_course : (job.course a w).finished? = none := by
  refine job.course_of_does a w fun c hdoes => ?_
  cases hdoes with
  | failed =>
    unfold Course.finished? opening
    cases job.request? w <;> rfl
  | reported =>
    unfold Course.finished? Course.reported opening
    cases job.request? w <;> rfl

theorem mem_effects_ask {broker : Endpoint} {r : Dispatch.Request} :
    Effect.ask broker r ∈ (job.course a w).effects ↔
      broker = job.broker ∧ job.request? w = some r := by
  refine job.course_of_does a w fun c hdoes => ?_
  cases hdoes with
  | failed => simp [opening, and_comm, eq_comm]
  | reported => simp [opening, Course.reported, and_comm, eq_comm]

theorem isRuntime_of_broker (r : Dispatch.Request) (e : Error)
    (h : (job.surroundings a w).broker r = .error e) : e.IsRuntime :=
  Dispatch.isRuntime_of_ask h

section
variable {expected : Nat} (hexpected : job.job.plan.expectedTotal = .ok expected)
include hexpected

theorem ends_course : Printed.Ends (job.course a w) ∨
    (job.course a w).result = .error (.error .clockOverflow) := by
  refine job.course_of_does a w fun c hdoes => ?_
  cases hdoes with
  | failed hrun =>
    rcases Coordinator.run_failure hexpected isRuntime_of_broker hrun with hruntime | rfl
    · exact .inl (.failed rfl hruntime)
    · exact .inr rfl
  | reported hrun => exact .inl (.of_summary rfl)

end

theorem request?_eq_some_iff {r : Dispatch.Request} : job.request? w = some r ↔
    ∃ port, w.port job.job.endpoint = .ok port ∧ job.job.request port = r := by
  unfold request?
  cases w.port job.job.endpoint <;> simp [Except.toOption]

theorem arrivals_of_request? {r : Dispatch.Request} (h : job.request? w = some r) :
    (job.surroundings a w).arrivals = w.arrivals r := by
  show ((job.request? w).map w.arrivals).getD [] = _
  rw [h]
  rfl

/-- A late line ends the program just if its agent has been started. -/
theorem late_iff {expected : Nat} (hexpected : job.job.plan.expectedTotal = .ok expected) :
    (job.course a w).result = .error (.error .clockOverflow) ↔
      ∃ broker r workers, Effect.ask broker r ∈ (job.course a w).effects ∧
        Dispatch.ask broker Dispatch.defaultPatience (w.broker broker r) = .ok workers ∧
        ∃ line ∈ w.arrivals r, Coordinator.IsLate line := by
  have hrun : (job.course a w).result = .error (.error .clockOverflow) ↔
      Coordinator.run job.job (job.surroundings a w) = .error .clockOverflow := by
    unfold course
    cases Coordinator.run job.job (job.surroundings a w) <;> simp [Course.reported]
  rw [hrun, Coordinator.run_late_iff hexpected isRuntime_of_broker]
  simp only [mem_effects_ask, request?_eq_some_iff]
  constructor
  · rintro ⟨port, workers, hport, hworkers, hlate⟩
    rw [arrivals_of_request? (request?_eq_some_iff.2 ⟨port, hport, rfl⟩)] at hlate
    exact ⟨job.broker, job.job.request port, workers, ⟨rfl, port, hport, rfl⟩, hworkers, hlate⟩
  · rintro ⟨broker, r, workers, ⟨rfl, port, hport, rfl⟩, hworkers, hlate⟩
    rw [← arrivals_of_request? (request?_eq_some_iff.2 ⟨port, hport, rfl⟩)] at hlate
    exact ⟨port, workers, hport, hworkers, hlate⟩

theorem tells_course {code : ExitCode} (h : (job.course a w).result = .ok code) :
    Tells code ((job.course a w).aggregated w) := by
  have hreport : ∃ report, Coordinator.run job.job (job.surroundings a w) = .ok report ∧
      code = .ofSummary report.summary := by
    revert h
    refine job.course_of_does a w fun c hdoes h => ?_
    cases hdoes with
    | failed => cases h
    | reported hrun => exact ⟨_, hrun, (Except.ok.inj h).symm⟩
  obtain ⟨report, hrun, rfl⟩ := hreport
  obtain ⟨port, hport⟩ := Coordinator.exists_port hrun
  have hrequest := request?_eq_some_iff.2 ⟨port, hport, rfl⟩
  obtain ⟨expected, s, hexpected, hsteps, hsummary, -⟩ := Coordinator.steps_of_run hrun
  obtain ⟨back, hdrains⟩ := Coordinator.accounted_of_reaches rfl hsteps
  have htotal : job.job.plan.perAgent * job.job.plan.agentCount = expected :=
    (Plan.expectedTotal_eq_ok_iff.1 hexpected).2.2.1
  have hshown := hdrains.summary_eq w.stoppedAt w.stoppedAt
  rw [arrivals_of_request? hrequest, ← htotal] at hshown
  have hsame : report.summary.hasProblems = ((Sink.empty.commitAll (Coordinator.applied
      (Coordinator.upToEnding (job.job.plan.perAgent * job.job.plan.agentCount)
        (w.arrivals (job.job.request port))))).summary w.stoppedAt).hasProblems := by
    rw [hsummary]
    show (s.hub.sink.summary w.stoppedAt).hasProblems = _
    rw [hshown]
    rfl
  unfold Course.aggregated
  rw [finished?_course, request?_course, hrequest]
  exact tells_ofSummary hsame

end SharedJob

end LoadTest.Cli
