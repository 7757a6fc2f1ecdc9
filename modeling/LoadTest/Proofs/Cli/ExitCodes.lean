import LoadTest.Proofs.Cli.Endings
import LoadTest.Proofs.Cli.Words

/-!
# Exit codes

The caller is refused before anything is done, and never later. A run that has done something ends
as its job does.

* `Goes`, `goes_run`       a refusal or a job
* `Goes.exit_invalidInput_iff`   when the caller is refused
* `Goes.exit_cases`        what can follow once something has been done
* `run_uniform`            scenarios with one outcome
* `exit_codes`             all of it, for every command line
-/

namespace LoadTest.Cli

/-! ## command lines -/

/-- All that can come of a scenario: a refusal before anything is done, or a job. -/
inductive Goes (w : World) (a : Arguments) (id : String) : Course → Prop
  | refused {e : Error} (he : e.isInvalidInput = true ∨ e = .clockOverflow) :
      Goes w a id (.refused e)
  | executed (job : LocalJob) (hguarded : job.scenario.Guarded)
      (hplan : Plan.parse a.users a.cycles a.agents = .ok job.header.plan) :
      Goes w a id (job.course a w)
  | gathered (job : SharedJob) {expected : Nat}
      (hexpected : job.job.plan.expectedTotal = .ok expected) : Goes w a id (job.course a w)

theorem isInvalidInput_of_parse {users cycles : String} {agents : Option UInt64} {e : Error}
    (h : Plan.parse users cycles agents = .error e) : e.isInvalidInput = true := by
  have hverdict := Plan.parse_eq_iff.1 h
  cases hverdict <;> rfl

theorem goes_run {w : World} {words : List String} {a : Arguments}
    (hread : Arguments.read w.outside.setting words = .ok a) {id : String}
    (hid : a.scenario = some id) : Goes w a id (run w a) := by
  cases hplan : Plan.parse a.users a.cycles a.agents with
  | error e =>
    have hrun : run w a = .refused e := by
      unfold run
      simp only [hid, hplan]
    rw [hrun]
    exact .refused (.inl (isInvalidInput_of_parse hplan))
  | ok p =>
    rw [run_eq_runPlan hid hplan]
    cases hagents : p.agents.isSome with
    | true =>
      cases hjob : SharedJob.ofArguments a (.builtin w.outside) id p with
      | error e =>
        rw [runPlan_shared_refused hagents hjob]
        exact .refused (.inl (SharedJob.isInvalidInput_of_fault hjob))
      | ok job =>
        rw [runPlan_shared_job hagents hjob]
        obtain ⟨broker, endpoint, progress, expected, -, -, -, -, hexpected, rfl⟩ :=
          SharedJob.ofArguments_eq_ok_iff.1 hjob
        exact .gathered _ hexpected
    | false =>
      cases hjob : LocalJob.ofArguments a (.builtin w.outside) id p with
      | error e =>
        rw [runPlan_local_refused hagents hjob]
        exact .refused ((LocalJob.fault_cases (Arguments.isShown_of_read hread) hjob).imp_right
          And.left)
      | ok job =>
        rw [runPlan_local_job hagents hjob]
        obtain ⟨scenario, kind, expected, stream, hresolve, -, -, -, rfl⟩ :=
          LocalJob.ofArguments_eq_ok_iff.1 hjob
        exact .executed _ (Builtin.guarded_of_resolve hresolve) hplan

section
variable {w : World} {a : Arguments} {id : String} {c : Course}

/-- the caller is refused just if nothing has been done and nothing was beyond the clock -/
theorem Goes.exit_invalidInput_iff (h : Goes w a id c) :
    (Printed.ofCourse c).exit = ExitCode.invalidInput.code ↔
      c.effects = [] ∧ (Printed.ofCourse c).isAborted = false := by
  cases h with
  | @refused e he =>
    rcases he with hinvalid | rfl
    · have hnot : (Printed.ofCourse (.refused e)).isAborted = false := by
        rw [← Bool.not_eq_true, Printed.isAborted_iff]
        rintro ⟨f, hresult, hf⟩
        obtain rfl := Except.error.inj hresult
        exact Bool.false_ne_true ((Error.isFatal_of_isInvalidInput hinvalid).symm.trans hf)
      refine iff_of_true ?_ ⟨rfl, hnot⟩
      rw [Printed.exit_ofCourse hnot]
      show (ExitCode.ofError e).code = _
      unfold ExitCode.ofError
      rw [if_pos hinvalid]
    · exact iff_of_false (by decide) fun h => Bool.noConfusion h.2
  | executed job =>
    exact iff_of_false (Printed.exit_ne_invalidInput ((job.ends_course a w).imp_right
      (Printed.isAborted_of_fatal · rfl))) fun h => job.effects_course_ne_nil a w h.1
  | gathered job hexpected =>
    exact iff_of_false (Printed.exit_ne_invalidInput ((SharedJob.ends_course hexpected).imp_right
      (Printed.isAborted_of_fatal · rfl))) fun h => job.effects_course_ne_nil a w h.1

/-- what can follow once something has been done -/
theorem Goes.exit_cases (h : Goes w a id c) (heffects : c.effects ≠ []) :
    ((∃ code ∈ [ExitCode.success, .problemsRecorded, .runtimeError],
        (Printed.ofCourse c).exit = code.code) ∨ (Printed.ofCourse c).isAborted = true) ∧
    ((Printed.ofCourse c).isAborted = true ↔
      (∃ broker r workers, Effect.ask broker r ∈ c.effects ∧
        Dispatch.ask broker Dispatch.defaultPatience (w.broker broker r) = .ok workers ∧
        ∃ line ∈ w.arrivals r, Coordinator.IsLate line) ∨
      c.finished?.isSome = true ∧
        ∃ p, Plan.parse a.users a.cycles a.agents = .ok p ∧ ¬ p.HasRoom) := by
  cases h with
  | refused he => exact absurd rfl heffects
  | executed job hguarded hplan =>
    have hends := job.ends_course a w
    have hask : ¬ ∃ broker r workers, Effect.ask broker r ∈ (job.course a w).effects ∧
        Dispatch.ask broker Dispatch.defaultPatience (w.broker broker r) = .ok workers ∧
        ∃ line ∈ w.arrivals r, Coordinator.IsLate line := by
      rintro ⟨broker, r, -, hask, -⟩
      exact job.ask_notMem_effects a w broker r hask
    refine ⟨hends.imp Printed.Ends.exit (Printed.isAborted_of_fatal · rfl), ?_⟩
    rw [or_iff_right hask, Printed.isAborted_iff_of_ends hends rfl, LocalJob.crowded_iff hguarded,
      hplan]
    simp
  | gathered job hexpected =>
    have hends := SharedJob.ends_course (a := a) (w := w) hexpected
    refine ⟨hends.imp Printed.Ends.exit (Printed.isAborted_of_fatal · rfl), ?_⟩
    rw [SharedJob.finished?_course, Printed.isAborted_iff_of_ends hends rfl,
      SharedJob.late_iff hexpected]
    simp

theorem Goes.tells (h : Goes w a id c) {code : ExitCode} (hcode : c.result = .ok code) :
    Tells code (c.aggregated w) := by
  cases h with
  | refused he => cases hcode
  | executed job => exact LocalJob.tells_course hcode
  | gathered job hexpected => exact SharedJob.tells_course hcode

end

theorem run_uniform {w : World} {a : Arguments} (hshown : a.IsShown) {id : String}
    (hid : a.scenario = some id) {p : Plan} {total : Nat} {k : EventKind}
    (hplan : Plan.parse a.users a.cycles a.agents = .ok p) (hagents : p.agents = none)
    (hroom : p.HasRoom) (htotal : p.expectedTotal = .ok total)
    (hstream : StreamKind.ofName a.stream = .ok .stdout) (hsound : a.stdout.Sound .stdout)
    (hk : (id, k) ∈ Builtin.uniform) :
    ∃ finished summary, (run w a).finished? = some finished ∧ finished.result = .ok summary ∧
      (run w a).result = .ok (if k = .addSuccess then .success else .problemsRecorded) ∧
      summary.successTotal = (if k = .addSuccess then total else 0) ∧
      summary.failuresTotal = (if k = .addFailure then total else 0) ∧
      summary.errorsTotal = if k = .addError then total else 0 := by
  have haccepted : p.Accepted := (Plan.parse_eq_iff.1 hplan).accepted_plan
  have hperAgent : p.perAgent = total := by
    have hcount := (Plan.expectedTotal_eq_ok_iff.1 htotal).2.2.1
    have hone : p.agentCount = 1 := by
      unfold Plan.agentCount
      rw [hagents]
      rfl
    rwa [hone, Nat.mul_one] at hcount
  obtain ⟨test, body, hresolve, hbody⟩ := Builtin.resolve_uniform w.outside hk
  obtain ⟨settings, hsettings⟩ := LocalJob.exists_config hshown .stdout total
  have hfits : total < UInt64.size := hperAgent ▸ haccepted.perAgent_lt
  have hconfig := (LocalJob.sound_config_iff hshown .stdout hfits).2 hsound
  rw [hsettings] at hconfig
  obtain ⟨shown, horder⟩ := StreamOrder.ofConfig_stdout hconfig
  rw [← hsettings] at horder
  let job : LocalJob := ⟨.testCase test body, .stdout shown, ⟨id, p, .local, total⟩⟩
  have hjob : LocalJob.ofArguments a (.builtin w.outside) id p = .ok job :=
    LocalJob.ofArguments_eq_ok_iff.2 ⟨_, _, _, _, hresolve, hstream, htotal, horder, rfl⟩
  rw [run_eq_runPlan hid hplan, runPlan_local_job (by rw [hagents]; rfl) hjob]
  obtain ⟨finished, summary, hfinished, hresult, hcode, hsuccess, hfailures, herrors⟩ :=
    LocalJob.course_uniform hbody (rfl : job.scenario = .testCase test body)
      (rfl : job.stream = .stdout shown) hroom
  have hheader : job.header.plan.perAgent = total := hperAgent
  rw [hheader] at hsuccess hfailures herrors
  refine ⟨finished, summary, hfinished, hresult, ?_, hsuccess, hfailures, herrors⟩
  -- an accepted plan has an invocation, so its outcome is counted
  have hpos : 0 < total := hperAgent ▸ haccepted.perAgent_pos
  rw [hcode]
  refine congrArg Except.ok ?_
  unfold ExitCode.ofSummary Summary.hasProblems
  rw [hfailures, herrors]
  simp only [Builtin.uniform, List.mem_cons, List.not_mem_nil, or_false, Prod.mk.injEq] at hk
  rcases hk with ⟨-, rfl⟩ | ⟨-, rfl⟩ | ⟨-, rfl⟩ | ⟨-, rfl⟩ <;> simp [hpos]

/-- the agent that is started for a request sends a hit that starts beyond the clock -/
def lateWorld : World :=
  { World.offline (fun _ => none) .still with
    broker := fun _ _ => .answers "[\"dispatched\",[\"a\"]]"
    arrivals := fun _ => [(0, Coordinator.lateHit)] }

/-- one agent, and all else as it is when nothing is said -/
def oneAgent : Arguments := { scenario := some "noop", agents := some 1 }

theorem read_oneAgent : Arguments.read lateWorld.outside.setting ["noop", "-a", "1"] =
    .ok oneAgent := by
  have hagents : Names "-a" .agents := .inr ⟨'a', by decide, by decide⟩
  have hone : IsPlain "1" := by unfold IsPlain; decide
  have hscenario : IsPlain "noop" := by unfold IsPlain; decide
  have hgivens : ∀ g ∈ [(⟨"-a", .agents, "1"⟩ : Given)], g.IsReadable := by
    intro g hg
    obtain rfl := List.mem_singleton.1 hg
    exact ⟨hagents, hone⟩
  exact Arguments.read_givens lateWorld.outside.setting hscenario hgivens (List.nodup_singleton _)
    (a := oneAgent) rfl

theorem course_oneAgent :
    ((run lateWorld oneAgent).printed, Printed.ofCourse (run lateWorld oneAgent)) =
      ("scenario: noop\nusers=1 cycles=1 agents=1 expected=1\n\n",
        .aborted (.error .clockOverflow)
          "scenario: noop\nusers=1 cycles=1 agents=1 expected=1\n\n") := by
  decide +kernel

end LoadTest.Cli
