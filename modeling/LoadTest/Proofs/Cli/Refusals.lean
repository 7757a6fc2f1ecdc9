import LoadTest.Proofs.Cli.Jobs
import LoadTest.Proofs.Cli.Words

/-!
# Options and the start of a run

A run does something just if the options that it looks at are in order. A local run looks at all
options of its stream. A run with agents looks at the endpoint and at the progress, and not at the
time that a connection may take.

* `runPlan_setTimeout`    what a run with agents does not look at
* `run_checks_options`    what every run does look at
-/

namespace LoadTest.Cli

section
variable {w : World} {a : Arguments} {id : String} {p : Plan}

theorem endpointText_setTimeout (c : StreamConfig) (text : String) :
    StreamOrder.endpointText (c.set "connect-timeout" text) = StreamOrder.endpointText c := by
  have hget : (c.set "connect-timeout" text).get? "endpoint" = c.get? "endpoint" :=
    (Text.getNamed?_putNamed "endpoint" "connect-timeout" text c.values).trans (if_neg (by decide))
  unfold StreamOrder.endpointText
  rw [hget]

/-- With agents it makes no difference how long a connection may take. -/
theorem runPlan_setTimeout (hshared : p.agents.isSome = true) (text : String) :
    runPlan w (a.setConfig .remote "connect-timeout" text) id p = runPlan w a id p := by
  have hgather : SharedJob.gatherAt (a.setConfig .remote "connect-timeout" text) =
      SharedJob.gatherAt a := by
    rw [SharedJob.gatherAt_eq, SharedJob.gatherAt_eq]
    exact congrArg Endpoint.parse (endpointText_setTimeout a.remote text)
  have hjob : ∀ r : Registry,
      SharedJob.ofArguments (a.setConfig .remote "connect-timeout" text) r id p =
        SharedJob.ofArguments a r id p := by
    intro r
    unfold SharedJob.ofArguments
    rw [hgather]
    rfl
  unfold runPlan
  rw [if_pos hshared, if_pos hshared, hjob]
  rfl

/-- **What is checked before a run.** With agents a run does nothing, and tells the caller so, just
if the broker or the endpoint is none or a text of the echo is not accepted; how long a connection
may take makes no difference. A local run does nothing just if a text of its stream is not accepted
or the endpoint is none; the caller is told so unless the text is a duration that is too long. -/
theorem run_checks_options {words : List String}
    (hread : Arguments.read w.outside.setting words = .ok a) (hid : a.scenario = some id)
    (hknown : (Registry.builtin w.outside).contains id = true)
    (hplan : Plan.parse a.users a.cycles a.agents = .ok p) :
    (p.agents.isSome = true →
      ((run w a).effects = [] ↔
        (∀ endpoint, Endpoint.parse a.broker ≠ .ok endpoint) ∨
        (∀ endpoint, Endpoint.parse (StreamOrder.endpointText a.remote) ≠ .ok endpoint) ∨
        ¬ a.stdout.Sound .stdout) ∧
      ((run w a).effects = [] → (run w a).exit = .invalidInput) ∧
      ∀ text, run w (a.setConfig .remote "connect-timeout" text) = run w a) ∧
    (p.agents.isSome = false → ∀ k, StreamKind.ofName a.stream = .ok k →
      ((run w a).effects = [] ↔
        ¬ (a.config k).Sound k ∨ k = .remote ∧ ∀ endpoint,
          Endpoint.parse (StreamOrder.endpointText a.remote) ≠ .ok endpoint) ∧
      ((run w a).effects = [] →
        (run w a).exit = .invalidInput ∨
        (run w a).result = .error (.error .clockOverflow) ∧ k = .remote ∧ ∃ text,
          a.remote.get? "connect-timeout" = some text ∧
          Duration.ofText (Text.trim text.toList) = .error .overflow)) := by
  have hshown := Arguments.isShown_of_read hread
  have haccepted : p.Accepted := (Plan.parse_eq_iff.1 hplan).accepted_plan
  have hexit : ∀ e : Error, e.isInvalidInput = true → (Course.refused e).exit = .invalidInput := by
    intro e he
    show ExitCode.ofError e = _
    unfold ExitCode.ofError
    rw [if_pos he]
  rw [run_eq_runPlan hid hplan]
  refine ⟨fun hshared => ⟨?_, fun hidle => ?_, fun text => ?_⟩,
    fun hlocal k hkind => ⟨?_, fun hidle => ?_⟩⟩
  · rw [runPlan_shared_idle_iff hshared, SharedJob.fails_iff hshown hknown haccepted]
  · obtain ⟨e, he⟩ := (runPlan_shared_idle_iff hshared).1 hidle
    rw [runPlan_shared_refused hshared he]
    exact hexit e (SharedJob.isInvalidInput_of_fault he)
  · have hset : run w (a.setConfig .remote "connect-timeout" text) =
        runPlan w (a.setConfig .remote "connect-timeout" text) id p := run_eq_runPlan hid hplan
    rw [hset, runPlan_setTimeout hshared]
  · rw [runPlan_local_idle_iff hlocal, LocalJob.fails_iff hshown hknown haccepted hkind]
  · obtain ⟨e, he⟩ := (runPlan_local_idle_iff hlocal).1 hidle
    rw [runPlan_local_refused hlocal he]
    rcases LocalJob.fault_cases hshown he with hinvalid | ⟨rfl, hremote, htext⟩
    · exact .inl (hexit e hinvalid)
    · exact .inr ⟨rfl, Except.ok.inj (hkind.symm.trans hremote), htext⟩

end

/-! ## a run with agents -/

/-- the options of a run with one agent that gives no time for a connection -/
def impatient : List Given :=
  [⟨"-a", .agents, "1"⟩,
   ⟨"--stream-remote-connect-timeout", .streamOption .remote "connect-timeout", "soon"⟩]

theorem isReadable_impatient : ∀ g ∈ impatient, g.IsReadable := by
  have hagents : Names "-a" .agents := .inr ⟨'a', by decide, by decide⟩
  have htimeout : Names "--stream-remote-connect-timeout"
      (.streamOption .remote "connect-timeout") :=
    .inl ⟨"stream-remote-connect-timeout", by decide, by decide⟩
  have hone : IsPlain "1" := by unfold IsPlain; decide
  have hsoon : IsPlain "soon" := by unfold IsPlain; decide
  intro g hg
  simp only [impatient, List.mem_cons, List.not_mem_nil, or_false] at hg
  rcases hg with rfl | rfl
  · exact ⟨hagents, hone⟩
  · exact ⟨htimeout, hsoon⟩

def impatientArguments : Arguments where
  scenario := some "noop"
  agents := some 1
  remote := .ofList [("connect-timeout", "soon")]

theorem read_impatient (setting : String → Option String) (h : setting workerVariable = none) :
    Arguments.read setting ["noop", "-a", "1", "--stream-remote-connect-timeout", "soon"] =
      .ok impatientArguments := by
  have hscenario : IsPlain "noop" := by unfold IsPlain; decide
  have hnodup : (impatient.map Given.key).Nodup := by unfold impatient; decide
  have hread := Arguments.read_givens setting hscenario isReadable_impatient hnodup
    (a := impatientArguments) rfl
  rw [h] at hread
  exact hread

def solitude : World := .offline (fun _ => none) .still

theorem run_checks_options_agent :
    Arguments.read solitude.outside.setting
        ["noop", "-a", "1", "--stream-remote-connect-timeout", "soon"] = .ok impatientArguments ∧
      impatientArguments.scenario = some "noop" ∧
      (Registry.builtin solitude.outside).contains "noop" = true ∧
      Plan.parse impatientArguments.users impatientArguments.cycles impatientArguments.agents =
        .ok ⟨[1], [1], some 1⟩ ∧
      ∀ text, run solitude (impatientArguments.setConfig .remote "connect-timeout" text) =
        run solitude impatientArguments := by
  have hread := read_impatient solitude.outside.setting rfl
  have hknown : (Registry.builtin solitude.outside).contains "noop" = true := by decide +kernel
  have hplan : Plan.parse impatientArguments.users impatientArguments.cycles
      impatientArguments.agents = .ok ⟨[1], [1], some 1⟩ := by decide +kernel
  exact ⟨hread, rfl, hknown, hplan, ((run_checks_options hread rfl hknown hplan).1 rfl).2.2⟩

/-- With a text that is no duration the run opens a port and asks the broker. -/
theorem run_checks_options_unchecked : ∃ a, Arguments.read solitude.outside.setting
      ["noop", "-a", "1", "--stream-remote-connect-timeout", "soon"] = .ok a ∧
    a.remote.get? "connect-timeout" = some "soon" ∧
    StreamKind.remote.Refuses "connect-timeout" "soon"
      "expected a duration such as 5s or 250ms" ∧
    (run solitude a).exit = .runtimeError ∧
    (∃ endpoint, Effect.bind endpoint ∈ (run solitude a).effects) ∧
    ∃ broker request, Effect.ask broker request ∈ (run solitude a).effects := by
  have hunreadable : (StreamKind.remote.option? "connect-timeout").map
      (fun o => o.kind.read "soon") = some (.error .malformed) := by decide +kernel
  refine ⟨impatientArguments, read_impatient _ rfl, rfl, ?_, by decide +kernel, ?_, ?_⟩
  · obtain ⟨o, ho, hread⟩ := Option.map_eq_some_iff.1 hunreadable
    have hrefuses := StreamKind.Refuses.unreadable ho hread
    obtain rfl := Option.some.inj ho
    exact hrefuses
  · exact ⟨_, List.mem_cons_of_mem _ List.mem_cons_self⟩
  · exact ⟨_, _, List.mem_cons_of_mem _ (List.mem_cons_of_mem _ List.mem_cons_self)⟩

end LoadTest.Cli
