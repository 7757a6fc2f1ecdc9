import LoadTest.Cli.Run
import LoadTest.Proofs.Cli.Configurations
import LoadTest.Proofs.Plan.Written
import LoadTest.Proofs.Stream.Building

/-!
# What the checks of a run come to

The checks before a run either find a fault or leave a job. For a scenario that is registered and a
plan that is accepted, only streams, texts and endpoints can be at fault.

* `LocalJob.ofArguments_eq_ok_iff`, `SharedJob.ofArguments_eq_ok_iff`   what is left
* `LocalJob.fails_iff`, `SharedJob.fails_iff`   when nothing is left
* `LocalJob.fault_cases`, `SharedJob.isInvalidInput_of_fault`   what is reported then
* `LocalJob.Does`, `SharedJob.Does`   all that a job can do
* `runPlan_local_idle_iff`, `runPlan_shared_idle_iff`   when a run does nothing
-/

namespace LoadTest

theorem Registry.exists_resolve {r : Registry} {id : String} (h : r.contains id = true) :
    ∃ scenario, r.resolve id = .ok scenario := by
  obtain ⟨scenario, hscenario⟩ := Option.isSome_iff_exists.1 h
  exact ⟨scenario, by unfold resolve; rw [hscenario]⟩

theorem Registry.error_of_resolve {r : Registry} {id : String} {e : Error}
    (h : r.resolve id = .error e) : e = .unknownScenario id := by
  unfold resolve at h
  cases hget : Text.getNamed? id r.entries with
  | some scenario =>
    rw [hget] at h
    cases h
  | none =>
    rw [hget] at h
    exact (Except.error.inj h).symm

theorem StreamKind.error_of_ofName {name : String} {e : Error} (h : ofName name = .error e) :
    e = .unknownStream name sortedNames := by
  unfold ofName at h
  cases hfind : all.find? fun k => k.name = name with
  | some k =>
    simp only [hfind] at h
    cases h
  | none =>
    simp only [hfind] at h
    exact (Except.error.inj h).symm

namespace Cli
open StreamConfig (ofList)

/-! ## configurations of a run -/

section
variable {a : Arguments}

/-- The only text that is accepted or not on the command line of an echo is the progress. -/
theorem sound_stdout_iff (h : a.IsShown) :
    a.stdout.Sound .stdout ↔ ∃ b, a.stdout.bool .stdout "progress" = .ok b := by
  constructor
  · intro hsound
    obtain ⟨b, hb, -⟩ := StreamConfig.bool_of_sound hsound "progress"
    exact ⟨b, hb⟩
  · rintro ⟨b, hb⟩ name text hget
    obtain rfl : name = "progress" := showsName_stdout_iff.1 ((h .stdout).shows_of_get? hget)
    rw [StreamKind.accepts_iff]
    unfold StreamConfig.bool at hb
    rw [StreamConfig.value?_of_get? rfl hget] at hb
    cases hcheck : StreamConfig.check .stdout "progress" text with
    | ok v => exact ⟨v, rfl⟩
    | error e =>
      rw [hcheck] at hb
      cases hb

theorem isInvalidInput_of_progress {e : Error} (h : a.stdout.bool .stdout "progress" = .error e) :
    e.isInvalidInput = true := by
  unfold StreamConfig.bool at h
  cases hvalue : a.stdout.value? .stdout "progress" with
  | ok v =>
    rw [hvalue] at h
    cases h
  | error e' =>
    rw [hvalue] at h
    obtain rfl : e' = e := Except.error.inj h
    obtain ⟨o, text, hname, hread⟩ := StreamConfig.error_of_value? hvalue
    rcases StreamOption.error_of_read hread with hinvalid | ⟨hduration, -⟩
    · exact hinvalid
    · obtain rfl := Option.some.inj hname
      cases hduration

namespace LocalJob

theorem exists_config (h : a.IsShown) (k : StreamKind) (expected : Nat) :
    ∃ settings, config a k expected = ofList settings := by
  cases k with
  | stdout =>
    obtain ⟨settings, hsettings, -⟩ := h .stdout
    refine ⟨settings ++ [("total", Text.decimal expected)], ?_⟩
    rw [StreamConfig.ofList_concat, ← hsettings]
    rfl
  | remote =>
    obtain ⟨settings, hsettings, -⟩ := h .remote
    exact ⟨settings, hsettings⟩

theorem accepts_total {expected : Nat} (h : expected < UInt64.size) :
    StreamKind.stdout.Accepts "total" (Text.decimal expected) := by
  have hvalue : (UInt64.ofNat expected).toNat = expected := UInt64.toNat_ofNat_of_lt h
  have hdenotes : Text.Denotes (Text.trim (Text.decimal expected).toList)
      (UInt64.ofNat expected).toNat := by
    rw [Text.toList_decimal, (Text.denotes_digits expected).isTrimmed.trim_eq, hvalue]
    exact Text.denotes_digits expected
  exact ⟨_, _, rfl, .int hdenotes⟩

/-- The total that the echo is told of makes no difference. -/
theorem sound_config_iff (h : a.IsShown) (k : StreamKind) {expected : Nat}
    (hexpected : expected < UInt64.size) :
    (config a k expected).Sound k ↔ (a.config k).Sound k := by
  cases k with
  | remote => exact Iff.rfl
  | stdout =>
    have hget : ∀ name, (config a .stdout expected).get? name =
        if "total" = name then some (Text.decimal expected) else a.stdout.get? name :=
      fun name => Text.getNamed?_putNamed name "total" _ _
    constructor
    · intro hsound name text hset
      have hname : name = "progress" := showsName_stdout_iff.1 ((h .stdout).shows_of_get? hset)
      refine hsound name text ?_
      rw [hget, if_neg (by rw [hname]; decide)]
      exact hset
    · intro hsound name text hset
      rw [hget] at hset
      by_cases hname : "total" = name
      · rw [if_pos hname] at hset
        obtain rfl := Option.some.inj hset
        exact hname ▸ accepts_total hexpected
      · rw [if_neg hname] at hset
        exact hsound name text hset

end LocalJob

end

/-! ## local runs -/

namespace LocalJob
variable {a : Arguments} {r : Registry} {id : String} {p : Plan}

theorem ofArguments_eq_ok_iff {job : LocalJob} : ofArguments a r id p = .ok job ↔
    ∃ scenario kind expected stream, r.resolve id = .ok scenario ∧
      StreamKind.ofName a.stream = .ok kind ∧ p.expectedTotal = .ok expected ∧
      StreamOrder.ofConfig kind (config a kind expected) = .ok stream ∧
      job = ⟨scenario, stream, ⟨id, p, .local, expected⟩⟩ := by
  unfold ofArguments
  cases hscenario : r.resolve id with
  | error e => simp
  | ok scenario =>
    cases hkind : StreamKind.ofName a.stream with
    | error e => simp
    | ok kind =>
      cases hexpected : p.expectedTotal with
      | error e => simp
      | ok expected =>
        cases hstream : StreamOrder.ofConfig kind (config a kind expected) with
        | error e => simp [hstream]
        | ok stream => simp [hstream, eq_comm]

theorem fails_iff (hshown : a.IsShown) (hknown : r.contains id = true) (hplan : p.Accepted)
    {k : StreamKind} (hkind : StreamKind.ofName a.stream = .ok k) :
    (∃ e, ofArguments a r id p = .error e) ↔
      ¬ (a.config k).Sound k ∨ k = .remote ∧ ∀ endpoint,
        Endpoint.parse (StreamOrder.endpointText a.remote) ≠ .ok endpoint := by
  obtain ⟨scenario, hscenario⟩ := Registry.exists_resolve hknown
  have hexpected := hplan.expectedTotal
  obtain ⟨settings, hsettings⟩ := exists_config hshown k (p.perAgent * p.agentCount)
  have horder : (∃ e, ofArguments a r id p = .error e) ↔
      ∃ e, StreamOrder.ofConfig k (config a k (p.perAgent * p.agentCount)) = .error e := by
    unfold ofArguments
    simp only [hscenario, hkind, hexpected]
    cases StreamOrder.ofConfig k (config a k (p.perAgent * p.agentCount)) <;> simp
  rw [horder, hsettings, StreamOrder.fails_iff, ← hsettings,
    sound_config_iff hshown k hplan.fits]
  refine or_congr_right (and_congr_right ?_)
  rintro rfl
  exact Iff.rfl

theorem ofArguments_error_cases {e : Error} (he : ofArguments a r id p = .error e) :
    r.resolve id = .error e ∨ StreamKind.ofName a.stream = .error e ∨ p.expectedTotal = .error e ∨
      ∃ kind expected, StreamKind.ofName a.stream = .ok kind ∧
        StreamOrder.ofConfig kind (config a kind expected) = .error e := by
  unfold ofArguments at he
  split at he
  · next hscenario => exact .inl (Except.error.inj he ▸ hscenario)
  · split at he
    · next hkind => exact .inr (.inl (Except.error.inj he ▸ hkind))
    · next kind hkind =>
      split at he
      · next hexpected => exact .inr (.inr (.inl (Except.error.inj he ▸ hexpected)))
      · next expected hexpected =>
        split at he
        · next hstream =>
          exact .inr (.inr (.inr ⟨kind, expected, hkind, Except.error.inj he ▸ hstream⟩))
        · cases he

/-- The caller is told what is at fault, except for a duration that is too long. -/
theorem fault_cases (hshown : a.IsShown) {e : Error} (he : ofArguments a r id p = .error e) :
    e.isInvalidInput = true ∨ e = .clockOverflow ∧
      StreamKind.ofName a.stream = .ok .remote ∧ ∃ text,
        a.remote.get? "connect-timeout" = some text ∧
        Duration.ofText (Text.trim text.toList) = .error .overflow := by
  obtain hscenario | hkind | hexpected | ⟨kind, expected, hkind, hstream⟩ :=
    ofArguments_error_cases he
  · rw [Registry.error_of_resolve hscenario]
    exact .inl rfl
  · rw [StreamKind.error_of_ofName hkind]
    exact .inl rfl
  · rw [Plan.expectedTotal_error hexpected]
    exact .inl rfl
  · obtain ⟨settings, hsettings⟩ := exists_config hshown kind expected
    rw [hsettings] at hstream
    obtain hinvalid | ⟨rfl, name, text, hset, hexceeds⟩ := StreamOrder.invalid_or_exceeds hstream
    · exact .inl hinvalid
    · obtain ⟨rfl, rfl, htext⟩ := StreamKind.exceeds_iff_connectTimeout.1 hexceeds
      rw [← hsettings] at hset
      exact .inr ⟨rfl, hkind, text, hset, htext⟩

def execution (job : LocalJob) (a : Arguments) (w : World) (stream : Stream) : Run.Finished :=
  Run.execute ⟨stream, a.worker⟩ job.header.plan job.scenario w.weaver (job.closing w) w.startedAt

/-- All that a job can do: its stream does not open, its run fails, or the run is reported. -/
inductive Does (job : LocalJob) (a : Arguments) (w : World) : Course → Prop
  | unopened {e : Error} (hfill : job.stream.fill w.link = .error e) :
      Does job a w { effects := job.connections, result := .error (.error e) }
  | failed {stream : Stream} {e : Error} (hfill : job.stream.fill w.link = .ok stream)
      (hresult : (job.execution a w stream).result = .error e) :
      Does job a w { effects := job.connections ++
        [.print (a.output.before job.header), .execute (job.execution a w stream)]
                     result := .error (.error e) }
  | reported {stream : Stream} {summary : Summary} (hfill : job.stream.fill w.link = .ok stream)
      (hresult : (job.execution a w stream).result = .ok summary) :
      Does job a w (.reported (job.connections ++
        [.print (a.output.before job.header), .execute (job.execution a w stream)])
        a.output job.header { summary })

theorem does_course (job : LocalJob) (a : Arguments) (w : World) :
    Does job a w (job.course a w) := by
  unfold course
  cases hfill : job.stream.fill w.link with
  | error e => exact .unopened hfill
  | ok stream =>
    cases hresult : (job.execution a w stream).result with
    | error e =>
      have hfailed : Does job a w _ := .failed hfill hresult
      unfold execution at hfailed hresult
      simp only [hresult]
      exact hfailed
    | ok summary =>
      have hreported : Does job a w _ := .reported hfill hresult
      unfold execution at hreported hresult
      simp only [hresult]
      exact hreported

/-- what is so of all that a job can do is so of its course -/
@[elab_as_elim]
theorem course_of_does {motive : Course → Prop} (job : LocalJob) (a : Arguments) (w : World)
    (h : ∀ c, Does job a w c → motive c) : motive (job.course a w) := h _ (does_course job a w)

theorem effects_course_ne_nil (job : LocalJob) (a : Arguments) (w : World) :
    (job.course a w).effects ≠ [] := by
  refine job.course_of_does a w fun c hdoes => ?_
  cases hdoes with
  | unopened hfill =>
    cases hstream : job.stream with
    | stdout total =>
      rw [hstream] at hfill
      cases hfill
    | remote endpoint timeout => simp [connections, hstream, StreamOrder.destination?]
  | failed => simp
  | reported => simp [Course.reported]

end LocalJob

/-! ## runs with agents -/

namespace SharedJob
variable {a : Arguments} {r : Registry} {id : String} {p : Plan}

theorem gatherAt_eq (a : Arguments) :
    gatherAt a = Endpoint.parse (StreamOrder.endpointText a.remote) := by
  unfold gatherAt
  rw [StreamOrder.endpoint_eq]
  cases Endpoint.parse (StreamOrder.endpointText a.remote) <;> rfl

theorem ofArguments_eq_ok_iff {job : SharedJob} : ofArguments a r id p = .ok job ↔
    ∃ broker endpoint progress expected, r.contains id = true ∧
      Endpoint.parse a.broker = .ok broker ∧
      Endpoint.parse (StreamOrder.endpointText a.remote) = .ok endpoint ∧
      a.stdout.bool .stdout "progress" = .ok progress ∧ p.expectedTotal = .ok expected ∧
      job = ⟨broker, ⟨id, p, endpoint⟩, ⟨id, p, .distributed, expected⟩⟩ := by
  unfold ofArguments
  rw [gatherAt_eq]
  by_cases hknown : r.contains id = true
  · rw [if_pos hknown]
    cases hbroker : Endpoint.parse a.broker with
    | error e => simp
    | ok broker =>
      cases hendpoint : Endpoint.parse (StreamOrder.endpointText a.remote) with
      | error e => simp
      | ok endpoint =>
        cases hprogress : a.stdout.bool .stdout "progress" with
        | error e => simp
        | ok progress =>
          cases hexpected : p.expectedTotal with
          | error e => simp
          | ok expected => simp [hknown, eq_comm]
  · rw [if_neg hknown]
    simp [hknown]

/-- Of the options, only the endpoint and the progress can be at fault. -/
theorem fails_iff (hshown : a.IsShown) (hknown : r.contains id = true) (hplan : p.Accepted) :
    (∃ e, ofArguments a r id p = .error e) ↔
      (∀ endpoint, Endpoint.parse a.broker ≠ .ok endpoint) ∨
      (∀ endpoint, Endpoint.parse (StreamOrder.endpointText a.remote) ≠ .ok endpoint) ∨
      ¬ a.stdout.Sound .stdout := by
  have hexpected := hplan.expectedTotal
  rw [sound_stdout_iff hshown]
  unfold ofArguments
  rw [gatherAt_eq, if_pos hknown]
  cases hbroker : Endpoint.parse a.broker with
  | error e => simp
  | ok broker =>
    cases hendpoint : Endpoint.parse (StreamOrder.endpointText a.remote) with
    | error e => simp
    | ok endpoint =>
      cases hprogress : a.stdout.bool .stdout "progress" <;> simp [hexpected]

theorem ofArguments_error_cases {e : Error} (he : ofArguments a r id p = .error e) :
    e = .unknownScenario id ∨ Endpoint.parse a.broker = .error e ∨
      Endpoint.parse (StreamOrder.endpointText a.remote) = .error e ∨
      a.stdout.bool .stdout "progress" = .error e ∨ p.expectedTotal = .error e := by
  unfold ofArguments at he
  rw [gatherAt_eq] at he
  split at he
  · split at he
    · next hbroker => exact .inr (.inl (Except.error.inj he ▸ hbroker))
    · split at he
      · next hendpoint => exact .inr (.inr (.inl (Except.error.inj he ▸ hendpoint)))
      · split at he
        · next hprogress => exact .inr (.inr (.inr (.inl (Except.error.inj he ▸ hprogress))))
        · split at he
          · next hexpected => exact .inr (.inr (.inr (.inr (Except.error.inj he ▸ hexpected))))
          · cases he
  · exact .inl (Except.error.inj he).symm

theorem isInvalidInput_of_fault {e : Error} (he : ofArguments a r id p = .error e) :
    e.isInvalidInput = true := by
  obtain rfl | hbroker | hendpoint | hprogress | hexpected := ofArguments_error_cases he
  · rfl
  · rw [Endpoint.error_of_parse hbroker]
    rfl
  · rw [Endpoint.error_of_parse hendpoint]
    rfl
  · exact isInvalidInput_of_progress hprogress
  · rw [Plan.expectedTotal_error hexpected]
    rfl

def opening (job : SharedJob) (a : Arguments) (w : World) : List Effect :=
  [.print (a.output.before job.header), .bind job.job.endpoint] ++
    ((job.request? w).map (Effect.ask job.broker)).toList

/-- All that a job can do: its run fails, or it is reported. -/
inductive Does (job : SharedJob) (a : Arguments) (w : World) : Course → Prop
  | failed {e : Error} (hrun : Coordinator.run job.job (job.surroundings a w) = .error e) :
      Does job a w { effects := job.opening a w, result := .error (.error e) }
  | reported {r : Coordinator.Report}
      (hrun : Coordinator.run job.job (job.surroundings a w) = .ok r) :
      Does job a w (.reported (job.opening a w) a.output job.header r.toReport)

theorem does_course (job : SharedJob) (a : Arguments) (w : World) :
    Does job a w (job.course a w) := by
  unfold course
  cases hrun : Coordinator.run job.job (job.surroundings a w) with
  | error e => exact .failed hrun
  | ok r => exact .reported hrun

@[elab_as_elim]
theorem course_of_does {motive : Course → Prop} (job : SharedJob) (a : Arguments) (w : World)
    (h : ∀ c, Does job a w c → motive c) : motive (job.course a w) := h _ (does_course job a w)

theorem effects_course_ne_nil (job : SharedJob) (a : Arguments) (w : World) :
    (job.course a w).effects ≠ [] := by
  refine job.course_of_does a w fun c hdoes => ?_
  cases hdoes with
  | failed => simp [opening]
  | reported => simp [opening, Course.reported]

end SharedJob

/-! ## runs -/

section
variable {w : World} {a : Arguments} {id : String} {p : Plan}

theorem run_eq_runPlan (hid : a.scenario = some id)
    (hplan : Plan.parse a.users a.cycles a.agents = .ok p) : run w a = runPlan w a id p := by
  unfold run
  simp only [hid, hplan]

section
variable (hlocal : p.agents.isSome = false)
include hlocal

theorem runPlan_local_refused {e : Error}
    (h : LocalJob.ofArguments a (.builtin w.outside) id p = .error e) :
    runPlan w a id p = .refused e := by
  unfold runPlan
  simp [hlocal, h]

theorem runPlan_local_job {job : LocalJob}
    (h : LocalJob.ofArguments a (.builtin w.outside) id p = .ok job) :
    runPlan w a id p = job.course a w := by
  unfold runPlan
  simp [hlocal, h]

theorem runPlan_local_idle_iff : (runPlan w a id p).effects = [] ↔
    ∃ e, LocalJob.ofArguments a (.builtin w.outside) id p = .error e := by
  cases h : LocalJob.ofArguments a (.builtin w.outside) id p with
  | error e => simp [runPlan_local_refused hlocal h, Course.refused]
  | ok job => simp [runPlan_local_job hlocal h, job.effects_course_ne_nil a w]

end

section
variable (hshared : p.agents.isSome = true)
include hshared

theorem runPlan_shared_refused {e : Error}
    (h : SharedJob.ofArguments a (.builtin w.outside) id p = .error e) :
    runPlan w a id p = .refused e := by
  unfold runPlan
  simp [hshared, h]

theorem runPlan_shared_job {job : SharedJob}
    (h : SharedJob.ofArguments a (.builtin w.outside) id p = .ok job) :
    runPlan w a id p = job.course a w := by
  unfold runPlan
  simp [hshared, h]

theorem runPlan_shared_idle_iff : (runPlan w a id p).effects = [] ↔
    ∃ e, SharedJob.ofArguments a (.builtin w.outside) id p = .error e := by
  cases h : SharedJob.ofArguments a (.builtin w.outside) id p with
  | error e => simp [runPlan_shared_refused hshared h, Course.refused]
  | ok job => simp [runPlan_shared_job hshared h, job.effects_course_ne_nil a w]

end

end

end Cli

end LoadTest
