import Mathlib.Data.List.Nodup
import LoadTest.Proofs.Cli.Words
import LoadTest.Proofs.Decimal.Numeral
import LoadTest.Proofs.Plan.Written
import LoadTest.Testbed.Broker

/-!
# The agents of a request

A broker starts one agent after the other, each with a number of its own and with the two lists of
the plan. What all of them execute together is what the coordinator waits for.

* `Testbed.agentOf`            the agent with a number
* `Testbed.start_eq`           who is started when every start succeeds
* `Testbed.workerName_injective`   agents have different names
* `Testbed.read_agentArguments`    what an agent reads on its command line
* `Testbed.dispatch_matches_total`   all of it together
-/

namespace LoadTest.Testbed

open Dispatch (Request Reply)
open Cli (Arguments Given IsPlain)

/-! ## starting -/

def agentOf (r : Request) (k : Nat) : Agent :=
  ⟨workerName k, agentArguments r (workerName k)⟩

def Starts (launch : Launcher) (program : String) (r : Request) (k : Nat) : Prop :=
  refusal? launch program (agentArguments r (workerName k)) = none

/-- when every start succeeds, agents are started with one number after the other -/
theorem start_eq {launch : Launcher} {program : String} {r : Request} {n count : Nat}
    (h : ∀ k, n ≤ k → k < n + count → Starts launch program r k) :
    start launch program r n count = ((List.range' n count).map (agentOf r), none) := by
  induction count generalizing n with
  | zero => rfl
  | succ count ih =>
    have hfirst : refusal? launch program (agentArguments r (workerName n)) = none :=
      h n (Nat.le_refl n) (by omega)
    have hrest : start launch program r (n + 1) count =
        ((List.range' (n + 1) count).map (agentOf r), none) :=
      ih fun k hk hlt => h k (by omega) (by omega)
    rw [start, hfirst, hrest, List.range'_succ]
    rfl

theorem dispatch_of_starts {b : TestBroker} {program : String} (hmode : b.mode = .spawn program)
    {launch : Launcher} {r : Request}
    (h : ∀ k, 1 ≤ k → k ≤ r.plan.agentCount → Starts launch program r k) :
    b.dispatch launch r =
      ({ b with
          requests := b.requests ++ [r]
          agents := b.agents ++ (List.range' 1 r.plan.agentCount).map (agentOf r) },
        .dispatched ((List.range' 1 r.plan.agentCount).map workerName)) := by
  have hstart : start launch program r 1 r.plan.agentCount =
      ((List.range' 1 r.plan.agentCount).map (agentOf r), none) :=
    start_eq fun k hk hlt => h k hk (by omega)
  simp only [TestBroker.dispatch, hmode, hstart, List.map_map]
  rfl

/-! ## names -/

theorem workerName_injective {m n : Nat} (h : workerName m = workerName n) : m = n := by
  have hlist := congrArg String.toList h
  simp only [workerName, String.toList_append] at hlist
  have hdigits := List.append_cancel_left hlist
  exact Text.decimal_injective (String.toList_injective hdigits)

theorem nodup_workers (first count : Nat) :
    ((List.range' first count).map workerName).Nodup :=
  List.Nodup.map (fun _ _ => workerName_injective) List.nodup_range'

/-! ## what an agent reads -/

def agentGivens (r : Request) (worker : String) : List Given :=
  [⟨"-u", .users, r.plan.usersSpec⟩, ⟨"-c", .cycles, r.plan.cyclesSpec⟩,
    ⟨"--stream", .stream, "remote"⟩,
    ⟨"--stream-remote-endpoint", .streamOption .remote "endpoint", r.endpoint⟩,
    ⟨"--stream-remote-connect-timeout", .streamOption .remote "connect-timeout", "10s"⟩,
    ⟨"--worker-id", .worker, worker⟩]

theorem agentArguments_eq (r : Request) (worker : String) :
    agentArguments r worker = r.scenario :: (agentGivens r worker).flatMap Given.words := rfl

theorem isPlain_writeTiers (vs : List UInt64) : IsPlain (Plan.writeTiers vs) := by
  unfold IsPlain
  rw [Plan.toList_writeTiers]
  cases vs with
  | nil => decide
  | cons v vs =>
    obtain ⟨c, s, hdigits, hc⟩ := Decimal.Numeral.exists_digits_cons v.toNat
    rw [List.map_cons, hdigits, List.intercalate_cons_cons_left]
    intro hhead
    obtain rfl : c = '-' := Option.some.inj hhead
    exact absurd hc (by decide)

theorem isPlain_workerName (n : Nat) : IsPlain (workerName n) := by
  have hhead : (workerName n).toList.head? = some 'a' := by
    rw [workerName, String.toList_append, List.head?_append]
    rfl
  rw [IsPlain, hhead]
  decide

section
variable {r : Request} {worker : String}

theorem isReadable_agentGivens (hendpoint : IsPlain r.endpoint) (hworker : IsPlain worker) :
    ∀ g ∈ agentGivens r worker, g.IsReadable := by
  have husers : Cli.Names "-u" .users := .inr ⟨'u', by decide, by decide⟩
  have hcycles : Cli.Names "-c" .cycles := .inr ⟨'c', by decide, by decide⟩
  have hstream : Cli.Names "--stream" .stream := .inl ⟨"stream", by decide, by decide⟩
  have htarget : Cli.Names "--stream-remote-endpoint" (.streamOption .remote "endpoint") :=
    .inl ⟨"stream-remote-endpoint", by decide, by decide⟩
  have hpatience :
      Cli.Names "--stream-remote-connect-timeout" (.streamOption .remote "connect-timeout") :=
    .inl ⟨"stream-remote-connect-timeout", by decide, by decide⟩
  have hname : Cli.Names "--worker-id" .worker := .inl ⟨"worker-id", by decide, by decide⟩
  have hremote : IsPlain "remote" := by unfold IsPlain; decide
  have hten : IsPlain "10s" := by unfold IsPlain; decide
  intro g hg
  simp only [agentGivens, List.mem_cons, List.not_mem_nil, or_false] at hg
  rcases hg with rfl | rfl | rfl | rfl | rfl | rfl
  · exact ⟨husers, isPlain_writeTiers _⟩
  · exact ⟨hcycles, isPlain_writeTiers _⟩
  · exact ⟨hstream, hremote⟩
  · exact ⟨htarget, hendpoint⟩
  · exact ⟨hpatience, hten⟩
  · exact ⟨hname, hworker⟩

/-- what the values on the command line of an agent amount to -/
def agentSays (r : Request) (worker : String) : Arguments where
  scenario := some r.scenario
  users := r.plan.usersSpec
  cycles := r.plan.cyclesSpec
  stream := "remote"
  worker := some worker
  remote := .ofList [("endpoint", r.endpoint), ("connect-timeout", "10s")]

theorem endpoint_agentSays (r : Request) (worker : String) :
    (agentSays r worker).remote.get? "endpoint" = some r.endpoint := by
  simp only [agentSays, StreamConfig.ofList, StreamConfig.set, StreamConfig.get?,
    List.foldl_cons, List.foldl_nil]
  rw [Text.getNamed?_putNamed, if_neg (by decide), Text.getNamed?_putNamed, if_pos rfl]

/-- An agent reads the two lists of the plan, where to send its results, and its name. -/
theorem read_agentArguments (setting : String → Option String) (hscenario : IsPlain r.scenario)
    (hendpoint : IsPlain r.endpoint) (hworker : IsPlain worker) :
    Arguments.read setting (agentArguments r worker) = .ok (agentSays r worker) := by
  have hnodup : ((agentGivens r worker).map Given.key).Nodup := by
    show [Cli.Key.users, .cycles, .stream, .streamOption .remote "endpoint",
      .streamOption .remote "connect-timeout", .worker].Nodup
    decide
  rw [agentArguments_eq]
  exact Arguments.read_givens setting hscenario (isReadable_agentGivens hendpoint hworker) hnodup
    (a := agentSays r worker) rfl

end

/-! ## all together -/

/-- **Agents execute what the coordinator waits for.** The two lists of an accepted plan are read
back as the plan of one agent, and the total is that of this plan for each agent. A broker whose
agents all start has one for each number, in order, under different names; each is given the two
lists, where to send its results and its name, and reads just that on its command line. -/
theorem dispatch_matches_total {users cycles : List UInt64} {agents : Option UInt64} {p : Plan}
    (hp : Plan.make users cycles agents = .ok p) :
    Plan.parse p.usersSpec p.cyclesSpec none = .ok p.forSingleAgent ∧
    (∃ n, p.forSingleAgent.expectedTotal = .ok n ∧ p.invocationsPerAgent = .ok n ∧
      p.expectedTotal = .ok ((p.agents.getD 1).toNat * n)) ∧
    ∀ (b : TestBroker) (program : String) (launch : Launcher) (r : Request),
      b.mode = .spawn program → r.plan = p →
      (∀ k, 1 ≤ k → k ≤ (p.agents.getD 1).toNat → Starts launch program r k) →
      let workers := (List.range' 1 (p.agents.getD 1).toNat).map fun k =>
        "agent-" ++ Text.decimal k
      workers.Nodup ∧
      ∃ started : List Agent,
        b.dispatch launch r = ({ b with
          requests := b.requests ++ [r], agents := b.agents ++ started }, .dispatched workers) ∧
        started.map Agent.worker = workers ∧
        ∀ a ∈ started,
          a.arguments = [r.scenario, "-u", p.usersSpec, "-c", p.cyclesSpec, "--stream", "remote",
            "--stream-remote-endpoint", r.endpoint, "--stream-remote-connect-timeout", "10s",
            "--worker-id", a.worker] ∧
          ∀ setting, IsPlain r.scenario → IsPlain r.endpoint →
            ∃ said, Arguments.read setting a.arguments = .ok said ∧
              said.scenario = some r.scenario ∧ said.worker = some a.worker ∧
              said.stream = "remote" ∧ said.remote.get? "endpoint" = some r.endpoint ∧
              Plan.parse said.users said.cycles said.agents = .ok p.forSingleAgent := by
  obtain ⟨-, haccepted⟩ := Plan.make_eq_ok_iff.1 hp
  have hparse := haccepted.parse_specs
  have hsingle : p.forSingleAgent.expectedTotal = .ok p.perAgent := by
    have htotal := haccepted.forSingleAgent.expectedTotal
    rwa [show p.forSingleAgent.perAgent * p.forSingleAgent.agentCount = p.perAgent from
      Nat.mul_one _] at htotal
  have htotal : p.expectedTotal = .ok ((p.agents.getD 1).toNat * p.perAgent) := by
    rw [haccepted.expectedTotal, Nat.mul_comm]
    rfl
  refine ⟨hparse, ⟨p.perAgent, hsingle, haccepted.invocationsPerAgent, htotal⟩, ?_⟩
  rintro b program launch r hmode rfl hstarts workers
  refine ⟨nodup_workers 1 _, (List.range' 1 r.plan.agentCount).map (agentOf r),
    dispatch_of_starts hmode hstarts, List.map_map, fun a ha => ?_⟩
  obtain ⟨k, -, rfl⟩ := List.mem_map.1 ha
  refine ⟨rfl, fun setting hscenario hendpoint => ?_⟩
  exact ⟨agentSays r (workerName k),
    read_agentArguments setting hscenario hendpoint (isPlain_workerName k), rfl, rfl, rfl,
    endpoint_agentSays r _, hparse⟩

/-- two agents, each for three users of three invocations -/
theorem dispatch_matches_total_two :
    let p : Plan := ⟨[1, 2], [3], some 2⟩
    let r : Request := ⟨"noop", p, "tcp://127.0.0.1:7781"⟩
    let b : TestBroker := { mode := .spawn "agent" }
    let launch : Launcher := fun _ _ => none
    Plan.make [1, 2] [3] (some 2) = .ok p ∧
      (∀ k, 1 ≤ k → k ≤ (p.agents.getD 1).toNat → Starts launch "agent" r k) ∧
      IsPlain r.scenario ∧ IsPlain r.endpoint ∧
      (b.dispatch launch r).2 = .dispatched ["agent-1", "agent-2"] ∧
      (∀ a ∈ (b.dispatch launch r).1.agents, ∃ said,
        Arguments.read (fun _ => none) a.arguments = .ok said ∧
          Plan.parse said.users said.cycles said.agents = .ok ⟨[1, 2], [3], none⟩) ∧
      ∃ n, p.forSingleAgent.expectedTotal = .ok n ∧ p.expectedTotal = .ok (2 * n) := by
  intro p r b launch
  have hp : Plan.make [1, 2] [3] (some 2) = .ok p := by decide
  have hstarts : ∀ k, 1 ≤ k → k ≤ (p.agents.getD 1).toNat → Starts launch "agent" r k := by
    intro k hlow hhigh
    have hk : k = 1 ∨ k = 2 := by
      change k ≤ 2 at hhigh
      omega
    rcases hk with rfl | rfl <;> unfold Starts <;> decide
  have hscenario : IsPlain r.scenario := (by decide : "noop".toList.head? ≠ some '-')
  have hendpoint : IsPlain r.endpoint :=
    (by decide : "tcp://127.0.0.1:7781".toList.head? ≠ some '-')
  obtain ⟨-, ⟨n, hsingle, -, htotal⟩, hdispatch⟩ := dispatch_matches_total hp
  obtain ⟨-, started, hresult, -, hsaid⟩ := hdispatch b "agent" launch r rfl rfl hstarts
  refine ⟨hp, hstarts, hscenario, hendpoint, ?_, ?_, n, hsingle, htotal⟩
  · rw [hresult]
    rfl
  · rw [hresult]
    intro a ha
    obtain ⟨said, hread, -, -, -, -, hplan⟩ :=
      (hsaid a ha).2 (fun _ => none) hscenario hendpoint
    exact ⟨said, hread, hplan⟩

end LoadTest.Testbed
