import LoadTest.Proofs.Run.TestCase
import LoadTest.Proofs.Sink.Partition
import LoadTest.Scenario.Builtin

/-!
# Tests with one outcome

Where every invocation of a test comes to an outcome of one kind, a run counts as many of them as
its plan has invocations in front of a tier without room, and none of the other kinds. Four of the
scenarios that are always there are such tests.

* `Outcome.kind`            the kind of the event that reports an outcome
* `Run.outcomes_uniform`    the three totals of a run
* `Builtin.uniform`         the scenarios and what they come to
* `Builtin.resolve_uniform` they are found under their names
* `Builtin.guarded_of_resolve`   whatever is found, no panic leaves it
-/

namespace LoadTest

def Outcome.kind : Outcome → EventKind
  | success => .addSuccess
  | failure _ => .addFailure
  | error _ => .addError

theorem Outcome.kind_event (o : Outcome) (test : String) (status : Status)
    (worker : Option String) : (o.event test status worker).kind = o.kind := by
  cases o <;> rfl

namespace Run

/-- every invocation comes to an outcome of the kind and reports nothing else but measurements -/
structure Uniform (body : Slot → Option String → Body) (k : EventKind) : Prop where
  onlyMeasures : ∀ slot worker, (body slot worker).OnlyMeasures
  outcome_kind : ∀ slot worker, (body slot worker).ending.outcome.kind = k

section
variable {body : Slot → Option String → Body} {k : EventKind} (hbody : Uniform body k)
  (c : RunContext) (p : Plan) (test : String) (weaver : Weaver Act) (closing : Except Error Unit)
  (start : Instant)
include hbody

theorem countP_uniform {j : EventKind} (hj : j ∈ [EventKind.addSuccess, .addFailure, .addError]) :
    (execute c p (.testCase test body) weaver closing start).history.countP
      (fun te => te.2.kind = j) = if k = j then p.roomy.perAgent else 0 := by
  have hother : ∀ l : EventKind, l ∉ [EventKind.addSuccess, .addFailure, .addError] → l ≠ j :=
    fun l hl heq => hl (heq ▸ hj)
  have hmeasure : ∀ e : Event, e.isMeasurement = true → decide (e.kind = j) = false := by
    intro e he
    refine decide_eq_false (hother e.kind ?_)
    cases e with
    | addHit | socketOpen | socketClose | socketMessage => simp [Event.kind]
    | _ => cases he
  have hslot : ∀ slot, (bracketLog test body c.worker slot).countP (fun e => e.kind = j) =
      if (fun _ => decide (k = j)) slot then 1 else 0 := by
    intro slot
    have houtcome : (outcomeEvent test slot.status c.worker (body slot c.worker).ending).kind = k := by
      rw [← event_outcome, Outcome.kind_event, hbody.outcome_kind]
    have hfirst : EventKind.startTest ≠ j := hother _ (by decide)
    have hlast : EventKind.stopTest ≠ j := hother _ (by decide)
    rw [countP_bracketLog (hbody.onlyMeasures slot c.worker) hmeasure]
    refine (List.countP_map (p := fun l => decide (l = j)) (f := Event.kind)).symm.trans ?_
    rw [List.map_cons, List.map_cons, houtcome]
    simp [List.countP_cons, Event.kind, hfirst, hlast]
  have hlog := countP_log_of (perm_log c p test body weaver closing start)
    (decide_eq_false (hother .startTestRun (by decide)))
    (decide_eq_false (hother .stopTestRun (by decide))) hslot
  refine (List.countP_map.symm.trans hlog).trans ?_
  by_cases hk : k = j
  · simp [hk, p.roomy.length_planned]
  · simp [hk]

/-- **The outcomes of a run are all of the one kind.** -/
theorem outcomes_uniform :
    let sink := (execute c p (.testCase test body) weaver closing start).hub.sink
    sink.successTotal none none = (if k = .addSuccess then p.roomy.perAgent else 0) ∧
    sink.failuresTotal none none = (if k = .addFailure then p.roomy.perAgent else 0) ∧
    sink.errorsTotal none none = if k = .addError then p.roomy.perAgent else 0 := by
  have hcount := fun j => countP_uniform hbody c p test weaver closing start (j := j)
  rw [sink_execute]
  exact ⟨(Sink.counts_successTotal.total_all _).trans (hcount .addSuccess (by decide)),
    (Sink.counts_failuresTotal.total_all _).trans (hcount .addFailure (by decide)),
    (Sink.counts_errorsTotal.total_all _).trans (hcount .addError (by decide))⟩

end

end Run

/-! ## scenarios that are always there -/

namespace Builtin

/-- the scenarios that come to one outcome -/
def uniform : List (String × EventKind) :=
  [("noop", .addSuccess), ("sleep", .addSuccess), ("fail", .addFailure), ("error", .addError)]

theorem guarded_of_register {scenarios : List Scenario} (hs : ∀ s ∈ scenarios, s.Guarded)
    {r : Registry} (hr : ∀ id s, Text.getNamed? id r.entries = some s → s.Guarded)
    {id : String} {s : Scenario} (h : Text.getNamed? id
      (scenarios.foldl (fun r s => r.register s.name s) r).entries = some s) : s.Guarded := by
  induction scenarios generalizing r with
  | nil => exact hr id s h
  | cons first scenarios ih =>
    refine ih (fun s hs' => hs s (List.mem_cons_of_mem _ hs')) (fun id s hget => ?_) h
    change Text.getNamed? id (Text.putNamed first.name first r.entries) = some s at hget
    rw [Text.getNamed?_putNamed] at hget
    split at hget
    · obtain rfl := Option.some.inj hget
      exact hs first List.mem_cons_self
    · exact hr id s hget

/-- The built-in scenarios are all tests, so no panic leaves their invocations. -/
theorem guarded_of_resolve {o : Outside} {id : String} {s : Scenario}
    (h : (Registry.builtin o).resolve id = .ok s) : s.Guarded := by
  have hall : ∀ s ∈ [noop, sleep o, fail, error, httpGet o], s.Guarded := by
    intro s hs
    simp only [List.mem_cons, List.not_mem_nil, or_false] at hs
    rcases hs with rfl | rfl | rfl | rfl | rfl <;> exact Scenario.testCase_guarded _ _
  unfold Registry.resolve at h
  split at h
  · next hget =>
    obtain rfl := Except.ok.inj h
    refine guarded_of_register hall (fun id s hnone => ?_) hget
    cases hnone
  · cases h

theorem resolve_uniform (o : Outside) {id : String} {k : EventKind} (h : (id, k) ∈ uniform) :
    ∃ test body, (Registry.builtin o).resolve id = .ok (.testCase test body) ∧
      Run.Uniform body k := by
  have hget : ∀ id, Text.getNamed? id (Registry.builtin o).entries =
      if "http-get" = id then some (httpGet o) else if "error" = id then some error
      else if "fail" = id then some fail else if "sleep" = id then some (sleep o)
      else if "noop" = id then some noop else none := by
    intro id
    unfold Registry.builtin
    simp only [List.foldl_cons, List.foldl_nil, Registry.register, Text.getNamed?_putNamed]
    rfl
  have hresolve : ∀ {id : String} {s : Scenario},
      Text.getNamed? id (Registry.builtin o).entries = some s →
        (Registry.builtin o).resolve id = .ok s := by
    intro id s hs
    unfold Registry.resolve
    rw [hs]
  simp only [uniform, List.mem_cons, List.not_mem_nil, or_false, Prod.mk.injEq] at h
  rcases h with ⟨rfl, rfl⟩ | ⟨rfl, rfl⟩ | ⟨rfl, rfl⟩ | ⟨rfl, rfl⟩
  · exact ⟨_, _, hresolve (hget _), fun _ _ _ he => absurd he List.not_mem_nil, fun _ _ => rfl⟩
  · exact ⟨_, _, hresolve (hget _), fun _ _ _ he => absurd he List.not_mem_nil, fun _ _ => rfl⟩
  · exact ⟨_, _, hresolve (hget _), fun _ _ _ he => absurd he List.not_mem_nil, fun _ _ => rfl⟩
  · exact ⟨_, _, hresolve (hget _), fun _ _ _ he => absurd he List.not_mem_nil, fun _ _ => rfl⟩

end Builtin

end LoadTest
