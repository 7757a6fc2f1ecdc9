import Mathlib.Data.List.Basic
import LoadTest.Proofs.Sink.Scripts
import LoadTest.Sink.Query

/-!
# The run clock

The time of a run goes from the last start that was taken in to the last stop, or to now while there
is none. On a clock that does not go back, this time only grows until another start is taken in.

* `History.timesOf`            when the events of a kind were taken in
* `Sink.mark_commitAll`        a time that every event of a kind sets anew
* `Sink.map_elapsed_eq_error_iff`   a run that was never started has no time
* `Sink.elapsed_le`            what lets the time of a run grow
* `Hub.Step.takes`, `Hub.times`     the events and the times of a script
* `Hub.clock_monotone`         all of it, for a script and what comes after it
-/

namespace LoadTest

/-- when the events of a kind were taken in -/
def History.timesOf (k : EventKind) (h : History) : List Instant :=
  (h.filter fun te => te.2.kind = k).map fun te => te.1.now

theorem History.timesOf_cons (k : EventKind) (t : Tick) (e : Event) (h : History) :
    timesOf k ((t, e) :: h) = if e.kind = k then t.now :: timesOf k h else timesOf k h := by
  by_cases he : e.kind = k <;> simp [timesOf, he]

theorem History.mem_timesOf {k : EventKind} {h : History} {now : Instant} :
    now ∈ timesOf k h ↔ ∃ te ∈ h, te.2.kind = k ∧ te.1.now = now := by
  simp [timesOf, and_assoc]

theorem History.timesOf_eq_nil_iff {k : EventKind} {h : History} :
    timesOf k h = [] ↔ ∀ te ∈ h, te.2.kind ≠ k := by
  simp [timesOf, List.filter_eq_nil_iff]

namespace Sink

open History (timesOf)

/-! ## start and stop -/

theorem started_commit (s : Sink) (t : Tick) (e : Event) :
    (s.commit t e).started = if e.kind = .startTestRun then some t.now else s.started := by
  cases e <;> simp [commit, Event.kind]

theorem stopped_commit (s : Sink) (t : Tick) (e : Event) :
    (s.commit t e).stopped = if e.kind = .stopTestRun then some t.now else s.stopped := by
  cases e <;> simp [commit, Event.kind]

/-- A time that every event of a kind sets anew, and no other event, is that of the last one. -/
theorem mark_commitAll {mark : Sink → Option Instant} {k : EventKind}
    (hcommit : ∀ s t e, mark (s.commit t e) = if e.kind = k then some t.now else mark s)
    (s : Sink) (h : History) : mark (s.commitAll h) = (timesOf k h).getLast?.or (mark s) := by
  induction h generalizing s with
  | nil => rfl
  | cons te h ih =>
    obtain ⟨t, e⟩ := te
    rw [commitAll_cons, ih, hcommit, History.timesOf_cons]
    by_cases he : e.kind = k
    · rw [if_pos he, if_pos he, List.getLast?_cons]
      cases (timesOf k h).getLast? <;> rfl
    · rw [if_neg he, if_neg he]

theorem started_commitAll (s : Sink) (h : History) :
    (s.commitAll h).started = (timesOf .startTestRun h).getLast?.or s.started :=
  mark_commitAll started_commit s h

theorem stopped_commitAll (s : Sink) (h : History) :
    (s.commitAll h).stopped = (timesOf .stopTestRun h).getLast?.or s.stopped :=
  mark_commitAll stopped_commit s h

/-! ## the time of a run -/

theorem map_elapsed_eq_error_iff {α : Type} (f : Duration → α) (s : Sink) (now : Instant)
    (err : Error) : (s.elapsed now).map f = .error err ↔ err = .runNotStarted ∧ s.started = none := by
  rw [elapsed]
  cases s.started with
  | none => simp [Except.map, eq_comm]
  | some start => simp [Except.map]

theorem elapsed_le {s t : Sink} {now later : Instant} (hstart : t.started = s.started)
    (hstop : s.stopped.getD now ≤ t.stopped.getD later) {d : Duration}
    (hd : s.elapsed now = .ok d) : ∃ d', t.elapsed later = .ok d' ∧ d.nanos ≤ d'.nanos := by
  rw [elapsed] at hd ⊢
  rw [hstart]
  cases hs : s.started with
  | none =>
    rw [hs] at hd
    cases hd
  | some start =>
    rw [hs] at hd
    obtain rfl := Except.ok.inj hd
    exact ⟨_, rfl, Nat.sub_le_sub_right hstop start⟩

theorem elapsed_congr {s t : Sink} (hstarted : t.started = s.started)
    (hstopped : t.stopped = s.stopped) (now : Instant) : t.elapsed now = s.elapsed now := by
  rw [elapsed, elapsed, hstarted, hstopped]

theorem durationSeconds_eq_ok_iff {s : Sink} {now : Instant} {n : Nat} :
    s.durationSeconds now = .ok n ↔ ∃ d, s.elapsed now = .ok d ∧ d.wholeSeconds = n := by
  rw [durationSeconds]
  cases s.elapsed now <;> simp [Except.map]

theorem elapsed_of_stopped {s : Sink} {stop : Instant} (hstopped : s.stopped = some stop)
    (now later : Instant) : s.elapsed later = s.elapsed now := by
  rw [elapsed, elapsed, hstopped]
  rfl

theorem stop_le {stopped : Option Instant} {stops : List Instant} {now later : Instant}
    (hbefore : ∀ t ∈ stopped, t ≤ now) (hafter : ∀ t ∈ stops, now ≤ t) (hlater : now ≤ later) :
    stopped.getD now ≤ (stops.getLast?.or stopped).getD later := by
  have hnow : stopped.getD now ≤ now := by
    cases stopped with
    | none => exact Nat.le_refl now
    | some t => exact hbefore t rfl
  cases hlast : stops.getLast? with
  | some t => exact Nat.le_trans hnow (hafter t (List.mem_of_getLast? hlast))
  | none =>
    cases stopped with
    | none => exact hlater
    | some t => exact Nat.le_refl t

end Sink

namespace Hub

open History (timesOf)

/-- an event of a kind is taken in; one that is only passed on is not -/
def Step.takes (k : EventKind) (s : Step) : Bool := s.entry?.any fun te => te.2.kind = k

def Takes (k : EventKind) (script : List Step) : Prop := ∃ s ∈ script, s.takes k = true

instance (k : EventKind) (script : List Step) : Decidable (Takes k script) :=
  inferInstanceAs (Decidable (∃ s ∈ script, s.takes k = true))

def times (script : List Step) : List Instant :=
  (script.filterMap Step.entry?).map fun te => te.1.now

/-- The clock does not go back along a script, to a question, along the steps after it, and to a
second question. -/
def IsSteady (script : List Step) (now : Instant) (more : List Step) (later : Instant) : Prop :=
  (times script ++ now :: (times more ++ [later])).Pairwise (· ≤ ·)

instance (script : List Step) (now : Instant) (more : List Step) (later : Instant) :
    Decidable (IsSteady script now more later) :=
  inferInstanceAs (Decidable (List.Pairwise _ _))

def timesTaken (k : EventKind) (script : List Step) : List Instant :=
  timesOf k (script.filterMap Step.entry?)

theorem mem_times_of_timesTaken {k : EventKind} {script : List Step} {now : Instant}
    (h : now ∈ timesTaken k script) : now ∈ times script := by
  obtain ⟨te, hte, -, rfl⟩ := History.mem_timesOf.1 h
  exact List.mem_map.2 ⟨te, hte, rfl⟩

theorem timesTaken_eq_nil_iff {k : EventKind} {script : List Step} :
    timesTaken k script = [] ↔ ¬ Takes k script := by
  rw [timesTaken, History.timesOf_eq_nil_iff]
  constructor
  · rintro h ⟨s, hs, htakes⟩
    obtain ⟨te, hentry, hkind⟩ := (Option.any_eq_true _ _).1 htakes
    exact h te (List.mem_filterMap.2 ⟨s, hs, hentry⟩) (of_decide_eq_true hkind)
  · intro h te hte hkind
    obtain ⟨s, hs, hentry⟩ := List.mem_filterMap.1 hte
    refine h ⟨s, hs, ?_⟩
    rw [Step.takes, hentry]
    exact decide_eq_true hkind

/-! ## scripts -/

section
variable (h : Hub) {script : List Step}

theorem started_run (script : List Step) : (h.run script).sink.started =
    (timesTaken .startTestRun script).getLast?.or h.sink.started := by
  rw [sink_run, Sink.started_commitAll, timesTaken]

theorem stopped_run (script : List Step) : (h.run script).sink.stopped =
    (timesTaken .stopTestRun script).getLast?.or h.sink.stopped := by
  rw [sink_run, Sink.stopped_commitAll, timesTaken]

theorem started_run_of_not_takes (hstarts : ¬ Takes .startTestRun script) :
    (h.run script).sink.started = h.sink.started := by
  rw [started_run, timesTaken_eq_nil_iff.2 hstarts]
  rfl

theorem stopped_run_of_not_takes (hstops : ¬ Takes .stopTestRun script) :
    (h.run script).sink.stopped = h.sink.stopped := by
  rw [stopped_run, timesTaken_eq_nil_iff.2 hstops]
  rfl

end

theorem started_run_eq_none_iff {script : List Step} :
    (empty.run script).sink.started = none ↔ ¬ Takes .startTestRun script := by
  have hnone : empty.sink.started = none := rfl
  rw [started_run, hnone, Option.or_none, List.getLast?_eq_none_iff, timesTaken_eq_nil_iff]

theorem exists_stopped_run {script : List Step} (h : Takes .stopTestRun script) :
    ∃ stop, (empty.run script).sink.stopped = some stop := by
  rw [stopped_run]
  cases hlast : (timesTaken .stopTestRun script).getLast? with
  | some stop => exact ⟨stop, rfl⟩
  | none => exact absurd h (timesTaken_eq_nil_iff.1 (List.getLast?_eq_none_iff.1 hlast))

/-- on a steady clock the end of a run does not get earlier -/
theorem stopped_run_le {script more : List Step} {now later : Instant}
    (hclock : IsSteady script now more later) :
    (empty.run script).sink.stopped.getD now ≤
      (empty.run (script ++ more)).sink.stopped.getD later := by
  obtain ⟨-, hnow, hbefore⟩ := List.pairwise_append.1 hclock
  obtain ⟨hafter, -⟩ := List.pairwise_cons.1 hnow
  rw [run_append, stopped_run _ more]
  refine Sink.stop_le ?_ ?_ ?_
  · intro t ht
    have hnone : empty.sink.stopped = none := rfl
    rw [stopped_run, hnone, Option.or_none] at ht
    have hmem : t ∈ times script := mem_times_of_timesTaken (List.mem_of_getLast? ht)
    exact hbefore t hmem now List.mem_cons_self
  · intro t ht
    exact hafter t (List.mem_append_left _ (mem_times_of_timesTaken ht))
  · exact hafter later (List.mem_append_right _ (List.mem_singleton_self later))

/-- **The run clock only goes forward.** After any script, what is asked of the time of the run is
answered, unless no start was taken in: starts that were only passed on do not count. On a clock
that does not go back, steps that take in no start do not turn an answer into an error, and the time
does not get shorter, to the nanosecond and in whole seconds. Steps that take in neither a start nor
a stop do not change the time at any moment; and if the run had been stopped, it stays the same from
then on. -/
theorem clock_monotone (script : List Step) :
    let sink := (empty.run script).sink
    (∀ (now : Instant) (err : Error),
      (sink.durationSeconds now = .error err ↔
        err = .runNotStarted ∧ ¬ Takes .startTestRun script) ∧
      (sink.testsPerSecond now = .error err ↔
        err = .runNotStarted ∧ ¬ Takes .startTestRun script) ∧
      (sink.requestsPerSecond now = .error err ↔
        err = .runNotStarted ∧ ¬ Takes .startTestRun script)) ∧
    ∀ more : List Step, ¬ Takes .startTestRun more →
      let longer := (empty.run (script ++ more)).sink
      (∀ now later : Instant, IsSteady script now more later →
        (∀ d, sink.elapsed now = .ok d →
          ∃ d', longer.elapsed later = .ok d' ∧ d.nanos ≤ d'.nanos) ∧
        ∀ n, sink.durationSeconds now = .ok n →
          ∃ n', longer.durationSeconds later = .ok n' ∧ n ≤ n') ∧
      (¬ Takes .stopTestRun more →
        (∀ now : Instant, longer.elapsed now = sink.elapsed now ∧
          longer.durationSeconds now = sink.durationSeconds now) ∧
        (Takes .stopTestRun script → ∀ now later : Instant,
          longer.elapsed later = sink.elapsed now ∧
            longer.durationSeconds later = sink.durationSeconds now)) := by
  intro sink
  refine ⟨?_, ?_⟩
  · intro now err
    rw [← started_run_eq_none_iff]
    exact ⟨sink.map_elapsed_eq_error_iff _ now err, sink.map_elapsed_eq_error_iff _ now err,
      sink.map_elapsed_eq_error_iff _ now err⟩
  intro more hstarts longer
  have hlonger : longer = ((empty.run script).run more).sink := by rw [← run_append]
  have hstarted : longer.started = sink.started :=
    hlonger ▸ started_run_of_not_takes (empty.run script) hstarts
  refine ⟨?_, ?_⟩
  · intro now later hclock
    have hgrows (d : Duration) (hd : sink.elapsed now = .ok d) :
        ∃ d', longer.elapsed later = .ok d' ∧ d.nanos ≤ d'.nanos :=
      Sink.elapsed_le hstarted (stopped_run_le hclock) hd
    refine ⟨hgrows, fun n hn => ?_⟩
    obtain ⟨d, hd, rfl⟩ := Sink.durationSeconds_eq_ok_iff.1 hn
    obtain ⟨d', hd', hle⟩ := hgrows d hd
    exact ⟨d'.wholeSeconds, Sink.durationSeconds_eq_ok_iff.2 ⟨d', hd', rfl⟩,
      Nat.div_le_div_right hle⟩
  · intro hstops
    have hstopped : longer.stopped = sink.stopped :=
      hlonger ▸ stopped_run_of_not_takes (empty.run script) hstops
    have hsame (now : Instant) : longer.elapsed now = sink.elapsed now :=
      Sink.elapsed_congr hstarted hstopped now
    refine ⟨fun now => ⟨hsame now, ?_⟩, fun hstop now later => ?_⟩
    · rw [Sink.durationSeconds, Sink.durationSeconds, hsame]
    · obtain ⟨stop, hstop⟩ := exists_stopped_run hstop
      have hstill : longer.elapsed later = sink.elapsed now :=
        (hsame later).trans (Sink.elapsed_of_stopped hstop now later)
      refine ⟨hstill, ?_⟩
      rw [Sink.durationSeconds, Sink.durationSeconds, hstill]

/-- A run that was started at 5 ns and stopped three seconds later, with the start of an agent passed
on before: a second stop makes it longer, and a socket that is opened does not. -/
theorem clock_monotone_stopped :
    let script := [.forward (.startTestRun (some "a")), .apply 5 (.startTestRun none),
      .apply 3000000005 (.stopTestRun none)]
    let again := [.apply 6500000005 (.stopTestRun none)]
    let other := [.apply 6500000005 (.socketOpen ⟨1, 1, 1, 1⟩ none), .forward (.startTestRun none)]
    ¬ Takes .startTestRun again ∧ IsSteady script 4000000005 again 7000000005 ∧
      (empty.run script).sink.durationSeconds 4000000005 = .ok 3 ∧
      (∃ n, (empty.run (script ++ again)).sink.durationSeconds 7000000005 = .ok n ∧ 3 ≤ n) ∧
      ¬ Takes .startTestRun other ∧ ¬ Takes .stopTestRun other ∧ Takes .stopTestRun script ∧
      (empty.run (script ++ other)).sink.elapsed 7000000005 =
        (empty.run script).sink.elapsed 4000000005 := by
  intro script again other
  have hagain : ¬ Takes .startTestRun again := by decide
  have hclock : IsSteady script 4000000005 again 7000000005 := by decide
  have hstarts : ¬ Takes .startTestRun other := by decide
  have hstops : ¬ Takes .stopTestRun other := by decide
  have hstopped : Takes .stopTestRun script := by decide
  have hstart : (empty.run script).sink.started = some 5 := rfl
  have hstop : (empty.run script).sink.stopped = some 3000000005 := rfl
  have hthree : (empty.run script).sink.durationSeconds 4000000005 = .ok 3 := by
    rw [Sink.durationSeconds, Sink.elapsed, hstart, hstop]
    rfl
  obtain ⟨hgrows, -⟩ := (clock_monotone script).2 again hagain
  obtain ⟨-, hstill⟩ := (clock_monotone script).2 other hstarts
  exact ⟨hagain, hclock, hthree, (hgrows _ _ hclock).2 3 hthree, hstarts, hstops, hstopped,
    ((hstill hstops).2 hstopped _ _).1⟩

end Hub

end LoadTest
