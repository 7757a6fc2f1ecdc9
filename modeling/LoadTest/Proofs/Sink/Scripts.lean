import Mathlib.Data.List.Basic
import Mathlib.Data.List.Induction
import LoadTest.Proofs.Sink.Observers

/-!
# Scripts of a hub

A script adds observers, takes in events and passes events on, in any order. What observers are told
is one round for each event, and nothing of it can be seen in the sink.

* `Hub.Step`, `Hub.run`     the steps of a script, and a hub after a script
* `Hub.joined`              the observers of a script
* `Hub.round`, `Hub.rounds` the notices of one event, and of a script
* `Hub.notices_run`         the notices are those rounds
* `Hub.seenBy_run`          an observer is told of what comes after it
* `Hub.sink_run`            only what is taken in changes the sink
* `Hub.script_observed`     all of it together
-/

namespace LoadTest.Hub

inductive Step where
  | observe (o : Observer)
  | apply (t : Tick) (e : Event)
  | forward (e : Event)

namespace Step

def told? : Step → Option Event
  | observe _ => none
  | apply _ e => some e
  | forward e => some e

def observer? : Step → Option Observer
  | observe o => some o
  | _ => none

def entry? : Step → Option (Tick × Event)
  | apply t e => some (t, e)
  | _ => none

def isApply (s : Step) : Bool := s.entry?.isSome

end Step

def step (h : Hub) : Step → Hub
  | .observe o => h.observe o
  | .apply t e => h.apply t e
  | .forward e => h.forward e

def run (h : Hub) (script : List Step) : Hub := script.foldl step h

theorem run_nil (h : Hub) : h.run [] = h := rfl

theorem run_cons (h : Hub) (s : Step) (script : List Step) :
    h.run (s :: script) = (h.step s).run script := rfl

theorem run_append (h : Hub) (a b : List Step) : h.run (a ++ b) = (h.run a).run b :=
  List.foldl_append

/-! ## what a script amounts to -/

def joined (script : List Step) : List Observer := script.filterMap Step.observer?

/-- the notices of one event: everybody is told of it once, in order -/
def round (observers : List Observer) (e : Event) : List Notice :=
  observers.zipIdx.map fun oi => ⟨oi.2, e, !oi.1.fails e⟩

/-- one round for each event, among those who have been added before it -/
def rounds (script : List Step) : List Notice :=
  script.zipIdx.flatMap fun sk => sk.1.told?.toList.flatMap (round (joined (script.take sk.2)))

theorem joined_append (a b : List Step) : joined (a ++ b) = joined a ++ joined b :=
  List.filterMap_append

theorem toList_noticesOf (observers : Array Observer) (e : Event) :
    (noticesOf observers e).toList = round observers.toList e := by
  rw [noticesOf, Array.toList_mapIdx, List.mapIdx_eq_zipIdx_map]
  rfl

theorem rounds_concat (script : List Step) (s : Step) :
    rounds (script ++ [s]) = rounds script ++ s.told?.toList.flatMap (round (joined script)) := by
  have hearlier : ∀ sk ∈ script.zipIdx, (script ++ [s]).take sk.2 = script.take sk.2 := by
    intro sk hsk
    have hlt : sk.2 < script.length := List.snd_lt_of_mem_zipIdx hsk
    exact List.take_append_of_le_length (Nat.le_of_lt hlt)
  have hlast : (script ++ [s]).take script.length = script := List.take_left' rfl
  rw [rounds, List.zipIdx_append, List.flatMap_append, rounds]
  congr 1
  · refine List.flatMap_congr fun sk hsk => ?_
    rw [hearlier sk hsk]
  · rw [List.zipIdx_singleton, List.flatMap_singleton, Nat.zero_add, hlast]

theorem rounds_eq_nil {script : List Step} (h : joined script = []) : rounds script = [] := by
  have hnobody : ∀ k, joined (script.take k) = [] := by
    intro k
    have hsplit := joined_append (script.take k) (script.drop k)
    rw [List.take_append_drop, h] at hsplit
    exact (List.append_eq_nil_iff.1 hsplit.symm).1
  rw [rounds, List.flatMap_eq_nil_iff]
  intro sk _
  rw [hnobody sk.2, List.flatMap_eq_nil_iff]
  exact fun _ _ => rfl

theorem filterMap_entry?_filter (script : List Step) :
    (script.filter Step.isApply).filterMap Step.entry? = script.filterMap Step.entry? := by
  induction script with
  | nil => rfl
  | cons s script ih =>
    cases s with
    | observe o => exact ih
    | apply now e => exact congrArg ((now, e) :: ·) ih
    | forward e => exact ih

/-! ## one step -/

section
variable (h : Hub) (s : Step)

theorem observers_step : (h.step s).observers.toList = h.observers.toList ++ s.observer?.toList := by
  cases s with
  | observe o => exact Array.toList_push
  | apply now e => exact (List.append_nil _).symm
  | forward e => exact (List.append_nil _).symm

theorem notices_step : (h.step s).notices.toList =
    h.notices.toList ++ s.told?.toList.flatMap (round h.observers.toList) := by
  have hround : ∀ e : Event, (h.notices ++ noticesOf h.observers e).toList =
      h.notices.toList ++ [e].flatMap (round h.observers.toList) := by
    intro e
    rw [Array.toList_append, toList_noticesOf, List.flatMap_singleton]
  cases s with
  | observe o => exact (List.append_nil _).symm
  | apply now e => exact hround e
  | forward e => exact hround e

theorem sink_step : (h.step s).sink = h.sink.commitAll s.entry?.toList := by
  cases s with
  | observe o => rfl
  | apply now e => rfl
  | forward e => rfl

theorem size_le_step : h.observers.size ≤ (h.step s).observers.size := by
  have hobservers := congrArg List.length (h.observers_step s)
  rw [List.length_append, Array.length_toList, Array.length_toList] at hobservers
  omega

theorem seenBy_step {i : Nat} (hi : i < h.observers.size) :
    (h.step s).seenBy i = h.seenBy i ++ s.told?.toList := by
  cases s with
  | observe o => exact (List.append_nil _).symm
  | apply now e => exact h.seenBy_apply now e hi
  | forward e => exact h.seenBy_forward e hi

end

/-! ## scripts -/

theorem observers_run (h : Hub) (script : List Step) :
    (h.run script).observers.toList = h.observers.toList ++ joined script := by
  induction script generalizing h with
  | nil => exact (List.append_nil _).symm
  | cons s script ih =>
    have hjoined : joined (s :: script) = s.observer?.toList ++ joined script :=
      joined_append [s] script ▸ by cases s <;> rfl
    rw [run_cons, ih, observers_step, hjoined, List.append_assoc]

theorem sink_run (h : Hub) (script : List Step) :
    (h.run script).sink = h.sink.commitAll (script.filterMap Step.entry?) := by
  induction script generalizing h with
  | nil => rfl
  | cons s script ih =>
    have hentries : (s :: script).filterMap Step.entry? =
        s.entry?.toList ++ script.filterMap Step.entry? := by cases s <;> rfl
    rw [run_cons, ih, sink_step, hentries, Sink.commitAll_append]

/-- **What observers are told**: one round for each event, in the order of the script. -/
theorem notices_run (script : List Step) : (empty.run script).notices.toList = rounds script := by
  induction script using List.reverseRecOn with
  | nil => rfl
  | append_singleton script s ih =>
    have hobservers : (empty.run script).observers.toList = joined script :=
      observers_run empty script
    rw [run_append, run_cons, run_nil, notices_step, ih, hobservers, rounds_concat]

theorem seenBy_run (h : Hub) (script : List Step) {i : Nat} (hi : i < h.observers.size) :
    (h.run script).seenBy i = h.seenBy i ++ script.filterMap Step.told? := by
  induction script generalizing h with
  | nil => exact (List.append_nil _).symm
  | cons s script ih =>
    have hnext : i < (h.step s).observers.size := Nat.lt_of_lt_of_le hi (h.size_le_step s)
    have htold : (s :: script).filterMap Step.told? =
        s.told?.toList ++ script.filterMap Step.told? := by cases s <;> rfl
    rw [run_cons, ih (h.step s) hnext, seenBy_step h s hi, htold, List.append_assoc]

theorem seenBy_joined (script : List Step) : (empty.run script).seenBy (joined script).length = [] := by
  have hearlier : ∀ n ∈ rounds script, n.observer < (joined script).length := by
    induction script using List.reverseRecOn with
    | nil => exact fun n hn => absurd hn List.not_mem_nil
    | append_singleton script s ih =>
      intro n hn
      have hle : (joined script).length ≤ (joined (script ++ [s])).length := by
        rw [joined_append, List.length_append]
        omega
      rw [rounds_concat, List.mem_append] at hn
      rcases hn with hn | hn
      · exact Nat.lt_of_lt_of_le (ih n hn) hle
      · obtain ⟨e, -, hround⟩ := List.mem_flatMap.1 hn
        obtain ⟨oi, hoi, rfl⟩ := List.mem_map.1 hround
        have hlt : oi.2 < (joined script).length := List.snd_lt_of_mem_zipIdx hoi
        exact Nat.lt_of_lt_of_le hlt hle
  rw [seenBy, notices_run, List.map_eq_nil_iff, List.filter_eq_nil_iff]
  intro n hn hobserver
  have hlt := hearlier n hn
  have heq : n.observer = (joined script).length := of_decide_eq_true hobserver
  omega

/-- **Observers see everything in order and change nothing.** After any script the observers are
those that were added, in order, and the notices are one round for each event: everybody who had
been added before is told of it once, in the order of joining, whoever fails. So an observer that
joins after a script is told of exactly the events that come later, in their order. The sink is that
of the events that were taken in alone, without any observer; an event that is passed on leaves it
as it is. -/
theorem script_observed (script : List Step) :
    let unobserved := empty.run (script.filter Step.isApply)
    (empty.run script).observers.toList = joined script ∧
    (empty.run script).notices.toList = rounds script ∧
    (∀ (o : Observer) (later : List Step),
      (empty.run (script ++ .observe o :: later)).seenBy (joined script).length =
        later.filterMap Step.told?) ∧
    unobserved.observers = #[] ∧
    unobserved.notices = #[] ∧
    (empty.run script).sink = unobserved.sink ∧
    (empty.run script).sink = Sink.empty.commitAll (script.filterMap Step.entry?) ∧
    ∀ e : Event, (empty.run (script ++ [.forward e])).sink = (empty.run script).sink := by
  intro unobserved
  have hjoined : ∀ s : List Step, (empty.run s).observers.toList = joined s := observers_run empty
  have hsink : ∀ s : List Step, (empty.run s).sink = Sink.empty.commitAll (s.filterMap Step.entry?) :=
    sink_run empty
  have hnobody : joined (script.filter Step.isApply) = [] := by
    rw [joined, List.filterMap_eq_nil_iff]
    intro s hs
    have happly : s.isApply = true := (List.mem_filter.1 hs).2
    cases s with
    | observe o => exact absurd happly Bool.false_ne_true
    | apply now e => rfl
    | forward e => rfl
  refine ⟨hjoined script, notices_run script, fun o later => ?_, ?_, ?_, ?_, hsink script,
    fun e => ?_⟩
  · have hsize : (joined script).length < ((empty.run script).observe o).observers.size := by
      rw [← hjoined script, Array.length_toList, observe, Array.size_push]
      exact Nat.lt_succ_self _
    have hnothing : ((empty.run script).observe o).seenBy (joined script).length = [] :=
      seenBy_joined script
    rw [run_append, run_cons]
    exact (seenBy_run _ later hsize).trans (by rw [hnothing, List.nil_append])
  · exact Array.toList_inj.1 ((hjoined _).trans hnobody)
  · exact Array.toList_inj.1 ((notices_run _).trans (rounds_eq_nil hnobody))
  · rw [hsink script, hsink, filterMap_entry?_filter]
  · rw [run_append]
    rfl

/-- the first observer fails on everything, the second one joins after the first event -/
example :
    let first : Observer := ⟨"a", fun _ => true⟩
    let second : Observer := ⟨"b", fun _ => false⟩
    let script := [.observe first, .forward (.stopTestRun none), .observe second,
      .apply 5 (.startTestRun none)]
    (empty.run script).notices = #[⟨0, .stopTestRun none, false⟩, ⟨0, .startTestRun none, false⟩,
      ⟨1, .startTestRun none, true⟩] := rfl

end LoadTest.Hub
