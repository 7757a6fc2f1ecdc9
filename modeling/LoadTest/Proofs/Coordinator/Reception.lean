import Mathlib.Data.List.Infix
import LoadTest.Coordinator.Intake
import LoadTest.Proofs.Sink.Observers

/-!
# What the coordinator takes off its queue

The loop reads up to the last expected ending and no further. What it leaves behind is said by the
lines that it read: counts, a sink that took in their events, and observers that were told of all of
them.

* `decoded?`, `isBlank`, `isEnding`   what a line is
* `upToEnding`          the shortest part of a queue with so many endings
* `Intake.after`        what taking in lines amounts to
* `consume_eq`          the loop takes in exactly that part
* `drain_sink`          what is left does not reach the sink
* `consume_upToEnding`  counts, sink, observers and result of the loop
-/

namespace LoadTest.Coordinator

/-! ## lines -/

/-- the event that a line holds, blanks around it dropped -/
def decoded? (a : Arrival) : Option Event := (Event.ofLine (Text.trimmed a.2)).toOption

def isBlank (a : Arrival) : Bool := Text.trimmed a.2 = ""

def isMalformed (a : Arrival) : Bool := !isBlank a && (decoded? a).isNone

def isEnding (a : Arrival) : Bool := (decoded? a).any Event.isStopTest

def OnClock (queue : List Arrival) : Prop :=
  ∀ a ∈ queue, Event.ofLine (Text.trimmed a.2) ≠ .error .clockOverflow

def decodedAll (queue : List Arrival) : History :=
  queue.filterMap fun a => (decoded? a).map fun e => (a.1, e)

def applied (queue : List Arrival) : History :=
  (decodedAll queue).filter fun te => !te.2.isRunEvent

def endings (queue : List Arrival) : Nat := queue.countP isEnding

theorem ofLine_empty : Event.ofLine "" = .error .malformed := by
  have hread : Decimal.Numeral.read [] = none := rfl
  have hfront : Json.front (Text.trimEnd "".toList) = none := by
    simp [Text.trimEnd, Json.front, Json.value, Json.skip, hread]
  unfold Event.ofLine
  rw [hfront]

theorem ofText_cases (a : Arrival) (h : Event.ofLine (Text.trimmed a.2) ≠ .error .clockOverflow) :
    (Line.ofText a.2 = .blank ∧ isBlank a = true ∧ decoded? a = none) ∨
    (Line.ofText a.2 = .malformed ∧ isBlank a = false ∧ decoded? a = none) ∨
    ∃ e, Line.ofText a.2 = .event e ∧ isBlank a = false ∧ decoded? a = some e := by
  unfold Line.ofText isBlank decoded?
  by_cases hblank : Text.trimmed a.2 = ""
  · left
    rw [hblank, ofLine_empty]
    exact ⟨rfl, rfl, rfl⟩
  · right
    cases hline : Event.ofLine (Text.trimmed a.2) with
    | ok e => exact .inr ⟨e, by simp [hblank, hline], by simpa using hblank, rfl⟩
    | error fault =>
      cases fault with
      | malformed => exact .inl ⟨by simp [hblank, hline], by simpa using hblank, rfl⟩
      | clockOverflow => exact absurd hline h

theorem not_isStopTest_of_isRunEvent {e : Event} (he : e.isRunEvent = true) :
    e.isStopTest = false := by
  cases e <;> first | rfl | cases he

theorem decodedAll_append (a b : List Arrival) :
    decodedAll (a ++ b) = decodedAll a ++ decodedAll b := List.filterMap_append

theorem applied_append (a b : List Arrival) : applied (a ++ b) = applied a ++ applied b := by
  rw [applied, decodedAll_append, List.filter_append]
  rfl

theorem mem_decodedAll {a : Arrival} {queue : List Arrival} (ha : a ∈ queue) {e : Event}
    (he : decoded? a = some e) : (a.1, e) ∈ decodedAll queue :=
  List.mem_filterMap.2 ⟨a, ha, by rw [he]; rfl⟩

theorem endings_eq (queue : List Arrival) :
    endings queue = ((decodedAll queue).map Prod.snd).countP Event.isStopTest := by
  rw [endings, decodedAll, List.countP_map, List.countP_filterMap]
  refine List.countP_congr fun a _ => ?_
  rw [isEnding]
  cases decoded? a <;> rfl

theorem events_applied (queue : List Arrival) :
    (applied queue).map Prod.snd =
      ((decodedAll queue).map Prod.snd).filter fun e => !e.isRunEvent := by
  rw [applied, List.filter_map]
  rfl

theorem endings_append (a b : List Arrival) : endings (a ++ b) = endings a + endings b :=
  List.countP_append

theorem endings_cons (a : Arrival) (queue : List Arrival) :
    endings (a :: queue) = endings queue + if isEnding a then 1 else 0 := List.countP_cons

/-! ## the part that is read -/

/-- The shortest part at the front of a queue with so many endings, or all of the queue. -/
def upToEnding (expected : Nat) (queue : List Arrival) : List Arrival :=
  (queue.inits.find? fun p => expected ≤ endings p).getD queue

theorem upToEnding_zero (queue : List Arrival) : upToEnding 0 queue = [] := by
  cases queue <;> simp [upToEnding, List.inits]

theorem upToEnding_nil (expected : Nat) : upToEnding expected [] = [] := by
  simp only [upToEnding, List.inits, List.find?_cons]
  split <;> rfl

theorem upToEnding_cons {expected : Nat} (hexpected : 0 < expected) (a : Arrival)
    (queue : List Arrival) :
    upToEnding expected (a :: queue) =
      a :: upToEnding (expected - if isEnding a then 1 else 0) queue := by
  have hnil : ¬ expected ≤ endings [] := by
    rw [endings, List.countP_nil]
    exact Nat.not_le_of_lt hexpected
  have hcons : ((fun p => decide (expected ≤ endings p)) ∘ fun p => a :: p) =
      fun p => decide (expected - (if isEnding a then 1 else 0) ≤ endings p) := by
    funext p
    rw [Function.comp_apply, endings_cons]
    exact decide_eq_decide.mpr Nat.sub_le_iff_le_add.symm
  unfold upToEnding
  rw [List.inits_cons, List.find?_cons_of_neg (by simpa using hnil), List.find?_map, hcons]
  cases queue.inits.find? fun p => decide (expected - (if isEnding a then 1 else 0) ≤ endings p) with
  | none => rfl
  | some p => rfl

theorem upToEnding_append_drop (expected : Nat) (queue : List Arrival) :
    upToEnding expected queue ++ queue.drop (upToEnding expected queue).length = queue := by
  induction queue generalizing expected with
  | nil => rw [upToEnding_nil]; rfl
  | cons a queue ih =>
    by_cases hexpected : 0 < expected
    · rw [upToEnding_cons hexpected, List.length_cons, List.drop_succ_cons, List.cons_append, ih]
    · rw [Nat.eq_zero_of_not_pos hexpected, upToEnding_zero]
      rfl

theorem prefix_upToEnding (expected : Nat) (queue : List Arrival) :
    upToEnding expected queue <+: queue := ⟨_, upToEnding_append_drop expected queue⟩

theorem upToEnding_eq_self {expected : Nat} {queue : List Arrival}
    (h : endings (upToEnding expected queue) < expected) : upToEnding expected queue = queue := by
  unfold upToEnding at h ⊢
  cases hfind : queue.inits.find? fun p => decide (expected ≤ endings p) with
  | none => rfl
  | some p =>
    have hp : expected ≤ endings p := by simpa using List.find?_some hfind
    rw [hfind] at h
    exact absurd h (Nat.not_lt_of_le hp)

theorem endings_upToEnding (expected : Nat) (queue : List Arrival) :
    endings (upToEnding expected queue) = min expected (endings queue) := by
  induction queue generalizing expected with
  | nil =>
    rw [upToEnding_nil, endings, List.countP_nil, Nat.min_zero]
  | cons a queue ih =>
    by_cases hexpected : 0 < expected
    · rw [upToEnding_cons hexpected, endings_cons, endings_cons, ih]
      by_cases hending : isEnding a
      · rw [if_pos hending]
        omega
      · rw [if_neg hending]
        rfl
    · rw [Nat.eq_zero_of_not_pos hexpected, upToEnding_zero, Nat.zero_min]
      rfl

/-- the part that is read is the least part with all endings -/
theorem upToEnding_prefix_iff {expected : Nat} {queue part : List Arrival}
    (henough : expected ≤ endings queue) (hpart : part <+: queue) :
    upToEnding expected queue <+: part ↔ expected ≤ endings part := by
  induction queue generalizing expected part with
  | nil =>
    rw [List.prefix_nil.1 hpart, upToEnding_nil]
    exact iff_of_true List.prefix_rfl henough
  | cons a queue ih =>
    by_cases hexpected : 0 < expected
    · rw [upToEnding_cons hexpected]
      cases part with
      | nil =>
        have hnone : endings [] = 0 := rfl
        rw [hnone]
        exact iff_of_false (fun h => List.cons_ne_nil _ _ (List.prefix_nil.1 h))
          (Nat.not_le_of_lt hexpected)
      | cons b part =>
        obtain ⟨rfl, htail⟩ := List.cons_prefix_cons.1 hpart
        rw [endings_cons] at henough ⊢
        have hrest := @ih (expected - if isEnding b then 1 else 0) part (by omega) htail
        rw [List.cons_prefix_cons, and_iff_right rfl, hrest]
        omega
    · rw [Nat.eq_zero_of_not_pos hexpected, upToEnding_zero]
      exact iff_of_true List.nil_prefix (Nat.zero_le _)

/-! ## taking in lines -/

/-- What taking in lines amounts to: the sink takes in the events that belong to no run, and the
observers are told of every event. -/
def Intake.after (s : Intake) (queue : List Arrival) : Intake where
  hub :=
    { sink := s.hub.sink.commitAll (applied queue)
      observers := s.hub.observers
      notices := s.hub.notices ++
        (decodedAll queue).toArray.flatMap fun te => Hub.noticesOf s.hub.observers te.2 }
  tally :=
    { received := s.tally.received + queue.countP fun a => !isBlank a
      completed := s.tally.completed + endings queue
      dropped := s.tally.dropped + queue.countP isMalformed }

namespace Intake

theorem after_nil (s : Intake) : s.after [] = s := by
  simp [after, applied, decodedAll, endings, Sink.commitAll_nil]

theorem after_append (s : Intake) (a b : List Arrival) : (s.after a).after b = s.after (a ++ b) := by
  simp only [after, applied_append, decodedAll_append, endings_append, List.countP_append,
    Sink.commitAll_append, Nat.add_assoc, ← List.append_toArray, Array.flatMap_append,
    Array.append_assoc]

theorem sink_after (s : Intake) (queue : List Arrival) :
    (s.after queue).hub.sink = s.hub.sink.commitAll (applied queue) := rfl

theorem completed_after_singleton (s : Intake) (a : Arrival) : (s.after [a]).tally.completed =
    s.tally.completed + if isEnding a then 1 else 0 := by
  show s.tally.completed + endings [a] = _
  rw [endings_cons, endings, List.countP_nil, Nat.zero_add]

theorem take_eq (s : Intake) (a : Arrival)
    (h : Event.ofLine (Text.trimmed a.2) ≠ .error .clockOverflow) :
    s.take a = .ok (s.after [a]) := by
  unfold take
  rcases ofText_cases a h with ⟨hline, hblank, hnone⟩ | ⟨hline, hblank, hnone⟩ | ⟨e, hline, hblank, he⟩
  · simp [hline, hblank, hnone, after, applied, decodedAll, endings, isEnding, isMalformed,
      Sink.commitAll_nil]
  · simp [hline, hblank, hnone, after, applied, decodedAll, endings, isEnding, isMalformed,
      Sink.commitAll_nil, countReceived, countDropped]
  · rw [hline]
    show Except.ok (s.countReceived.takeEvent a.1 e) = _
    by_cases hrun : e.isRunEvent
    · simp [takeEvent, hrun, hblank, he, after, applied, decodedAll, endings, isEnding, isMalformed,
        not_isStopTest_of_isRunEvent hrun, Sink.commitAll_nil, countReceived, forward, Hub.forward]
    · by_cases hending : e.isStopTest
      · simp [takeEvent, hrun, hending, hblank, he, after, applied, decodedAll, endings, isEnding,
          isMalformed, Sink.commitAll, countReceived, countCompleted, apply, Hub.apply,
          Hub.forward]
      · simp [takeEvent, hrun, hending, hblank, he, after, applied, decodedAll, endings, isEnding,
          isMalformed, Sink.commitAll, countReceived, apply, Hub.apply, Hub.forward]

end Intake

/-- the outcome when the loop has taken in the lines `read` off the front of a queue -/
def Intake.reception (s : Intake) (expected : Nat) (shortage : Shortage) (read queue : List Arrival) :
    Reception where
  intake := s.after read
  unread := queue.drop read.length
  result :=
    if expected ≤ s.tally.completed + endings read then .ok ()
    else .error (shortage.error (s.tally.completed + endings read) expected)

/-- the loop takes in the shortest part with the endings that are still missing, and stops -/
theorem consume_eq (expected : Nat) (shortage : Shortage) (s : Intake) (queue : List Arrival)
    (hclock : OnClock (upToEnding (expected - s.tally.completed) queue)) :
    consume expected shortage s queue =
      s.reception expected shortage (upToEnding (expected - s.tally.completed) queue) queue := by
  induction queue generalizing s with
  | nil =>
    have hnone : s.tally.completed + endings [] = s.tally.completed := rfl
    rw [upToEnding_nil, consume, Intake.reception, Intake.after_nil, hnone]
    split <;> rfl
  | cons a queue ih =>
    by_cases henough : expected ≤ s.tally.completed
    · have hnone : s.tally.completed + endings [] = s.tally.completed := rfl
      rw [Nat.sub_eq_zero_of_le henough, upToEnding_zero, consume, Intake.reception,
        Intake.after_nil, hnone, if_pos henough, if_pos henough]
      rfl
    · have hone := s.completed_after_singleton a
      have hread := upToEnding_cons (Nat.sub_pos_of_lt (Nat.lt_of_not_le henough)) a queue
      rw [hread, ← Nat.sub_add_eq, ← hone] at hclock
      have hrest := ih (s.after [a]) fun b hb => hclock b (List.mem_cons_of_mem a hb)
      rw [consume, if_neg henough, Intake.take_eq s a (hclock a List.mem_cons_self), hread]
      show consume expected shortage (s.after [a]) queue = _
      rw [hrest, hone, Nat.sub_add_eq]
      simp only [Intake.reception, Intake.after_append, hone, endings_cons, List.singleton_append,
        List.length_cons, List.drop_succ_cons, Nat.add_assoc,
        Nat.add_comm (if isEnding a then 1 else 0)]

theorem result_reception (s : Intake) {expected : Nat} (shortage : Shortage)
    {read queue : List Arrival} (hle : s.tally.completed + endings read ≤ expected) :
    (s.reception expected shortage read queue).result = .ok () ↔
      s.tally.completed + endings read = expected := by
  show (if expected ≤ s.tally.completed + endings read then Except.ok () else _) = _ ↔ _
  by_cases henough : expected ≤ s.tally.completed + endings read
  · rw [if_pos henough]
    exact iff_of_true rfl (Nat.le_antisymm hle henough)
  · rw [if_neg henough]
    exact iff_of_false nofun fun heq => henough (Nat.le_of_eq heq.symm)

/-! ## observers -/

theorem seenBy_after (s : Intake) (read : List Arrival) {i : Nat} (hi : i < s.hub.observers.size) :
    (s.after read).hub.seenBy i = s.hub.seenBy i ++ (decodedAll read).map Prod.snd := by
  have hall : ∀ history : History,
      ((history.flatMap fun te => (Hub.noticesOf s.hub.observers te.2).toList).filter
        fun n => n.observer = i).map Notice.event = history.map Prod.snd := by
    intro history
    induction history with
    | nil => rfl
    | cons te history ih =>
      rw [List.flatMap_cons, List.filter_append, List.map_append, Hub.seenBy_noticesOf _ _ hi, ih]
      rfl
  simp only [Hub.seenBy, Intake.after, Array.toList_append, List.filter_append, List.map_append,
    Array.toList_flatMap, hall]

/-! ## run times -/

theorem times_commitAll (s : Sink) (history : History)
    (h : ∀ te ∈ history, te.2.isRunEvent = false) :
    (s.commitAll history).started = s.started ∧ (s.commitAll history).stopped = s.stopped := by
  induction history generalizing s with
  | nil => exact ⟨rfl, rfl⟩
  | cons te history ih =>
    have hone : (s.commit te.1 te.2).started = s.started ∧
        (s.commit te.1 te.2).stopped = s.stopped := by
      have hte := h te List.mem_cons_self
      obtain ⟨now, e⟩ := te
      cases e with
      | startTestRun | stopTestRun => simp [Event.isRunEvent, Event.kind] at hte
      | _ => simp [Sink.commit]
    obtain ⟨hstarted, hstopped⟩ := ih (s.commit te.1 te.2) fun te hte =>
      h te (List.mem_cons_of_mem _ hte)
    exact ⟨hstarted.trans hone.1, hstopped.trans hone.2⟩

theorem times_after (s : Intake) (read : List Arrival) :
    (s.after read).hub.sink.started = s.hub.sink.started ∧
      (s.after read).hub.sink.stopped = s.hub.sink.stopped := by
  refine times_commitAll s.hub.sink (applied read) fun te hte => ?_
  simpa using (List.mem_filter.mp hte).2

/-! ## draining -/

theorem skim_sink (s : Intake) (a : Arrival)
    (h : Event.ofLine (Text.trimmed a.2) ≠ .error .clockOverflow) :
    ∃ t, s.skim a = .ok t ∧ t.hub.sink = s.hub.sink := by
  unfold Intake.skim
  rcases ofText_cases a h with ⟨hline, -⟩ | ⟨hline, -⟩ | ⟨e, hline, -⟩
  · exact ⟨s, by rw [hline], rfl⟩
  · exact ⟨s.countReceived.countDropped, by rw [hline], rfl⟩
  · refine ⟨_, by rw [hline], ?_⟩
    split <;> rfl

/-- **What is drained does not reach the sink.** -/
theorem drain_sink (s : Intake) (queue : List Arrival) (hclock : OnClock queue) :
    ∃ t, drain s queue = .ok t ∧ t.hub.sink = s.hub.sink := by
  induction queue generalizing s with
  | nil => exact ⟨s, rfl, rfl⟩
  | cons a queue ih =>
    obtain ⟨t, ht, hsink⟩ := skim_sink s a (hclock a List.mem_cons_self)
    obtain ⟨u, hu, hsink'⟩ := ih t fun b hb => hclock b (List.mem_cons_of_mem a hb)
    refine ⟨u, ?_, hsink'.trans hsink⟩
    rw [drain, ht]
    exact hu

/-! ## the loop -/

/-- **The loop reads up to the last expected ending.** With no lines counted so far, the lines that
it takes off the queue are the shortest part with the expected number of endings, or all lines if
there are too few, and the rest is left in order. Its counts are those of the lines it took. The
sink takes in the events among them that belong to no run, so the times of the run stay as they
were, and every observer is told of all events among them. It succeeds iff there were enough
endings; otherwise it fails with the number of those that it saw. -/
theorem consume_upToEnding (expected : Nat) (shortage : Shortage) (hub : Hub)
    (queue : List Arrival) (hclock : OnClock queue) :
    let read := upToEnding expected queue
    let r := consume expected shortage { hub } queue
    queue = read ++ r.unread ∧
    r.intake.tally.received = read.countP (fun a => !isBlank a) ∧
    r.intake.tally.dropped = read.countP isMalformed ∧
    r.intake.tally.completed = endings read ∧
    r.intake.hub.sink = hub.sink.commitAll (applied read) ∧
    r.intake.hub.sink.started = hub.sink.started ∧
    r.intake.hub.sink.stopped = hub.sink.stopped ∧
    r.intake.hub.observers = hub.observers ∧
    (∀ i < hub.observers.size,
      r.intake.hub.seenBy i = hub.seenBy i ++ (decodedAll read).map Prod.snd) ∧
    (r.result = .ok () ↔ endings read = expected) ∧
    (endings read ≠ expected → r.unread = [] ∧
      r.result = .error (match shortage with
        | .closed => .streamClosed (endings read) expected
        | .deadline => .deadlineExceeded (endings read) expected)) := by
  intro read r
  have hr : r = Intake.reception { hub } expected shortage read queue :=
    consume_eq expected shortage { hub } queue fun a ha =>
      hclock a ((prefix_upToEnding expected queue).subset ha)
  have hle : 0 + endings read ≤ expected := by
    rw [endings_upToEnding, Nat.zero_add]
    exact Nat.min_le_left ..
  refine ⟨?_, ?_, ?_, ?_, ?_, ?_, ?_, ?_, ?_, ?_, ?_⟩
  · rw [hr]
    exact (upToEnding_append_drop expected queue).symm
  · rw [hr]
    exact Nat.zero_add _
  · rw [hr]
    exact Nat.zero_add _
  · rw [hr]
    exact Nat.zero_add _
  · rw [hr]
    rfl
  · rw [hr]
    exact (times_after { hub } read).1
  · rw [hr]
    exact (times_after { hub } read).2
  · rw [hr]
    rfl
  · rw [hr]
    exact fun i hi => seenBy_after { hub } read hi
  · rw [hr, ← Nat.zero_add (endings read)]
    exact result_reception { hub } shortage hle
  · intro hne
    have hlt : endings read < expected := by omega
    have hall : read = queue := upToEnding_eq_self hlt
    refine ⟨?_, ?_⟩
    · rw [hr]
      show queue.drop read.length = []
      rw [hall, List.drop_length]
    · rw [hr, Intake.reception]
      simp only [Nat.zero_add, if_neg (Nat.not_le_of_lt hlt)]
      rfl

/-- a blank line, a line that is no event, the start of a run, one ending, and one line more -/
def chatter : List Arrival :=
  [(1, " "), (2, "agent ready"), (3, "[\"startTestRun\"]"),
    (4, "[\"stopTest\",\"login\",[1,0,1,1]]\n"), (5, "[\"stopTestRun\"]")]

theorem consume_upToEnding_chatter :
    OnClock chatter ∧
      (consume 1 .closed { hub := Hub.empty } chatter).unread = chatter.drop 4 ∧
      (consume 1 .closed { hub := Hub.empty } chatter).intake.tally.received = 3 ∧
      (consume 1 .closed { hub := Hub.empty } chatter).intake.tally.dropped = 1 ∧
      (consume 1 .closed { hub := Hub.empty } chatter).result = .ok () := by
  have hclock : OnClock chatter := by
    unfold OnClock
    decide +kernel
  have hread : upToEnding 1 chatter = chatter.take 4 := by decide +kernel
  obtain ⟨hqueue, hreceived, hdropped, -, -, -, -, -, -, hresult, -⟩ :=
    consume_upToEnding 1 .closed Hub.empty chatter hclock
  rw [hread] at hqueue hreceived hdropped hresult
  have hsplit : chatter = chatter.take 4 ++ chatter.drop 4 := (List.take_append_drop 4 chatter).symm
  refine ⟨hclock, List.append_cancel_left (hqueue.symm.trans hsplit), ?_, ?_, ?_⟩
  · rw [hreceived]
    decide +kernel
  · rw [hdropped]
    decide +kernel
  · rw [hresult]
    decide +kernel

end LoadTest.Coordinator
