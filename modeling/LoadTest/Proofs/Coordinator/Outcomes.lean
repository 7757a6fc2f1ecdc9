import LoadTest.Proofs.Coordinator.Reception
import LoadTest.Proofs.Event.Clock

/-!
# What can become of a line

A line is blank, or it is dropped, or its event is taken in, unless it is a hit that starts beyond
the clock. Such a line ends the program.

* `IsLate`             such a line
* `take_skim_cases`    what becomes of one line
* `consume_late_iff`, `drain_late_iff`   a queue that holds a late line where it is read
* `line_outcomes`      all outcomes, for one line and for a queue
-/

namespace LoadTest.Coordinator

def IsLate (a : Arrival) : Prop := Event.IsLateHit (Text.trimmed a.2)

theorem isLate_iff (a : Arrival) :
    IsLate a ↔ Event.ofLine (Text.trimmed a.2) = .error .clockOverflow :=
  (Event.ofLine_overflow_iff _).symm

theorem ofText_late {a : Arrival} (h : IsLate a) : Line.ofText a.2 = .clockOverflow := by
  have hline := (isLate_iff a).1 h
  have hblank : Text.trimmed a.2 ≠ "" := by
    intro hblank
    rw [hblank, ofLine_empty] at hline
    cases hline
  simp only [Line.ofText, if_neg hblank, hline]

/-! ## one line -/

theorem take_overflow (s : Intake) {a : Arrival} (h : Line.ofText a.2 = .clockOverflow) :
    s.take a = .error .clockOverflow := by
  rw [Intake.take, h]

theorem skim_overflow (s : Intake) {a : Arrival} (h : Line.ofText a.2 = .clockOverflow) :
    s.skim a = .error .clockOverflow := by
  rw [Intake.skim, h]

theorem take_of_not_late (s : Intake) {a : Arrival} (h : ¬ IsLate a) :
    s.take a = .ok (s.after [a]) :=
  s.take_eq a fun hline => h ((isLate_iff a).2 hline)

theorem skim_of_not_late (s : Intake) {a : Arrival} (h : ¬ IsLate a) : ∃ t, s.skim a = .ok t := by
  obtain ⟨t, ht, -⟩ := skim_sink s a fun hline => h ((isLate_iff a).2 hline)
  exact ⟨t, ht⟩

theorem take_ok {s t : Intake} {a : Arrival} (h : s.take a = .ok t) : t = s.after [a] := by
  by_cases hlate : IsLate a
  · rw [take_overflow s (ofText_late hlate)] at h
    cases h
  · rw [take_of_not_late s hlate] at h
    exact (Except.ok.inj h).symm

/-- draining a line changes two counts and nothing in the sink -/
theorem skim_ok {s t : Intake} {a : Arrival} (h : s.skim a = .ok t) :
    t.hub.sink = s.hub.sink ∧
      t.tally = { (s.after [a]).tally with completed := s.tally.completed } := by
  by_cases hlate : IsLate a
  · rw [skim_overflow s (ofText_late hlate)] at h
    cases h
  have hline : Event.ofLine (Text.trimmed a.2) ≠ .error .clockOverflow :=
    fun hline => hlate ((isLate_iff a).2 hline)
  unfold Intake.skim at h
  rcases ofText_cases a hline with ⟨hkind, hblank, hnone⟩ | ⟨hkind, hblank, hnone⟩ |
      ⟨e, hkind, hblank, he⟩ <;> rw [hkind] at h <;> obtain rfl := Except.ok.inj h
  · refine ⟨rfl, ?_⟩
    simp [Intake.after, hblank, isMalformed]
  · refine ⟨rfl, ?_⟩
    simp [Intake.after, hblank, hnone, isMalformed, Intake.countReceived, Intake.countDropped]
  · have hcounts : (s.countReceived.tally : Tally) =
        { (s.after [a]).tally with completed := s.tally.completed } := by
      simp [Intake.after, hblank, he, isMalformed, Intake.countReceived]
    by_cases hrun : e.isRunEvent
    · rw [if_pos hrun]
      exact ⟨rfl, hcounts⟩
    · rw [if_neg hrun]
      exact ⟨rfl, hcounts⟩

theorem take_skim_cases (s : Intake) (a : Arrival) :
    (Text.trimmed a.2 = "" ∧ s.take a = .ok s ∧ s.skim a = .ok s) ∨
    (Event.ofLine (Text.trimmed a.2) = .error .malformed ∧
      s.take a = .ok s.countReceived.countDropped ∧ s.skim a = .ok s.countReceived.countDropped) ∨
    (∃ e, Event.ofLine (Text.trimmed a.2) = .ok e ∧
      s.take a = .ok (s.countReceived.takeEvent a.1 e) ∧
      s.skim a = .ok (if e.isRunEvent then s.countReceived.forward e else s.countReceived)) ∨
    (IsLate a ∧ s.take a = .error .clockOverflow ∧ s.skim a = .error .clockOverflow) := by
  by_cases hblank : Text.trimmed a.2 = ""
  · have hline : Line.ofText a.2 = .blank := if_pos hblank
    refine .inl ⟨hblank, ?_, ?_⟩
    · rw [Intake.take, hline]
    · rw [Intake.skim, hline]
  cases h : Event.ofLine (Text.trimmed a.2) with
  | ok e =>
    have hline : Line.ofText a.2 = .event e := by simp only [Line.ofText, if_neg hblank, h]
    refine .inr (.inr (.inl ⟨e, rfl, ?_, ?_⟩))
    · rw [Intake.take, hline]
    · rw [Intake.skim, hline]
  | error fault =>
    cases fault with
    | malformed =>
      have hline : Line.ofText a.2 = .malformed := by simp only [Line.ofText, if_neg hblank, h]
      refine .inr (.inl ⟨rfl, ?_, ?_⟩)
      · rw [Intake.take, hline]
      · rw [Intake.skim, hline]
    | clockOverflow =>
      have hlate : IsLate a := (isLate_iff a).2 h
      have hline := ofText_late hlate
      exact .inr (.inr (.inr ⟨hlate, take_overflow s hline, skim_overflow s hline⟩))

/-! ## queues -/

theorem shortage_error_ne (s : Shortage) (completed expected : Nat) :
    s.error completed expected ≠ .clockOverflow := by
  cases s <;> exact nofun

theorem consume_late_iff (expected : Nat) (shortage : Shortage) (s : Intake)
    (queue : List Arrival) :
    (consume expected shortage s queue).result = .error .clockOverflow ↔
      ∃ a ∈ upToEnding (expected - s.tally.completed) queue, IsLate a := by
  induction queue generalizing s with
  | nil =>
    rw [upToEnding_nil, consume]
    split <;> simp [shortage_error_ne]
  | cons a queue ih =>
    rw [consume]
    by_cases henough : expected ≤ s.tally.completed
    · rw [if_pos henough, Nat.sub_eq_zero_of_le henough, upToEnding_zero]
      simp
    · rw [if_neg henough, upToEnding_cons (Nat.sub_pos_of_lt (Nat.lt_of_not_le henough))]
      by_cases hlate : IsLate a
      · -- the line is read, since an ending is still missing
        rw [take_overflow s (ofText_late hlate)]
        exact ⟨fun _ => ⟨a, List.mem_cons_self, hlate⟩, fun _ => rfl⟩
      · rw [take_of_not_late s hlate]
        show (consume expected shortage (s.after [a]) queue).result = _ ↔ _
        rw [ih, Intake.completed_after_singleton, Nat.sub_add_eq, List.exists_mem_cons_iff]
        exact (or_iff_right hlate).symm

theorem drain_late_iff (s : Intake) (queue : List Arrival) (e : Error) :
    drain s queue = .error e ↔ e = .clockOverflow ∧ ∃ a ∈ queue, IsLate a := by
  induction queue generalizing s with
  | nil => simp [drain]
  | cons a queue ih =>
    rw [drain]
    by_cases hlate : IsLate a
    · rw [skim_overflow s (ofText_late hlate)]
      simp [hlate, eq_comm]
    · obtain ⟨t, ht⟩ := skim_of_not_late s hlate
      rw [ht]
      show drain t queue = _ ↔ _
      rw [ih, List.exists_mem_cons_iff, or_iff_right hlate]

/-- **What can become of a line.** Every line is skipped as blank, or counted and dropped with
nothing else changed, or taken in with its event, unless it is a hit with a start from `2 ^ 63`
seconds on, behind nothing that keeps it from being read. Only such a line, where it is read, keeps
the loop from its own end, and it keeps the rest of a queue from being drained. -/
theorem line_outcomes (s : Intake) (a : Arrival) (queue : List Arrival) :
    ((Text.trimmed a.2 = "" ∧ s.take a = .ok s ∧ s.skim a = .ok s) ∨
      (Event.ofLine (Text.trimmed a.2) = .error .malformed ∧
        ∃ t, t.hub = s.hub ∧ t.tally.received = s.tally.received + 1 ∧
          t.tally.dropped = s.tally.dropped + 1 ∧ t.tally.completed = s.tally.completed ∧
          s.take a = .ok t ∧ s.skim a = .ok t) ∨
      (∃ e, Event.ofLine (Text.trimmed a.2) = .ok e ∧
        s.take a = .ok (s.countReceived.takeEvent a.1 e) ∧
        s.skim a = .ok (if e.isRunEvent then s.countReceived.forward e else s.countReceived)) ∨
      (Event.IsLateHit (Text.trimmed a.2) ∧ s.take a = .error .clockOverflow ∧
        s.skim a = .error .clockOverflow)) ∧
    (∀ text : String, Event.ofLine text = .error .clockOverflow ↔ Event.IsLateHit text) ∧
    (∀ (expected : Nat) (shortage : Shortage),
      (consume expected shortage s queue).result = .error .clockOverflow ↔
        ∃ a ∈ upToEnding (expected - s.tally.completed) queue,
          Event.IsLateHit (Text.trimmed a.2)) ∧
    ∀ e : Error, drain s queue = .error e ↔
      e = .clockOverflow ∧ ∃ a ∈ queue, Event.IsLateHit (Text.trimmed a.2) := by
  refine ⟨?_, Event.ofLine_overflow_iff, fun expected shortage => ?_, drain_late_iff s queue⟩
  · rcases take_skim_cases s a with hblank | ⟨hline, htake, hskim⟩ | hevent | hlate
    · exact .inl hblank
    · exact .inr (.inl ⟨hline, s.countReceived.countDropped, rfl, rfl, rfl, rfl, htake, hskim⟩)
    · exact .inr (.inr (.inl hevent))
    · exact .inr (.inr (.inr hlate))
  · exact consume_late_iff expected shortage s queue

/-- a hit that starts ten to the power 19 seconds after the epoch -/
def lateHit : String :=
  "\x7b\"event\":\"add_hit\",\"url\":\"u\",\"method\":\"GET\",\"http_status\":200," ++
    "\"started\":1e19,\"elapsed\":0.5,\"status\":[1,1,1,1]\x7d"

theorem line_outcomes_lateHit :
    let s : Intake := {}
    s.take (0, lateHit) = .error .clockOverflow ∧ s.skim (0, lateHit) = .error .clockOverflow := by
  intro s
  have hline : Line.ofText lateHit = .clockOverflow := by decide +kernel
  exact ⟨take_overflow s hline, skim_overflow s hline⟩

end LoadTest.Coordinator
