import LoadTest.Proofs.Coordinator.Stages
import LoadTest.Dispatch.Broker

/-!
# How a distributed run fails

A run fails because there is no port, because the broker gives no agents, because too little comes
of them, or because of one hit that starts beyond the clock, wherever it stands in what they send.

* `Error.IsRuntime`       failures that are not the caller's fault, and after which things go on
* `exists_late_iff`       a late line stops the loop, or is left to be drained
* `finish_eq_error`       what the loop and the drain can end with
* `run_failure`           what a run can end with
* `run_late_iff`          when it is a late line
-/

namespace LoadTest

/-- a failure of the run itself -/
def Error.IsRuntime (e : Error) : Prop := e.isInvalidInput = false ∧ e.isFatal = false

theorem Error.isFatal_of_isInvalidInput {e : Error} (h : e.isInvalidInput = true) :
    e.isFatal = false := by
  cases e <;> first | rfl | cases h

namespace Dispatch

theorem isRuntime_of_ask {endpoint : Endpoint} {patience : Duration} {peer : Peer} {e : Error}
    (h : ask endpoint patience peer = .error e) : e.IsRuntime := by
  cases peer with
  | refuses cause =>
    obtain rfl := Except.error.inj h
    exact ⟨rfl, rfl⟩
  | silent =>
    obtain rfl := Except.error.inj h
    exact ⟨rfl, rfl⟩
  | sends bytes =>
    change readAnswer endpoint bytes = .error e at h
    unfold readAnswer at h
    by_cases hempty : bytes = []
    · rw [if_pos hempty] at h
      obtain rfl := Except.error.inj h
      exact ⟨rfl, rfl⟩
    · rw [if_neg hempty] at h
      cases hline : Text.ofUtf8? (Text.firstLine 0x0A bytes) with
      | none =>
        simp only [hline] at h
        obtain rfl := Except.error.inj h
        exact ⟨rfl, rfl⟩
      | some line =>
        simp only [hline, readReply] at h
        cases hreply : Reply.parse? (Text.trim line.toList) with
        | none =>
          simp only [hreply] at h
          obtain rfl := Except.error.inj h
          exact ⟨rfl, rfl⟩
        | some reply =>
          simp only [hreply] at h
          cases reply with
          | dispatched workers => cases h
          | rejected reason =>
            obtain rfl := Except.error.inj h
            exact ⟨rfl, rfl⟩

end Dispatch

namespace Coordinator

theorem isRuntime_of_shortage (s : Shortage) (completed expected : Nat) :
    (s.error completed expected).IsRuntime := by
  cases s <;> exact ⟨rfl, rfl⟩

/-! ## the loop and the drain -/

/-- A late line in a queue stops the loop, or the loop ends well and leaves one behind. -/
theorem exists_late_iff (expected : Nat) (shortage : Shortage) (s : Intake)
    (queue : List Arrival) : (∃ a ∈ queue, IsLate a) ↔
      (consume expected shortage s queue).result = .error .clockOverflow ∨
      (consume expected shortage s queue).result = .ok () ∧
        ∃ a ∈ (consume expected shortage s queue).unread, IsLate a := by
  induction queue generalizing s with
  | nil =>
    rw [consume]
    split <;> simp [shortage_error_ne]
  | cons a queue ih =>
    rw [consume]
    by_cases henough : expected ≤ s.tally.completed
    · rw [if_pos henough]
      simp
    · rw [if_neg henough]
      by_cases hlate : IsLate a
      · rw [take_overflow s (ofText_late hlate)]
        exact iff_of_true ⟨a, List.mem_cons_self, hlate⟩ (.inl rfl)
      · rw [take_of_not_late s hlate, List.exists_mem_cons_iff, or_iff_right hlate]
        exact ih (s.after [a])

/-- the loop ends with a shortage or with a late line -/
theorem consume_eq_error {expected : Nat} {shortage : Shortage} {s : Intake}
    {queue : List Arrival} {e : Error} (h : (consume expected shortage s queue).result = .error e) :
    e.IsRuntime ∨ e = .clockOverflow := by
  induction queue generalizing s with
  | nil =>
    rw [consume] at h
    by_cases henough : expected ≤ s.tally.completed
    · rw [if_pos henough] at h
      cases h
    · rw [if_neg henough] at h
      obtain rfl := Except.error.inj h
      exact .inl (isRuntime_of_shortage ..)
  | cons a queue ih =>
    rw [consume] at h
    by_cases henough : expected ≤ s.tally.completed
    · rw [if_pos henough] at h
      cases h
    · rw [if_neg henough] at h
      by_cases hlate : IsLate a
      · rw [take_overflow s (ofText_late hlate)] at h
        obtain rfl := Except.error.inj h
        exact .inr rfl
      · rw [take_of_not_late s hlate] at h
        exact ih h

section
variable {expected : Nat} {world : Surroundings}

theorem finish_eq_error {e : Error} (h : finish world (gather expected world) = .error e) :
    e.IsRuntime ∨ e = .clockOverflow := by
  unfold finish at h
  cases hresult : (gather expected world).result with
  | error e' =>
    simp only [hresult] at h
    obtain rfl := Except.error.inj h
    exact consume_eq_error hresult
  | ok u =>
    simp only [hresult] at h
    exact .inr ((drain_late_iff _ _ e).1 h).1

/-- It does not matter where a late line stands. -/
theorem finish_late_iff : finish world (gather expected world) = .error .clockOverflow ↔
    ∃ a ∈ world.arrivals, IsLate a := by
  have hlate := exists_late_iff expected world.shortage { hub := startedHub world.startedAt }
    world.arrivals
  change _ ↔ (gather expected world).result = _ ∨ (gather expected world).result = _ ∧
    ∃ a ∈ (gather expected world).unread, IsLate a at hlate
  rw [hlate]
  unfold finish
  cases hresult : (gather expected world).result with
  | error e => simp
  | ok u => simp [drain_late_iff]

end

/-! ## runs -/

theorem exists_port {job : Job} {world : Surroundings} {report : Report}
    (h : run job world = .ok report) : ∃ port, world.port job.endpoint = .ok port := by
  cases hport : world.port job.endpoint with
  | ok port => exact ⟨port, rfl⟩
  | error cause =>
    unfold run at h
    cases hexpected : job.plan.expectedTotal with
    | error e =>
      simp only [hexpected] at h
      cases h
    | ok expected =>
      simp only [hexpected, hport] at h
      cases h

section
variable {job : Job} {world : Surroundings} {expected : Nat}
  (hexpected : job.plan.expectedTotal = .ok expected)
include hexpected

/-- **What a run can end with.** With a plan that can be counted, and a broker that is never the
caller's fault, a run fails of itself or with a late line. -/
theorem run_failure (hbroker : ∀ r e, world.broker r = .error e → e.IsRuntime) {e : Error}
    (h : run job world = .error e) : e.IsRuntime ∨ e = .clockOverflow := by
  unfold run at h
  cases hport : world.port job.endpoint with
  | error cause =>
    simp only [hexpected, hport] at h
    obtain rfl := Except.error.inj h
    exact .inl ⟨rfl, rfl⟩
  | ok port =>
    cases hworkers : world.broker (job.request port) with
    | error e' =>
      simp only [hexpected, hport, hworkers] at h
      obtain rfl := Except.error.inj h
      exact .inl (hbroker _ _ hworkers)
    | ok workers =>
      cases hfinish : finish world (gather expected world) with
      | error e' =>
        simp only [hexpected, hport, hworkers, hfinish] at h
        obtain rfl := Except.error.inj h
        exact finish_eq_error hfinish
      | ok s =>
        simp only [hexpected, hport, hworkers, hfinish] at h
        cases h

/-- The failure is a late line just if the agents have been started and one of their lines is late. -/
theorem run_late_iff (hbroker : ∀ r e, world.broker r = .error e → e.IsRuntime) :
    run job world = .error .clockOverflow ↔
      ∃ port workers, world.port job.endpoint = .ok port ∧
        world.broker (job.request port) = .ok workers ∧ ∃ a ∈ world.arrivals, IsLate a := by
  unfold run
  cases hport : world.port job.endpoint with
  | error cause => simp [hexpected]
  | ok port =>
    cases hworkers : world.broker (job.request port) with
    | error e =>
      have hne : e ≠ .clockOverflow := by
        rintro rfl
        cases (hbroker _ _ hworkers).2
      simp [hexpected, hworkers, hne]
    | ok workers =>
      rw [← @finish_late_iff expected world]
      cases hfinish : finish world (gather expected world) <;> simp [hexpected, hworkers, hfinish]

end

end Coordinator

end LoadTest
