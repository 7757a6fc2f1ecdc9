import LoadTest.Proofs.Event.Fields
import LoadTest.Proofs.Event.Wire

/-!
# Hits read back from their lines

The times of a hit are written as doubles, so they need not come back as they were, or at all.
Everything else of a hit does, whatever stands in the places of the times.

* `Hit.Identity`             what a hit is but for its times
* `Hit.timed`                a hit with other times
* `Draft.putMembers_hit`     reading the members of a hit, the times where they stand
* `Event.ofJson_hit_iff`     a hit is read back from its record as soon as its times can be read
* `Event.ofLine_hit_iff`     and from its line
-/

namespace LoadTest

open WireFault (demand)

/-! ## what a hit is but for its times -/

structure Hit.Identity where
  url : String
  method : String
  httpStatus : UInt16
  status : Status
  worker : Option String
deriving DecidableEq

namespace Hit

def identity (h : Hit) : Identity := ⟨h.url, h.method, h.httpStatus, h.status, h.worker⟩

def timed (h : Hit) (started : Int) (elapsed : Duration) : Hit := { h with started, elapsed }

theorem identity_timed (h : Hit) (started : Int) (elapsed : Duration) :
    (h.timed started elapsed).identity = h.identity := rfl

end Hit

/-! ## members -/

theorem httpStatus?_natural (n : UInt16) : httpStatus? (.natural n.toNat) = some n := by
  have hnat : n.toUInt64.toNat = n.toNat := UInt16.toNat_toUInt64 n
  have hread : (Json.natural n.toNat).natural? = some n.toUInt64 := by
    rw [← hnat]
    exact Json.natural?_natural n.toUInt64
  have hlt : n.toUInt64 < 65536 := by
    rw [UInt64.lt_iff_toNat_lt, hnat]
    exact n.toNat_lt
  rw [httpStatus?, hread, Option.bind_some, if_pos hlt, UInt16.toUInt16_toUInt64]

namespace Draft

section
variable (d : Draft)

theorem put_url (hd : d.url = none) (url : String) :
    d.put .url (.string url) = .ok { d with url := some url } := by
  rw [put, hd]
  rfl

theorem put_method (hd : d.method = none) (method : String) :
    d.put .method (.string method) = .ok { d with method := some method } := by
  rw [put, hd]
  rfl

theorem put_httpStatus (hd : d.httpStatus = none) (n : UInt16) :
    d.put .httpStatus (.natural n.toNat) = .ok { d with httpStatus := some n } := by
  rw [put, hd, httpStatus?_natural]
  rfl

theorem put_started (hd : d.started = none) (v : Json) :
    d.put .started v = (moment v).map fun x => { d with started := some x } := by
  rw [put, if_pos hd]

theorem put_elapsed (hd : d.elapsed = none) (v : Json) :
    d.put .elapsed v = (demand (span? v)).map fun x => { d with elapsed := some x } := by
  rw [put, hd]
  cases span? v <;> rfl

end

/-- **The members of a hit are read up to its times**, whatever is written there: the draft is that of
the hit at the times that are read. -/
theorem putMembers_hit (h : Hit) :
    putMembers .addHit {} ((Event.addHit h).members.map fun m => (some m.1, m.2)) =
      (moment (.float h.startedSeconds)).bind fun started =>
        (demand (span? (.float h.elapsed.seconds))).map fun elapsed =>
          (Event.addHit (h.timed started elapsed)).draft := by
  refine (putMembers_cons rfl (put_url _ rfl h.url)).trans ?_
  refine (putMembers_cons rfl (put_method _ rfl h.method)).trans ?_
  refine (putMembers_cons rfl (put_httpStatus _ rfl h.httpStatus)).trans ?_
  refine (putMembers_put (f := .started) rfl).trans ?_
  rw [put_started _ rfl]
  cases moment (.float h.startedSeconds) with
  | error fault => rfl
  | ok started =>
    show putMembers .addHit _ ((some "elapsed", _) :: _) = _
    refine (putMembers_put (f := .elapsed) rfl).trans ?_
    rw [put_elapsed _ rfl]
    cases demand (span? (.float h.elapsed.seconds)) with
    | error fault => rfl
    | ok elapsed =>
      show putMembers .addHit _ ((some "status", _) :: _) = _
      refine (putMembers_cons rfl (put_status _ rfl h.status)).trans ?_
      exact Event.putMembers_workerMember _ _ rfl h.worker

end Draft

/-! ## records and lines -/

theorem exists_span_of_moment {v : Json} {started : Int} (h : moment v = .ok started) :
    ∃ d, span? v = some d := by
  rw [moment] at h
  cases hspan : span? v with
  | some d => exact ⟨d, rfl⟩
  | none =>
    rw [hspan] at h
    cases h

theorem isLeaf_float {x : Float} {d : Duration} (h : span? (.float x) = some d) :
    Json.IsLeaf (.float x) := by
  rw [Json.float] at h ⊢
  split at h
  · next n hn =>
    obtain ⟨y, hy, -⟩ := Option.bind_eq_some_iff.1 h
    have hy : n.float? = some y := hy
    refine ⟨?_, Nat.zero_le 1⟩
    simp [Json.isSound, hy]
  · cases h

namespace Event

theorem isReadable_hit {h : Hit} {started elapsed : Duration}
    (hstarted : span? (.float h.startedSeconds) = some started)
    (helapsed : span? (.float h.elapsed.seconds) = some elapsed) :
    (addHit h).toJson.isReadable = true := by
  have hstring := Json.isLeaf_string
  have hworker := isLeaf_workerMember h.worker
  have hcode : Json.IsLeaf (.natural h.httpStatus.toNat) := by
    rw [← UInt16.toNat_toUInt64]
    exact Json.isLeaf_natural h.httpStatus.toUInt64
  refine Json.isReadable_record fun m hm => ?_
  simp only [members, List.mem_cons] at hm
  grind [isLeaf_float, isLeaf_status]

/-- what stands beside the tag of a hit is read as soon as its times are -/
theorem ofUntagged_hit (h : Hit) :
    ofUntagged .addHit (.members ((addHit h).members.map fun m => (some m.1, m.2))) =
      (moment (.float h.startedSeconds)).bind fun started =>
        (demand (span? (.float h.elapsed.seconds))).map fun elapsed =>
          addHit (h.timed started elapsed) := by
  have hconclude (started : Int) (elapsed : Duration) :
      conclude .addHit (addHit (h.timed started elapsed)).draft =
        .ok (addHit (h.timed started elapsed)) := by
    have hfinish := finish?_draft (addHit (h.timed started elapsed))
    rw [conclude]
    change (addHit (h.timed started elapsed)).draft.finish? .addHit = _ at hfinish
    rw [hfinish]
  rw [ofUntagged_members, Draft.putMembers_hit]
  cases moment (.float h.startedSeconds) with
  | error fault => rfl
  | ok started =>
    cases demand (span? (.float h.elapsed.seconds)) with
    | error fault => rfl
    | ok elapsed => exact hconclude started elapsed

/-- **A hit is read back from its record as soon as its times can be read**, and then all else of it
is as it was. -/
theorem ofJson_hit_iff {h : Hit} {e : Event} : ofJson (addHit h).toJson = .ok e ↔
    ∃ started elapsed, moment (.float h.startedSeconds) = .ok started ∧
      span? (.float h.elapsed.seconds) = some elapsed ∧ e = .addHit (h.timed started elapsed) := by
  have hbeside : ofUntagged .addHit (.members ((addHit h).members.map fun m => (some m.1, m.2))) =
      .ok e ↔ ∃ started elapsed, moment (.float h.startedSeconds) = .ok started ∧
        span? (.float h.elapsed.seconds) = some elapsed ∧ e = .addHit (h.timed started elapsed) := by
    rw [ofUntagged_hit]
    cases moment (.float h.startedSeconds) with
    | error fault => simp [Except.bind]
    | ok started =>
      cases span? (.float h.elapsed.seconds) with
      | none => simp [Except.bind, Except.map, demand]
      | some elapsed => simp [Except.bind, Except.map, demand, eq_comm]
  rw [← hbeside]
  by_cases hread : (addHit h).toJson.isReadable = true
  · rw [ofJson_of_isReadable hread]
    rfl
  · rw [ofJson, if_neg hread, hbeside]
    constructor
    · intro hfalse
      cases hfalse
    · rintro ⟨started, elapsed, hstarted, helapsed, rfl⟩
      obtain ⟨d, hd⟩ := exists_span_of_moment hstarted
      exact absurd (isReadable_hit hd helapsed) hread

/-- **A hit is read back from its line as soon as its times can be read**, and then all else of it is
as it was, whatever its texts are. -/
theorem ofLine_hit_iff {h : Hit} {e : Event} : ofLine (addHit h).line = .ok e ↔
    ∃ started elapsed, moment (.float h.startedSeconds) = .ok started ∧
      span? (.float h.elapsed.seconds) = some elapsed ∧ e = .addHit (h.timed started elapsed) := by
  rw [ofLine_eq_ofJson (trimEnd_line _), ofJson_hit_iff]

end Event

end LoadTest
