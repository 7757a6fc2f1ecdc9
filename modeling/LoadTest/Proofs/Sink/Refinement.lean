import Mathlib.Algebra.Group.Int.Defs
import Mathlib.Algebra.GroupWithZero.Nat
import LoadTest.Proofs.Sink.Grouping

/-!
# A sink is a function of its history

Every part of the state of a sink is said by the events that it took in: the buckets, the hits, the
gauge and the count of bytes.

* `Bucket.Gathers`       a bucket holds what the events of its key say
* `Sink.hits_commitAll`, `Sink.sockets_commitAll`, `Sink.bytesReceived_commitAll`   the other parts
* `History.keys_prefix`  buckets are neither removed nor reordered
* `Sink.commitAll_eq_grouping`   all of it together
-/

namespace LoadTest

open History (keys forKey opening? bucket)

namespace Event

def hit? : Event → Option Hit
  | addHit hit => some hit
  | _ => none

def isOpen (e : Event) : Bool := e.kind = .socketOpen

def isClose (e : Event) : Bool := e.kind = .socketClose

def bytes : Event → Nat
  | socketMessage _ size _ => size.toNat
  | _ => 0

end Event

namespace History

def bytes (h : History) : Nat := (h.map fun te => te.2.bytes).sum

theorem forKey_append (a b : History) (key : BucketKey) :
    forKey (a ++ b) key = forKey a key ++ forKey b key := List.filter_append ..

theorem keys_prefix (a b : History) : keys a <+: keys (a ++ b) := by
  rw [keys, keys, List.filterMap_append, List.eraseDups_append]
  exact List.prefix_append ..

theorem start_bucket_append {a : History} {key : BucketKey} (hkey : key ∈ keys a) (b : History) :
    (bucket (a ++ b) key).start = (bucket a key).start := by
  cases hl : forKey a key with
  | nil => exact absurd hkey (forKey_eq_nil_iff.1 hl)
  | cons te l => simp [bucket, opening?, forKey_append, hl]

end History

/-! ## buckets -/

/-- A bucket starts with the first event of its key, ends with its last end, and holds its outcomes
in order. -/
structure Bucket.Gathers (b : Bucket) (h : History) : Prop where
  start_eq : (forKey h b.key).head?.map (fun te => te.2.opening te.1) = some b.start
  stop_eq : b.stop =
    ((forKey h b.key).filter fun te => te.2.isStopTest).getLast?.map fun te => te.1.now
  stop_eq_none_iff : b.stop = none ↔
    ∀ te ∈ h, te.2.key? = some b.key → te.2.isStopTest = false
  success_eq : b.success = (forKey h b.key).countP fun te => te.2.isSuccess
  failures_eq : b.failures.toList = (forKey h b.key).filterMap fun te => te.2.failure?
  errors_eq : b.errors.toList = (forKey h b.key).filterMap fun te => te.2.error?

theorem Bucket.gathers_bucket {h : History} {key : BucketKey} (hkey : key ∈ keys h) :
    (bucket h key).Gathers h where
  start_eq := by
    show opening? h key = some ((opening? h key).getD 0)
    rw [opening?]
    cases hl : forKey h key with
    | nil => exact absurd hkey (History.forKey_eq_nil_iff.1 hl)
    | cons te l => rfl
  stop_eq := rfl
  stop_eq_none_iff := by
    show Option.map _ _ = none ↔ _
    rw [Option.map_eq_none_iff, List.getLast?_eq_none_iff, List.filter_eq_nil_iff]
    constructor
    · intro hall te hte hkey
      have hstop := hall te (List.mem_filter.2 ⟨hte, decide_eq_true hkey⟩)
      exact Bool.eq_false_iff.2 hstop
    · intro hall te hte
      obtain ⟨hte, hkey⟩ := List.mem_filter.1 hte
      rw [hall te hte (of_decide_eq_true hkey)]
      exact Bool.false_ne_true
  success_eq := rfl
  failures_eq := rfl
  errors_eq := rfl

theorem Event.opening_le_again (t : Tick) (e : Event) : e.opening t ≤ t.again := by
  unfold opening
  split
  · exact Nat.le_refl _
  · exact Nat.le_add_right ..

section
variable {b : Bucket} {h : History} (hb : b.Gathers h)
  (hclock : h.Pairwise fun x y => x.1.again ≤ y.1.now)
include hb

/-- Where the clock stands still while an event is taken in, a bucket starts when its first event is
taken in. -/
theorem Bucket.Gathers.start_eq_now (hstill : ∀ te ∈ h, te.1.pause = 0) :
    (forKey h b.key).head?.map (fun te => te.1.now) = some b.start := by
  rw [← hb.start_eq]
  refine Option.map_congr fun te hte => ?_
  have hmem : te ∈ h := (List.mem_filter.1 (List.mem_of_head? hte)).1
  rw [Event.opening, Tick.again, hstill te hmem, Nat.add_zero, ite_self]

include hclock

/-- On a clock that does not go back, a bucket does not end before it starts, unless its first event
is also its last end. -/
theorem Bucket.Gathers.start_le_stop {stop : Instant} (hstop : b.stop = some stop) :
    b.start ≤ stop ∨ ∃ te, (forKey h b.key).head? = some te ∧ te.2.isStopTest = true ∧
      stop = te.1.now ∧ b.start = te.1.again := by
  rw [hb.stop_eq] at hstop
  obtain ⟨last, hlast, rfl⟩ := Option.map_eq_some_iff.1 hstop
  obtain ⟨first, hfirst, hstart⟩ := Option.map_eq_some_iff.1 hb.start_eq
  obtain ⟨hmem, hisStop⟩ := List.mem_filter.1 (List.mem_of_getLast? hlast)
  have hsorted : (forKey h b.key).Pairwise fun x y => x.1.again ≤ y.1.now := hclock.filter _
  cases hl : forKey h b.key with
  | nil =>
    rw [hl] at hmem
    cases hmem
  | cons te l =>
    rw [hl] at hfirst hmem hsorted
    obtain rfl : te = first := Option.some.inj hfirst
    -- the last end is the first event of the key, or it comes after the bucket was created
    rcases List.mem_cons.1 hmem with rfl | hlater
    · refine .inr ⟨last, rfl, hisStop, rfl, ?_⟩
      rw [← hstart, Event.opening, if_pos hisStop]
    · rw [← hstart]
      exact .inl (Nat.le_trans (te.2.opening_le_again te.1)
        ((List.pairwise_cons.1 hsorted).1 last hlater))

theorem Bucket.Gathers.start_le_stop_of_still (hstill : ∀ te ∈ h, te.1.pause = 0) {stop : Instant}
    (hstop : b.stop = some stop) : b.start ≤ stop := by
  rcases hb.start_le_stop hclock hstop with hle | ⟨te, hfirst, -, rfl, hstart⟩
  · exact hle
  · have hmem : te ∈ h := (List.mem_filter.1 (List.mem_of_head? hfirst)).1
    rw [hstart, Tick.again, hstill te hmem]
    exact Nat.le_refl _

end

namespace Sink

/-! ## the other parts -/

theorem hits_commit (s : Sink) (t : Tick) (e : Event) :
    (s.commit t e).hits.toList = s.hits.toList ++ e.hit?.toList := by
  cases e <;> simp [commit, Event.hit?]

theorem hits_commitAll (s : Sink) (h : History) :
    (s.commitAll h).hits.toList = s.hits.toList ++ h.filterMap fun te => te.2.hit? := by
  induction h generalizing s with
  | nil => simp [commitAll_nil]
  | cons te h ih =>
    rw [commitAll_cons, ih, hits_commit, List.append_assoc]
    cases hte : te.2.hit? <;> simp [hte]

theorem sockets_commit (s : Sink) (t : Tick) (e : Event) :
    (s.commit t e).sockets =
      s.sockets + (if e.isOpen then 1 else 0) - (if e.isClose then 1 else 0) := by
  cases e <;> simp [commit, Event.isOpen, Event.isClose, Event.kind]

theorem sockets_commitAll (s : Sink) (h : History) :
    (s.commitAll h).sockets =
      s.sockets + h.countP (fun te => te.2.isOpen) - h.countP (fun te => te.2.isClose) := by
  induction h generalizing s with
  | nil => simp [commitAll_nil]
  | cons te h ih =>
    rw [commitAll_cons, ih, sockets_commit, List.countP_cons, List.countP_cons]
    split <;> split <;> push_cast <;> omega

theorem bytesReceived_commit (s : Sink) (t : Tick) (e : Event)
    (hs : s.bytesReceived ≤ byteLimit) :
    (s.commit t e).bytesReceived = min byteLimit (s.bytesReceived + e.bytes) := by
  cases e <;> simp [commit, Event.bytes, hs]

theorem bytesReceived_commitAll (s : Sink) (h : History) (hs : s.bytesReceived ≤ byteLimit) :
    (s.commitAll h).bytesReceived = min byteLimit (s.bytesReceived + History.bytes h) := by
  induction h generalizing s with
  | nil => simp [commitAll_nil, History.bytes, hs]
  | cons te h ih =>
    have hstep := bytesReceived_commit s te.1 te.2 hs
    have hsum : History.bytes (te :: h) = te.2.bytes + History.bytes h := rfl
    rw [commitAll_cons, ih _ (by omega), hstep, hsum]
    omega

/-! ## all parts -/

theorem index_eq_some_iff {s : Sink} {h : History} (hs : s.Groups h) {key : BucketKey} {i : Nat} :
    s.index[key]? = some i ↔ ∃ b, s.buckets[i]? = some b ∧ b.key = key := by
  rw [hs.index_eq, ← Array.getElem?_toList, hs.buckets_eq, List.getElem?_map]
  cases (keys h)[i]? with
  | none => simp
  | some k => simp [bucket]

/-- the bucket at a position keeps its key and its start -/
theorem bucket_persists {h more : History} {i : Nat} {b : Bucket}
    (hb : (empty.commitAll h).buckets[i]? = some b) :
    ∃ b', (empty.commitAll (h ++ more)).buckets[i]? = some b' ∧ b'.key = b.key ∧
      b'.start = b.start := by
  rw [← Array.getElem?_toList, (groups_commitAll h).buckets_eq, List.getElem?_map] at hb
  obtain ⟨key, hkey, rfl⟩ := Option.map_eq_some_iff.1 hb
  have hkey' : (keys (h ++ more))[i]? = some key := by
    obtain ⟨later, hlater⟩ := History.keys_prefix h more
    rw [← hlater, List.getElem?_append_left (List.getElem?_eq_some_iff.1 hkey).1]
    exact hkey
  refine ⟨bucket (h ++ more) key, ?_, rfl,
    History.start_bucket_append (List.mem_of_getElem? hkey) more⟩
  rw [← Array.getElem?_toList, (groups_commitAll _).buckets_eq, List.getElem?_map, hkey']
  rfl

/-- the gauge of a fresh sink is not further from zero than the number of events -/
theorem sockets_bounded (h : History) :
    -(h.length : Int) ≤ (empty.commitAll h).sockets ∧
      (empty.commitAll h).sockets ≤ h.length := by
  have hopen := List.countP_le_length (p := fun te : Tick × Event => te.2.isOpen) (l := h)
  have hclose := List.countP_le_length (p := fun te : Tick × Event => te.2.isClose) (l := h)
  have hzero : empty.sockets = 0 := rfl
  rw [sockets_commitAll, hzero]
  omega

theorem success_bounded {h : History} {b : Bucket} (hb : b.Gathers h) : b.success ≤ h.length := by
  rw [hb.success_eq]
  exact Nat.le_trans List.countP_le_length (List.length_filter_le ..)

end Sink

end LoadTest
