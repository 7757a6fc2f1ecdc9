import Mathlib.Data.List.Induction
import Mathlib.Data.List.Nodup
import LoadTest.Sink

/-!
# What a sink holds is a grouping of its history

The buckets of a sink, and the index that finds them, are those of a declarative grouping of the
events by their keys.

* `Event.key?`          the key of an event that belongs to a bucket
* `History.keys`        the distinct keys in the order of their first events
* `History.bucket`      what the events of one key amount to
* `Sink.Groups`         a sink holds the grouping of a history
* `groups_commitAll`    a fresh sink that took in a history does
-/

namespace LoadTest

/-! ## keys -/

namespace Event

/-- a bucket is found by the test, the sizes of tier and cycle, and the worker -/
def key? : Event → Option BucketKey
  | startTest test status w => some ⟨test, status.currentUser, status.currentCycle, w⟩
  | stopTest test status w => some ⟨test, status.currentUser, status.currentCycle, w⟩
  | addSuccess test status w => some ⟨test, status.currentUser, status.currentCycle, w⟩
  | addFailure test _ status w => some ⟨test, status.currentUser, status.currentCycle, w⟩
  | addError test _ status w => some ⟨test, status.currentUser, status.currentCycle, w⟩
  | _ => none

def isSuccess (e : Event) : Bool := e.kind = .addSuccess

def failure? : Event → Option String
  | addFailure _ message _ _ => some message
  | _ => none

def error? : Event → Option String
  | addError _ message _ _ => some message
  | _ => none

/-- the start of a bucket that has the event as its first -/
def opening (t : Tick) (e : Event) : Instant := if e.isStopTest then t.again else t.now

/-- what an event does to its bucket -/
def touch (now : Instant) : Event → Bucket → Bucket
  | stopTest _ _ _, b => { b with stop := some now }
  | addSuccess _ _ _, b => { b with success := b.success + 1 }
  | addFailure _ message _ _, b => { b with failures := b.failures.push message }
  | addError _ message _ _, b => { b with errors := b.errors.push message }
  | _, b => b

end Event

namespace History

def keys (h : History) : List BucketKey := (h.filterMap fun te => te.2.key?).eraseDups

def forKey (h : History) (key : BucketKey) : History := h.filter fun te => te.2.key? = some key

def opening? (h : History) (key : BucketKey) : Option Instant :=
  (forKey h key).head?.map fun te => te.2.opening te.1

/-- what the events of one key amount to -/
def bucket (h : History) (key : BucketKey) : Bucket where
  key := key
  start := (opening? h key).getD 0
  stop := ((forKey h key).filter fun te => te.2.isStopTest).getLast?.map fun te => te.1.now
  success := (forKey h key).countP fun te => te.2.isSuccess
  failures := ((forKey h key).filterMap fun te => te.2.failure?).toArray
  errors := ((forKey h key).filterMap fun te => te.2.error?).toArray

/-! ### the distinct keys -/

theorem eraseDups_concat {α : Type} [BEq α] [LawfulBEq α] (l : List α) (a : α) :
    (l ++ [a]).eraseDups = if a ∈ l then l.eraseDups else l.eraseDups ++ [a] := by
  rw [List.eraseDups_append]
  by_cases h : a ∈ l
  · simp [List.removeAll, h]
  · simp [List.removeAll, h, List.eraseDups_cons]

theorem mem_eraseDups {α : Type} [BEq α] [LawfulBEq α] {l : List α} {a : α} :
    a ∈ l.eraseDups ↔ a ∈ l := by
  induction l using List.reverseRecOn with
  | nil => simp
  | append_singleton l b ih =>
    rw [eraseDups_concat]
    by_cases h : b ∈ l
    · rw [if_pos h, ih, List.mem_append, List.mem_singleton]
      exact ⟨.inl, fun hab => hab.elim id fun hab => hab ▸ h⟩
    · rw [if_neg h, List.mem_append, ih, List.mem_append]

theorem nodup_eraseDups {α : Type} [BEq α] [LawfulBEq α] (l : List α) : l.eraseDups.Nodup := by
  induction l using List.reverseRecOn with
  | nil => simp
  | append_singleton l b ih =>
    rw [eraseDups_concat]
    by_cases h : b ∈ l
    · rwa [if_pos h]
    · rw [if_neg h]
      exact List.nodup_append.2 ⟨ih, by simp, fun a ha c hc hac =>
        h (mem_eraseDups.1 (List.mem_singleton.1 hc ▸ hac ▸ ha))⟩

theorem mem_keys {h : History} {key : BucketKey} :
    key ∈ keys h ↔ ∃ te ∈ h, te.2.key? = some key := by
  rw [keys, mem_eraseDups, List.mem_filterMap]

theorem nodup_keys (h : History) : (keys h).Nodup := nodup_eraseDups _

theorem keys_concat_of_none (h : History) (te : Tick × Event) (hte : te.2.key? = none) :
    keys (h ++ [te]) = keys h := by
  have hlast : [te].filterMap (fun te => te.2.key?) = [] := by simp [hte]
  rw [keys, List.filterMap_append, hlast, List.append_nil]
  rfl

theorem keys_concat (h : History) (te : Tick × Event) {key : BucketKey}
    (hte : te.2.key? = some key) :
    keys (h ++ [te]) = if key ∈ keys h then keys h else keys h ++ [key] := by
  have hlast : [te].filterMap (fun te => te.2.key?) = [key] := by simp [hte]
  rw [keys, List.filterMap_append, hlast, eraseDups_concat]
  simp only [keys, mem_eraseDups]

/-! ### the events of a key -/

theorem forKey_concat (h : History) (te : Tick × Event) {key : BucketKey}
    (hte : te.2.key? = some key) : forKey (h ++ [te]) key = forKey h key ++ [te] := by
  rw [forKey, List.filter_append]
  simp [forKey, hte]

theorem forKey_concat_of_ne (h : History) (te : Tick × Event) {key : BucketKey}
    (hte : te.2.key? ≠ some key) : forKey (h ++ [te]) key = forKey h key := by
  rw [forKey, List.filter_append]
  simp [forKey, hte]

theorem forKey_eq_nil_iff {h : History} {key : BucketKey} : forKey h key = [] ↔ key ∉ keys h := by
  rw [mem_keys, forKey, List.filter_eq_nil_iff]
  simp

theorem bucket_concat_of_ne (h : History) (te : Tick × Event) {key : BucketKey}
    (hte : te.2.key? ≠ some key) : bucket (h ++ [te]) key = bucket h key := by
  simp only [bucket, opening?, forKey_concat_of_ne h te hte]

theorem bucket_concat (h : History) (t : Tick) {e : Event} {key : BucketKey}
    (he : e.key? = some key) :
    bucket (h ++ [(t, e)]) key =
      e.touch t.now { bucket h key with start := (opening? h key).getD (e.opening t) } := by
  have hkey : forKey (h ++ [(t, e)]) key = forKey h key ++ [(t, e)] := forKey_concat h (t, e) he
  have hstart : (opening? (h ++ [(t, e)]) key).getD 0 = (opening? h key).getD (e.opening t) := by
    rw [opening?, opening?, hkey]
    cases forKey h key <;> rfl
  simp only [bucket, hkey, hstart, List.filter_append, List.countP_append, List.filterMap_append]
  cases e <;>
    simp [Event.touch, Event.isStopTest, Event.isSuccess, Event.kind, Event.failure?, Event.error?,
      Event.key?] at he ⊢

theorem bucket_of_not_mem {h : History} {key : BucketKey} (hkey : key ∉ keys h)
    (start : Instant) :
    { bucket h key with start := (opening? h key).getD start } = ({ key, start } : Bucket) := by
  simp [bucket, opening?, forKey_eq_nil_iff.2 hkey]

theorem bucket_of_mem {h : History} {key : BucketKey} (hkey : key ∈ keys h) (start : Instant) :
    { bucket h key with start := (opening? h key).getD start } = bucket h key := by
  cases hl : forKey h key with
  | nil => exact absurd hkey (forKey_eq_nil_iff.1 hl)
  | cons te l => simp [bucket, opening?, hl]

end History

/-! ## sinks -/

namespace Sink

open History (keys bucket)

/-- The buckets are those of the grouping, and the index finds each of them at its position. -/
structure Groups (s : Sink) (h : History) : Prop where
  buckets_eq : s.buckets.toList = (keys h).map (bucket h)
  index_eq : ∀ (key : BucketKey) (i : Nat), s.index[key]? = some i ↔ (keys h)[i]? = some key

theorem groups_empty : empty.Groups [] where
  buckets_eq := rfl
  index_eq key i := by simp [empty, keys]

theorem commit_of_key (s : Sink) (t : Tick) {e : Event} {key : BucketKey}
    (he : e.key? = some key) :
    s.commit t e = s.update (e.opening t) key (e.touch t.now) := by
  cases e <;> first | (obtain rfl := Option.some.inj he; rfl) | cases he

theorem commit_of_no_key (s : Sink) (t : Tick) {e : Event} (he : e.key? = none) :
    (s.commit t e).buckets = s.buckets ∧ (s.commit t e).index = s.index := by
  cases e <;> first | exact ⟨rfl, rfl⟩ | cases he

namespace Groups
variable {s : Sink} {h : History} (hs : s.Groups h)
include hs

theorem size_eq : s.buckets.size = (keys h).length := by
  rw [← Array.length_toList, hs.buckets_eq, List.length_map]

theorem update_old (t : Tick) {e : Event} {key : BucketKey} (he : e.key? = some key) {i : Nat}
    (hi : s.index[key]? = some i) :
    Groups { s with buckets := s.buckets.modify i (e.touch t.now) } (h ++ [(t, e)]) := by
  have hget : (keys h)[i]? = some key := (hs.index_eq key i).1 hi
  have hmem : key ∈ keys h := List.mem_of_getElem? hget
  have hkeys : keys (h ++ [(t, e)]) = keys h := by
    rw [History.keys_concat h (t, e) he, if_pos hmem]
  refine ⟨?_, fun k j => by rw [hkeys]; exact hs.index_eq k j⟩
  rw [hkeys, Array.toList_modify, hs.buckets_eq]
  refine List.ext_getElem? fun j => ?_
  rw [List.getElem?_modify, List.getElem?_map, List.getElem?_map]
  cases hj : (keys h)[j]? with
  | none => rfl
  | some k =>
    by_cases hij : i = j
    · subst hij
      obtain rfl : key = k := Option.some.inj (hget.symm.trans hj)
      simp [History.bucket_concat h t he, History.bucket_of_mem hmem]
    · -- another position holds another key
      have hne : e.key? ≠ some k := by
        rw [he]
        rintro hk
        obtain rfl := Option.some.inj hk
        have hi := (List.getElem?_eq_some_iff.1 hget).1
        exact hij ((List.getElem?_inj hi (History.nodup_keys h)).1 (hget.trans hj.symm))
      simp [hij, History.bucket_concat_of_ne h (t, e) hne]

theorem update_new (t : Tick) {e : Event} {key : BucketKey} (he : e.key? = some key)
    (hnone : s.index[key]? = none) :
    Groups { s with
      buckets := s.buckets.push (e.touch t.now { key, start := e.opening t })
      index := s.index.insert key s.buckets.size } (h ++ [(t, e)]) := by
  have hmem : key ∉ keys h := fun hkey => by
    obtain ⟨i, hi⟩ := List.mem_iff_getElem?.1 hkey
    rw [(hs.index_eq key i).2 hi] at hnone
    cases hnone
  have hkeys : keys (h ++ [(t, e)]) = keys h ++ [key] := by
    rw [History.keys_concat h (t, e) he, if_neg hmem]
  constructor
  · have hold : (keys h).map (bucket (h ++ [(t, e)])) = (keys h).map (bucket h) := by
      refine List.map_congr_left fun k hk => History.bucket_concat_of_ne h _ ?_
      show e.key? ≠ some k
      rw [he]
      rintro hk'
      exact hmem (Option.some.inj hk' ▸ hk)
    rw [hkeys, Array.toList_push, hs.buckets_eq, List.map_append, hold, List.map_singleton,
      History.bucket_concat h t he, History.bucket_of_not_mem hmem]
  · intro k i
    rw [hkeys, Std.HashMap.getElem?_insert, hs.size_eq]
    by_cases hk : key = k
    · subst hk
      rw [if_pos (beq_self_eq_true key), Option.some.injEq]
      constructor
      · rintro rfl
        simp
      · intro hi
        by_contra hne
        have hlt : i < (keys h).length := by
          have := (List.getElem?_eq_some_iff.1 hi).1
          rw [List.length_append, List.length_singleton] at this
          omega
        rw [List.getElem?_append_left hlt] at hi
        exact hmem (List.mem_of_getElem? hi)
    · rw [if_neg (by simpa using hk), hs.index_eq]
      by_cases hlt : i < (keys h).length
      · rw [List.getElem?_append_left hlt]
      · rw [List.getElem?_eq_none (by omega)]
        simp only [reduceCtorEq, false_iff]
        intro hi
        rw [List.getElem?_append_right (by omega)] at hi
        exact hk (List.mem_singleton.1 (List.mem_of_getElem? hi)).symm

/-- **Committing an event keeps the grouping.** -/
theorem commit (t : Tick) (e : Event) : (s.commit t e).Groups (h ++ [(t, e)]) := by
  cases he : e.key? with
  | none =>
    obtain ⟨hbuckets, hindex⟩ := s.commit_of_no_key t he
    have hkeys := History.keys_concat_of_none h (t, e) he
    constructor
    · rw [hbuckets, hs.buckets_eq, hkeys]
      refine List.map_congr_left fun k _ => (History.bucket_concat_of_ne h _ ?_).symm
      show e.key? ≠ some k
      rw [he]
      exact nofun
    · rw [hindex, hkeys]
      exact hs.index_eq
  | some key =>
    rw [s.commit_of_key t he, update]
    cases hi : s.index[key]? with
    | some i => exact hs.update_old t he hi
    | none => exact hs.update_new t he hi

end Groups

/-- **A fresh sink groups its history.** -/
theorem groups_commitAll (h : History) : (empty.commitAll h).Groups h := by
  induction h using List.reverseRecOn with
  | nil => exact groups_empty
  | append_singleton h te ih =>
    rw [commitAll_append]
    exact ih.commit te.1 te.2

end Sink

end LoadTest
