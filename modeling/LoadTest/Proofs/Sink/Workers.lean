import Mathlib.Algebra.BigOperators.Group.List.Basic
import Mathlib.Algebra.Ring.Int.Defs
import LoadTest.Proofs.Run.Interleaving
import LoadTest.Proofs.Sink.Refinement
import LoadTest.Proofs.Sink.Totals
import LoadTest.Sink.Summary

/-!
# Workers do not interfere

What a sink holds of one worker is what it would hold if nobody else had reported anything. So the
totals of workers that report together are the sums of what each of them alone comes to.

* `Bucket.Account`          what a bucket says apart from its times
* `Sink.accounts_commitAll` the accounts are a function of the events
* `Sink.accounts_of_worker` those of one worker are a function of its events
* `Apart`                   streams of different workers that arrive in one order
* `Apart.filter_worker`     each stream is found again
* `Apart.sum_accounts`, `Apart.sum_events`   what is counted over accounts and over events adds up
* `workers_apart`           all of it together
-/

namespace LoadTest

open History (keys forKey bucket)

/-! ## accounts -/

/-- what a bucket says apart from its times -/
structure Bucket.Account where
  key : BucketKey
  success : Nat
  failures : List String
  errors : List String
  isFinished : Bool
deriving DecidableEq, Repr

namespace Bucket

def account (b : Bucket) : Account :=
  ⟨b.key, b.success, b.failures.toList, b.errors.toList, b.isFinished⟩

def Account.ofEvents (es : List Event) (key : BucketKey) : Account where
  key := key
  success := (es.filter fun e => e.key? = some key).countP Event.isSuccess
  failures := (es.filter fun e => e.key? = some key).filterMap Event.failure?
  errors := (es.filter fun e => e.key? = some key).filterMap Event.error?
  isFinished := (es.filter fun e => e.key? = some key).any Event.isStopTest

end Bucket

open Bucket (Account)

namespace History

def events (h : History) : List Event := h.map Prod.snd

theorem events_cons (te : Tick × Event) (h : History) : events (te :: h) = te.2 :: h.events := rfl

theorem filter_events (p : Event → Bool) (h : History) :
    h.events.filter p = events (h.filter fun te => p te.2) := List.filter_map

theorem events_forKey (h : History) (key : BucketKey) :
    (forKey h key).map Prod.snd = h.events.filter fun e => e.key? = some key := by
  rw [events, List.filter_map]
  rfl

theorem keys_eq (h : History) : keys h = (h.events.filterMap Event.key?).eraseDups := by
  rw [keys, events, List.filterMap_map]
  rfl

theorem account_bucket (h : History) (key : BucketKey) :
    (bucket h key).account = .ofEvents h.events key := by
  have hfinished : ∀ l : History, ((l.filter fun te => te.2.isStopTest).getLast?.map
      fun te => te.1.now).isSome = (l.map Prod.snd).any Event.isStopTest := by
    intro l
    rw [Option.isSome_map, Bool.eq_iff_iff, List.getLast?_isSome, ne_eq,
      List.filter_eq_nil_iff, List.any_map, List.any_eq_true]
    simp
  simp only [Bucket.account, Account.ofEvents, ← events_forKey, List.countP_map,
    List.filterMap_map, bucket, Bucket.isFinished, hfinished]
  rfl

end History

def Sink.accounts (s : Sink) : List Account := s.buckets.toList.map Bucket.account

/-- The accounts of a sink are a function of the events that it took in. -/
theorem Sink.accounts_commitAll (h : History) : (empty.commitAll h).accounts =
    (h.events.filterMap Event.key?).eraseDups.map (Account.ofEvents h.events) := by
  rw [accounts, (groups_commitAll h).buckets_eq, List.map_map, History.keys_eq]
  exact List.map_congr_left fun key _ => History.account_bucket h key

/-! ## one worker -/

namespace Event

/-- the key of an event names its worker -/
theorem worker_of_key? {e : Event} {key : BucketKey} (h : e.key? = some key) :
    key.worker = e.worker := by
  cases e <;> first | (obtain rfl := Option.some.inj h; rfl) | cases h

theorem filterMap_key?_filter (es : List Event) (w : Option String) :
    (es.filter fun e => e.worker = w).filterMap key? =
      (es.filterMap key?).filter fun key => key.worker = w := by
  induction es with
  | nil => rfl
  | cons e es ih =>
    cases hkey : e.key? with
    | none =>
      rw [List.filterMap_cons_none hkey, ← ih]
      by_cases hw : e.worker = w <;> simp [hw, hkey]
    | some key =>
      have hworker := worker_of_key? hkey
      rw [List.filterMap_cons_some hkey]
      by_cases hw : e.worker = w <;> simp [hworker, hw, hkey, ih]

end Event

theorem History.filter_eraseDups {α : Type} [BEq α] [LawfulBEq α] (p : α → Bool) (l : List α) :
    (l.filter p).eraseDups = l.eraseDups.filter p := by
  induction l using List.reverseRecOn with
  | nil => rfl
  | append_singleton l a ih =>
    rw [eraseDups_concat, List.filter_append]
    by_cases hp : p a = true
    · rw [List.filter_singleton, hp, cond_true, eraseDups_concat, ih]
      by_cases ha : a ∈ l
      · rw [if_pos ha, if_pos (List.mem_filter.2 ⟨ha, hp⟩)]
      · rw [if_neg ha, if_neg fun hmem => ha (List.mem_filter.1 hmem).1, List.filter_append,
          List.filter_singleton, hp, cond_true]
    · rw [List.filter_singleton, Bool.eq_false_iff.2 hp, cond_false, List.append_nil, ih]
      split
      · rfl
      · rw [List.filter_append, List.filter_singleton, Bool.eq_false_iff.2 hp, cond_false,
          List.append_nil]

/-- what the events of one key amount to is said by the events of its worker -/
theorem Bucket.Account.ofEvents_filter (es : List Event) {key : BucketKey} {w : Option String}
    (hkey : key.worker = w) : ofEvents (es.filter fun e => e.worker = w) key = ofEvents es key := by
  have hown : (es.filter fun e => e.worker = w).filter (fun e => e.key? = some key) =
      es.filter fun e => e.key? = some key := by
    rw [List.filter_filter]
    refine List.filter_congr fun e _ => ?_
    rw [Bool.and_eq_left_iff_imp]
    intro he
    rw [← hkey, Event.worker_of_key? (of_decide_eq_true he), decide_eq_true rfl]
  simp only [ofEvents, hown]

namespace Sink

/-- **What a sink holds of one worker** is what a fresh one holds that takes in only what this
worker reports, at whatever times. -/
theorem accounts_of_worker {h alone : History} {w : Option String}
    (halone : alone.events = h.events.filter fun e => e.worker = w) :
    (empty.commitAll h).accounts.filter (fun a => a.key.worker = w) =
      (empty.commitAll alone).accounts := by
  rw [accounts_commitAll, accounts_commitAll, halone, Event.filterMap_key?_filter,
    History.filter_eraseDups, List.filter_map]
  refine List.map_congr_left fun key hkey => ?_
  have hw : key.worker = w := of_decide_eq_true (List.mem_filter.1 hkey).2
  exact (Account.ofEvents_filter h.events hw).symm

/-! ## totals as sums -/

def sumAccounts (s : Sink) (f : Account → Nat) : Nat := (s.accounts.map f).sum

theorem testCount_eq (s : Sink) : s.testCount = s.sumAccounts fun _ => 1 := by
  simp [testCount, sumAccounts, accounts, Function.comp_def]

theorem finishedCount_eq (s : Sink) :
    s.finishedCount = s.sumAccounts fun a => if a.isFinished then 1 else 0 := by
  rw [finishedCount, sumAccounts, accounts, List.map_map]
  induction s.buckets.toList with
  | nil => rfl
  | cons b bs ih =>
    rw [List.map_cons, List.sum_cons, ← ih, List.filter_cons]
    by_cases hb : b.isFinished = true <;> simp [hb, Bucket.account, Nat.add_comm]

theorem successTotal_eq (s : Sink) : s.successTotal none none = s.sumAccounts Account.success := by
  rw [successTotal, tests_all, sumAccounts, accounts, List.map_map]
  rfl

theorem failuresTotal_eq (s : Sink) :
    s.failuresTotal none none = s.sumAccounts fun a => a.failures.length := by
  rw [failuresTotal, tests_all, sumAccounts, accounts, List.map_map]
  rfl

theorem errorsTotal_eq (s : Sink) :
    s.errorsTotal none none = s.sumAccounts fun a => a.errors.length := by
  rw [errorsTotal, tests_all, sumAccounts, accounts, List.map_map]
  rfl

theorem toList_hits (h : History) :
    (empty.commitAll h).hits.toList = h.events.filterMap Event.hit? := by
  rw [hits_commitAll, History.events, List.filterMap_map]
  rfl

def hitUnit (e : Event) : Nat := if e.hit?.isSome then 1 else 0

/-- what an event does to the gauge -/
def gaugeStep (e : Event) : Int := (if e.isOpen then 1 else 0) - (if e.isClose then 1 else 0)

theorem hitCount_commitAll (h : History) :
    (empty.commitAll h).hitCount = (h.events.map hitUnit).sum := by
  rw [hitCount, ← Array.length_toList, toList_hits]
  induction h.events with
  | nil => rfl
  | cons e es ih =>
    rw [List.map_cons, List.sum_cons, ← ih, hitUnit]
    cases he : e.hit? <;> simp [he, Nat.add_comm]

theorem gauge_commitAll (h : History) :
    (empty.commitAll h).sockets = (h.events.map gaugeStep).sum := by
  have hsum : ∀ s : Sink, (s.commitAll h).sockets = s.sockets + (h.events.map gaugeStep).sum := by
    induction h with
    | nil => exact fun s => (Int.add_zero _).symm
    | cons te h ih =>
      intro s
      rw [commitAll_cons, ih, sockets_commit, History.events_cons, List.map_cons, List.sum_cons,
        gaugeStep]
      omega
  rw [hsum]
  exact Int.zero_add _

theorem bytes_commitAll (h : History) :
    (empty.commitAll h).bytesReceived = min byteLimit (h.events.map Event.bytes).sum := by
  have hzero : empty.bytesReceived = 0 := rfl
  rw [bytesReceived_commitAll empty h (Nat.zero_le _), hzero, Nat.zero_add, History.bytes,
    History.events, List.map_map]
  rfl

theorem mem_urls_commitAll {h : History} {url : String} : url ∈ (empty.commitAll h).urls ↔
    ∃ e ∈ h.events, ∃ hit, e.hit? = some hit ∧ hit.url = url := by
  rw [urls, Text.mem_sortedTexts, toList_hits, List.mem_map]
  simp only [List.mem_filterMap]
  constructor
  · rintro ⟨hit, ⟨e, he, hhit⟩, hurl⟩
    exact ⟨e, he, hit, hhit, hurl⟩
  · rintro ⟨e, he, hit, hhit, hurl⟩
    exact ⟨hit, ⟨e, he, hhit⟩, hurl⟩

theorem min_sum_min {α : Type} (limit : Nat) (f : α → Nat) (l : List α) :
    min limit (l.map fun a => min limit (f a)).sum = min limit (l.map f).sum := by
  induction l with
  | nil => rfl
  | cons a l ih =>
    rw [List.map_cons, List.map_cons, List.sum_cons, List.sum_cons]
    omega

theorem sum_eq_single {α : Type} {l : List α} (hl : l.Nodup) {a : α} (ha : a ∈ l) (f : α → Nat)
    (hf : ∀ b, b ≠ a → b ∈ l → f b = 0) : (l.map f).sum = f a := by
  classical
  rw [List.sum_map_eq_nsmul_single a f hf, List.count_eq_one_of_mem hl ha, one_nsmul]

/-- what is counted is counted group by group -/
theorem sum_groups {α β : Type} [DecidableEq β] {groups : List β} (hgroups : groups.Nodup)
    (group : α → β) (f : α → Nat) {l : List α} (hl : ∀ a ∈ l, group a ∈ groups) :
    (l.map f).sum = (groups.map fun g => ((l.filter fun a => group a = g).map f).sum).sum := by
  induction l with
  | nil => simp
  | cons a l ih =>
    -- the first element is counted once, in its own group
    have hrest := ih fun b hb => hl b (List.mem_cons_of_mem a hb)
    have hfirst : (groups.map fun g => if group a = g then f a else 0).sum = f a := by
      rw [sum_eq_single hgroups (hl a List.mem_cons_self), if_pos rfl]
      exact fun g hg _ => if_neg (Ne.symm hg)
    rw [List.map_cons, List.sum_cons, hrest, ← hfirst, ← List.sum_map_add]
    refine congrArg List.sum (List.map_congr_left fun g _ => ?_)
    by_cases hg : group a = g <;> simp [hg]

/-- all counts of a sink are within 64 bits -/
structure Fits (s : Sink) : Prop where
  tests : s.testCount < 2 ^ 63
  outcomes : s.successTotal none none + s.failuresTotal none none + s.errorsTotal none none < 2 ^ 63
  hits : s.hitCount < 2 ^ 63
  sockets : -2 ^ 63 < s.sockets ∧ s.sockets < 2 ^ 63

theorem fits_commitAll {h : History} (hlength : h.length < 2 ^ 63) : (empty.commitAll h).Fits where
  tests := by
    have hkeys : (keys h).length ≤ (h.filterMap fun te => te.2.key?).length :=
      ((History.nodup_keys h).subperm fun key hkey => History.mem_eraseDups.1 hkey).length_le
    rw [testCount, (groups_commitAll h).size_eq]
    exact Nat.lt_of_le_of_lt (hkeys.trans (List.length_filterMap_le ..)) hlength
  outcomes := by
    rw [outcomes_commitAll]
    exact Nat.lt_of_le_of_lt List.countP_le_length hlength
  hits := by
    have hevents : h.events.length = h.length := List.length_map _
    rw [hitCount, ← Array.length_toList, toList_hits]
    exact Nat.lt_of_le_of_lt (hevents ▸ List.length_filterMap_le ..) hlength
  sockets := by
    have hgauge := sockets_bounded h
    omega

end Sink

/-! ## several workers -/

/-- Streams of different workers, and a history in which their events arrive in some order, at
whatever times. -/
structure Apart (streams : List (Option String × History)) (h : History) : Prop where
  nodup : (streams.map Prod.fst).Nodup
  own : ∀ s ∈ streams, ∀ e ∈ s.2.events, e.worker = s.1
  woven : Run.Woven (streams.map fun s => s.2.events) h.events

namespace Apart

variable {streams : List (Option String × History)} {h : History} (ha : Apart streams h)
include ha

theorem nodup_streams : streams.Nodup := List.Nodup.of_map _ ha.nodup

theorem mem_events {e : Event} : e ∈ h.events ↔ ∃ s ∈ streams, e ∈ s.2.events := by
  rw [ha.woven.perm.mem_iff, List.mem_flatten]
  simp

theorem filter_worker {s : Option String × History} (hs : s ∈ streams) :
    s.2.events = h.events.filter fun e => e.worker = s.1 := by
  have hself : (s.2.events.filter fun e => e.worker = s.1) = s.2.events :=
    List.filter_eq_self.2 fun e he => decide_eq_true (ha.own s hs e he)
  have hother : ∀ t, t ≠ s → t ∈ streams → (t.2.events.filter fun e => e.worker = s.1) = [] := by
    intro t hne ht
    refine List.filter_eq_nil_iff.2 fun e he heq => hne ?_
    have hworker : t.1 = s.1 := (ha.own t ht e he).symm.trans (of_decide_eq_true heq)
    exact List.inj_on_of_nodup_map ha.nodup ht hs hworker
  have hwoven := ha.woven.filter fun e => e.worker = s.1
  rw [List.map_map] at hwoven
  -- the other streams have nothing of this worker, so nothing is added to this one
  have hsub : s.2.events.Sublist (h.events.filter fun e => e.worker = s.1) :=
    hwoven.sublist _ (List.mem_map.2 ⟨s, hs, hself⟩)
  have hlength : (h.events.filter fun e => e.worker = s.1).length = s.2.events.length := by
    rw [hwoven.perm.length_eq, List.length_flatten, List.map_map,
      Sink.sum_eq_single ha.nodup_streams hs]
    · exact congrArg List.length hself
    · intro t hne ht
      exact congrArg List.length (hother t hne ht)
  exact hsub.eq_of_length hlength.symm

theorem sum_events {M : Type} [AddCommMonoid M] (f : Event → M) :
    (h.events.map f).sum = (streams.map fun s => (s.2.events.map f).sum).sum := by
  rw [(ha.woven.perm.map f).sum_eq, List.map_flatten, List.sum_flatten, List.map_map, List.map_map]
  rfl

theorem sum_accounts (f : Account → Nat) : (Sink.empty.commitAll h).sumAccounts f =
    (streams.map fun s => (Sink.empty.commitAll s.2).sumAccounts f).sum := by
  -- every account belongs to one of the workers, since its key comes from an event
  have hworker : ∀ a ∈ (Sink.empty.commitAll h).accounts, a.key.worker ∈ streams.map Prod.fst := by
    intro a hmem
    rw [Sink.accounts_commitAll] at hmem
    obtain ⟨key, hkey, rfl⟩ := List.mem_map.1 hmem
    obtain ⟨e, he, hekey⟩ := List.mem_filterMap.1 (History.mem_eraseDups.1 hkey)
    obtain ⟨s, hs, hes⟩ := ha.mem_events.1 he
    refine List.mem_map.2 ⟨s, hs, ?_⟩
    exact (ha.own s hs e hes).symm.trans (Event.worker_of_key? hekey).symm
  rw [Sink.sumAccounts, Sink.sum_groups ha.nodup (fun a : Account => a.key.worker) f hworker,
    List.map_map]
  refine congrArg List.sum (List.map_congr_left fun s hs => ?_)
  rw [Function.comp_apply, Sink.accounts_of_worker (ha.filter_worker hs), Sink.sumAccounts]

theorem hitCount_eq : (Sink.empty.commitAll h).hitCount =
    (streams.map fun s => (Sink.empty.commitAll s.2).hitCount).sum := by
  rw [Sink.hitCount_commitAll, ha.sum_events]
  exact congrArg List.sum (List.map_congr_left fun s _ => (Sink.hitCount_commitAll s.2).symm)

theorem sockets_eq : (Sink.empty.commitAll h).sockets =
    (streams.map fun s => (Sink.empty.commitAll s.2).sockets).sum := by
  rw [Sink.gauge_commitAll, ha.sum_events]
  exact congrArg List.sum (List.map_congr_left fun s _ => (Sink.gauge_commitAll s.2).symm)

/-- a cap on each summand makes no difference to a capped sum -/
theorem bytesReceived_eq : (Sink.empty.commitAll h).bytesReceived =
    min Sink.byteLimit (streams.map fun s => (Sink.empty.commitAll s.2).bytesReceived).sum := by
  have heach : (streams.map fun s => (Sink.empty.commitAll s.2).bytesReceived) =
      streams.map fun s => min Sink.byteLimit (s.2.events.map Event.bytes).sum :=
    List.map_congr_left fun s _ => Sink.bytes_commitAll s.2
  rw [Sink.bytes_commitAll, ha.sum_events, heach]
  exact (Sink.min_sum_min Sink.byteLimit _ streams).symm

theorem mem_urls {url : String} : url ∈ (Sink.empty.commitAll h).urls ↔
    ∃ s ∈ streams, url ∈ (Sink.empty.commitAll s.2).urls := by
  rw [Sink.mem_urls_commitAll]
  constructor
  · rintro ⟨e, he, hhit⟩
    obtain ⟨s, hs, hes⟩ := ha.mem_events.1 he
    exact ⟨s, hs, Sink.mem_urls_commitAll.2 ⟨e, hes, hhit⟩⟩
  · rintro ⟨s, hs, hurl⟩
    obtain ⟨e, hes, hhit⟩ := Sink.mem_urls_commitAll.1 hurl
    exact ⟨e, ha.mem_events.2 ⟨s, hs, hes⟩, hhit⟩

theorem length_le {s : Option String × History} (hs : s ∈ streams) : s.2.length ≤ h.length := by
  have hsub := ha.woven.sublist _ (List.mem_map.2 ⟨s, hs, rfl⟩)
  have hlength := hsub.length_le
  rwa [History.events, History.events, List.length_map, List.length_map] at hlength

end Apart

/-- **Workers do not interfere.** What a sink holds of one worker is what it would hold of this
worker's events alone. So in every order of the events of different workers, the totals are the sums
of what each of them comes to alone, the bytes are capped, and the urls are those of all. -/
theorem workers_apart :
    (∀ (h alone : History) (w : Option String),
      alone.map Prod.snd = (h.map Prod.snd).filter (fun e => e.worker = w) →
      ((Sink.empty.commitAll h).buckets.toList.filter fun b => b.key.worker = w).map
          Bucket.account = (Sink.empty.commitAll alone).buckets.toList.map Bucket.account) ∧
    ∀ (streams : List (Option String × History)) (h : History), Apart streams h →
      h.length < 2 ^ 63 → ∀ now : Instant,
        let total := (Sink.empty.commitAll h).summary now
        let alone := streams.map fun s => (Sink.empty.commitAll s.2).summary now
        total.testsTotal = (alone.map Summary.testsTotal).sum ∧
        total.testsFinished = (alone.map Summary.testsFinished).sum ∧
        total.successTotal = (alone.map Summary.successTotal).sum ∧
        total.failuresTotal = (alone.map Summary.failuresTotal).sum ∧
        total.errorsTotal = (alone.map Summary.errorsTotal).sum ∧
        total.hitsTotal = (alone.map Summary.hitsTotal).sum ∧
        total.socketsOpen = (alone.map Summary.socketsOpen).sum ∧
        total.socketBytesReceived =
          min (2 ^ 64 - 1) (alone.map Summary.socketBytesReceived).sum ∧
        (total.urls.Pairwise (· < ·) ∧
          ∀ url, url ∈ total.urls ↔ ∃ s ∈ alone, url ∈ s.urls) ∧
        ∀ taken ∈ h :: streams.map Prod.snd, ∀ part, part <+: taken →
          (Sink.empty.commitAll part).Fits := by
  constructor
  · intro h alone w halone
    have halone' : alone.events = h.events.filter fun e => e.worker = w := halone
    have haccounts := Sink.accounts_of_worker halone'
    rw [Sink.accounts, List.filter_map] at haccounts
    exact haccounts
  intro streams h ha hlength now total alone
  have hmap : ∀ {α : Type} (f : Summary → α),
      alone.map f = streams.map fun s => f ((Sink.empty.commitAll s.2).summary now) :=
    fun f => List.map_map
  have hsum : ∀ f : Summary → Nat, ∀ g : Account → Nat,
      (∀ s : Sink, f (s.summary now) = s.sumAccounts g) → f total = (alone.map f).sum := by
    intro f g hfg
    rw [hfg, ha.sum_accounts g, hmap]
    exact congrArg List.sum (List.map_congr_left fun s _ => (hfg _).symm)
  refine ⟨hsum _ _ Sink.testCount_eq, hsum _ _ Sink.finishedCount_eq, hsum _ _ Sink.successTotal_eq,
    hsum _ _ Sink.failuresTotal_eq, hsum _ _ Sink.errorsTotal_eq, ?_, ?_, ?_,
    ⟨Text.pairwise_sortedTexts _, fun url => ?_⟩, ?_⟩
  · rw [hmap]
    exact ha.hitCount_eq
  · rw [hmap]
    exact ha.sockets_eq
  · rw [hmap]
    exact ha.bytesReceived_eq
  · simp only [alone, List.mem_map, exists_exists_and_eq_and]
    exact ha.mem_urls
  · intro taken htaken part hpart
    refine Sink.fits_commitAll (Nat.lt_of_le_of_lt hpart.length_le ?_)
    rcases List.mem_cons.1 htaken with rfl | htaken
    · exact hlength
    · obtain ⟨s, hs, rfl⟩ := List.mem_map.1 htaken
      exact Nat.lt_of_le_of_lt (ha.length_le hs) hlength

/-- two workers with one test, one of them without a name -/
theorem workers_apart_two :
    let status : Status := ⟨1, 1, 1, 1⟩
    let a : History :=
      [(1, .startTest "t" status (some "a")), (2, .socketOpen status (some "a"))]
    let b : History := [(1, .startTest "t" status none), (2, .addSuccess "t" status none)]
    let h : History :=
      [(5, .startTest "t" status none), (6, .startTest "t" status (some "a")),
        (7, .addSuccess "t" status none), (8, .socketOpen status (some "a"))]
    Apart [(some "a", a), (none, b)] h ∧ h.length < 2 ^ 63 ∧
      b.map Prod.snd = (h.map Prod.snd).filter (fun e => e.worker = none) ∧
      ((Sink.empty.commitAll h).buckets.toList.filter fun b => b.key.worker = none).map
        Bucket.account = (Sink.empty.commitAll b).buckets.toList.map Bucket.account ∧
      ((Sink.empty.commitAll h).summary 9).testsTotal =
        [((Sink.empty.commitAll a).summary 9).testsTotal,
          ((Sink.empty.commitAll b).summary 9).testsTotal].sum := by
  intro status a b h
  have hwoven : Run.Woven [a.map Prod.snd, b.map Prod.snd] (h.map Prod.snd) :=
    @Run.Woven.take _ [a.map Prod.snd] [] _ _ _ <| @Run.Woven.take _ [] [_] _ _ _ <|
      @Run.Woven.take _ [_] [] _ _ _ <| @Run.Woven.take _ [] [_] _ _ _ <| .done (by decide)
  have ha : Apart [(some "a", a), (none, b)] h := ⟨by decide, by decide, hwoven⟩
  have hlength : h.length < 2 ^ 63 := by decide
  have halone : b.map Prod.snd = (h.map Prod.snd).filter (fun e => e.worker = none) := by decide
  exact ⟨ha, hlength, halone, workers_apart.1 h b none halone,
    (workers_apart.2 _ h ha hlength 9).1⟩

end LoadTest
