import LoadTest.Proofs.Sink.Bins
import LoadTest.Proofs.Sink.Workers

/-!
# The order of arrival does not matter

A sink that takes in the same events in another order, at whatever times, says the same of them. Its
buckets may stand in another order, and the messages inside a bucket too; all totals, the urls and
every percentile are equal.

* `Account.Alike`           two accounts that differ at most in the order of their messages
* `Histogram.ofValues_perm` a histogram does not remember an order
* `Sink.exists_alike_perm`  the accounts are matched one to one
* `Sink.sumAccounts_perm`, `Sink.flatMap_accounts_perm`   what is counted and listed over accounts
* `Sink.percentileMicros_perm`   percentiles
* `Sink.commitAll_perm`     all of it together
-/

namespace LoadTest

open Bucket (Account)

/-! ## accounts -/

/-- two accounts that differ at most in the order of their messages -/
structure Bucket.Account.Alike (a b : Account) : Prop where
  key_eq : a.key = b.key
  success_eq : a.success = b.success
  failures_perm : a.failures.Perm b.failures
  errors_perm : a.errors.Perm b.errors
  isFinished_eq : a.isFinished = b.isFinished

/-- only the events of a key count for its account, and their order does not -/
theorem Bucket.Account.ofEvents_alike {es es' : List Event} {key : BucketKey}
    (h : (es.filter fun e => e.key? = some key).Perm (es'.filter fun e => e.key? = some key)) :
    (ofEvents es key).Alike (ofEvents es' key) where
  key_eq := rfl
  success_eq := h.countP_eq _
  failures_perm := h.filterMap _
  errors_perm := h.filterMap _
  isFinished_eq := h.any_eq

theorem History.eraseDups_perm {α : Type} [BEq α] [LawfulBEq α] {l l' : List α} (h : l.Perm l') :
    l.eraseDups.Perm l'.eraseDups := by
  refine (List.perm_ext_iff_of_nodup (nodup_eraseDups l) (nodup_eraseDups l')).2 fun a => ?_
  rw [mem_eraseDups, mem_eraseDups, h.mem_iff]

/-! ## histograms -/

namespace Histogram

theorem countBin_comm (a b : Nat) (bins : List (Nat × Nat)) :
    countBin a (countBin b bins) = countBin b (countBin a bins) := by
  have hlt : ∀ a b : Nat, a < b →
      countBin a (countBin b bins) = countBin b (countBin a bins) := by
    intro a b hab
    induction bins with
    | nil => rw [countBin, countBin_before hab, countBin, countBin_after hab, countBin]
    | cons bin bins ih =>
      obtain ⟨low, n⟩ := bin
      rcases Nat.lt_trichotomy a low with ha | rfl | ha
      · -- the smaller value gets a bin of its own, in front of what is done with the other
        rw [countBin_before ha, countBin_after hab]
        rcases Nat.lt_trichotomy b low with hb | rfl | hb
        · rw [countBin_before hb, countBin_before hab]
        · rw [countBin_here, countBin_before ha]
        · rw [countBin_after hb, countBin_before ha]
      · rw [countBin_here, countBin_after hab, countBin_after hab, countBin_here]
      · rw [countBin_after ha, countBin_after (Nat.lt_trans ha hab), countBin_after ha, ih,
          countBin_after (Nat.lt_trans ha hab)]
  rcases Nat.lt_trichotomy a b with hab | rfl | hab
  · exact hlt a b hab
  · rfl
  · exact (hlt b a hab).symm

theorem ofValues_perm {vs ws : List Nat} (h : vs.Perm ws) : ofValues vs = ofValues ws := by
  unfold ofValues
  refine h.foldl_eq' (fun v _ w _ hist => ?_) _
  exact congrArg Histogram.mk (countBin_comm ..)

end Histogram

/-! ## sinks -/

namespace Sink

section
variable {h h' : History} (hperm : h.events.Perm h'.events)
include hperm

/-- the accounts of the two sinks are matched one to one -/
theorem exists_alike_perm : ∃ matched : List Account,
    List.Forall₂ Account.Alike (empty.commitAll h).accounts matched ∧
      matched.Perm (empty.commitAll h').accounts := by
  rw [accounts_commitAll, accounts_commitAll]
  refine ⟨(h.events.filterMap Event.key?).eraseDups.map (Account.ofEvents h'.events), ?_, ?_⟩
  · rw [List.forall₂_map_left_iff, List.forall₂_map_right_iff]
    exact List.forall₂_same.2 fun key _ => Account.ofEvents_alike (hperm.filter _)
  · exact (History.eraseDups_perm (hperm.filterMap _)).map _

theorem sumAccounts_perm {f : Account → Nat} (hf : ∀ a b : Account, a.Alike b → f a = f b) :
    (empty.commitAll h).sumAccounts f = (empty.commitAll h').sumAccounts f := by
  obtain ⟨matched, halike, hmatched⟩ := exists_alike_perm hperm
  have hmap : (empty.commitAll h).accounts.map f = matched.map f :=
    List.forall₂_eq_eq_eq ▸ List.rel_map (fun a b hab => hf a b hab) halike
  rw [sumAccounts, sumAccounts, hmap, (hmatched.map f).sum_eq]

theorem flatMap_accounts_perm {α : Type} {f : Account → List α}
    (hf : ∀ a b : Account, a.Alike b → (f a).Perm (f b)) :
    ((empty.commitAll h).accounts.flatMap f).Perm ((empty.commitAll h').accounts.flatMap f) := by
  obtain ⟨matched, halike, hmatched⟩ := exists_alike_perm hperm
  refine List.Perm.trans ?_ (hmatched.flatMap_right f)
  generalize (empty.commitAll h).accounts = accounts at halike
  clear hmatched
  induction halike with
  | nil => exact .refl _
  | cons hab _ ih =>
    rw [List.flatMap_cons, List.flatMap_cons]
    exact (hf _ _ hab).append ih

theorem failures_perm : (empty.commitAll h).failures.Perm (empty.commitAll h').failures := by
  have hlist : ∀ s : Sink, s.failures = s.accounts.flatMap Account.failures := fun s => by
    rw [accounts, List.flatMap_map]
    rfl
  rw [hlist, hlist]
  exact flatMap_accounts_perm hperm fun a b hab => hab.failures_perm

theorem errors_perm : (empty.commitAll h).errors.Perm (empty.commitAll h').errors := by
  have hlist : ∀ s : Sink, s.errors = s.accounts.flatMap Account.errors := fun s => by
    rw [accounts, List.flatMap_map]
    rfl
  rw [hlist, hlist]
  exact flatMap_accounts_perm hperm fun a b hab => hab.errors_perm

theorem urls_perm : (empty.commitAll h).urls = (empty.commitAll h').urls := by
  refine (Text.pairwise_sortedTexts _).eq_of_mem_iff (Text.pairwise_sortedTexts _) fun url => ?_
  show url ∈ (empty.commitAll h).urls ↔ url ∈ (empty.commitAll h').urls
  simp only [mem_urls_commitAll, hperm.mem_iff]

theorem percentileMicros_perm (url : Option String) (cycle : Option UInt64) (q : Float) :
    (empty.commitAll h).percentileMicros url cycle q =
      (empty.commitAll h').percentileMicros url cycle q := by
  have hhits : ((empty.commitAll h).hitsOf url cycle).Perm ((empty.commitAll h').hitsOf url cycle) := by
    rw [hitsOf, hitsOf, toList_hits, toList_hits]
    exact (hperm.filterMap _).filter _
  rw [percentileMicros, percentileMicros, histogram, histogram,
    Histogram.ofValues_perm (hhits.map hitMicros)]

end

theorem nodup_key_accounts (h : History) : ((empty.commitAll h).accounts.map Account.key).Nodup := by
  have hkeys : (empty.commitAll h).accounts.map Account.key =
      (h.events.filterMap Event.key?).eraseDups := by
    rw [accounts_commitAll, List.map_map]
    exact List.map_id' _
  rw [hkeys]
  exact History.nodup_eraseDups _

/-- **The order of arrival does not matter.** Two fresh sinks that take in the same events, in any
two orders and at any times, agree on all totals, on the urls and on whether there are problems.
Their buckets are matched one to one by their keys, with the same successes and, in some order, the
same messages. All messages together are the same, in some order, and every quantile of the request
times selects the same value. -/
theorem commitAll_perm {h h' : History} (hperm : (h.map Prod.snd).Perm (h'.map Prod.snd))
    (hlength : h.length < 2 ^ 63) (now now' : Instant) :
    let s := empty.commitAll h
    let s' := empty.commitAll h'
    let a := s.summary now
    let b := s'.summary now'
    (a.testsTotal = b.testsTotal ∧ a.testsFinished = b.testsFinished ∧
      a.successTotal = b.successTotal ∧ a.failuresTotal = b.failuresTotal ∧
      a.errorsTotal = b.errorsTotal ∧ a.hitsTotal = b.hitsTotal ∧ a.urls = b.urls ∧
      a.socketsOpen = b.socketsOpen ∧ a.socketBytesReceived = b.socketBytesReceived ∧
      a.hasProblems = b.hasProblems) ∧
    ((s.accounts.map Account.key).Nodup ∧
      ∃ matched, List.Forall₂ Account.Alike s.accounts matched ∧ matched.Perm s'.accounts) ∧
    s.failures.Perm s'.failures ∧ s.errors.Perm s'.errors ∧
    (∀ (url : Option String) (cycle : Option UInt64) (q : Float),
      s.percentileMicros url cycle q = s'.percentileMicros url cycle q) ∧
    (a.requestTimeP50Ms = b.requestTimeP50Ms ∧ a.requestTimeP90Ms = b.requestTimeP90Ms ∧
      a.requestTimeP99Ms = b.requestTimeP99Ms) ∧
    ∀ taken ∈ [h, h'], ∀ part, part <+: taken → (empty.commitAll part).Fits := by
  intro s s' a b
  have hevents : h.events.Perm h'.events := hperm
  have hfailures : a.failuresTotal = b.failuresTotal := by
    show s.failuresTotal none none = s'.failuresTotal none none
    rw [failuresTotal_eq, failuresTotal_eq]
    exact sumAccounts_perm hevents fun a b hab => hab.failures_perm.length_eq
  have herrors : a.errorsTotal = b.errorsTotal := by
    show s.errorsTotal none none = s'.errorsTotal none none
    rw [errorsTotal_eq, errorsTotal_eq]
    exact sumAccounts_perm hevents fun a b hab => hab.errors_perm.length_eq
  have hmillis : ∀ q, s.percentileMillis none none q = s'.percentileMillis none none q := fun q => by
    rw [percentileMillis, percentileMillis, percentileMicros_perm hevents]
  refine ⟨⟨?_, ?_, ?_, hfailures, herrors, ?_, urls_perm hevents, ?_, ?_, ?_⟩,
    ⟨nodup_key_accounts h, exists_alike_perm hevents⟩, failures_perm hevents, errors_perm hevents,
    percentileMicros_perm hevents, ⟨hmillis _, hmillis _, hmillis _⟩, fun taken htaken part hpart => ?_⟩
  · show s.testCount = s'.testCount
    rw [testCount_eq, testCount_eq]
    exact sumAccounts_perm hevents fun _ _ _ => rfl
  · show s.finishedCount = s'.finishedCount
    rw [finishedCount_eq, finishedCount_eq]
    exact sumAccounts_perm hevents fun a b hab => by rw [hab.isFinished_eq]
  · show s.successTotal none none = s'.successTotal none none
    rw [successTotal_eq, successTotal_eq]
    exact sumAccounts_perm hevents fun a b hab => hab.success_eq
  · show s.hitCount = s'.hitCount
    rw [hitCount_commitAll, hitCount_commitAll, (hevents.map _).sum_eq]
  · show s.sockets = s'.sockets
    rw [gauge_commitAll, gauge_commitAll, (hevents.map _).sum_eq]
  · show s.bytesReceived = s'.bytesReceived
    rw [bytes_commitAll, bytes_commitAll, (hevents.map _).sum_eq]
  · rw [Summary.hasProblems, Summary.hasProblems, hfailures, herrors]
  · have hsame : h'.length = h.length := by simpa using hperm.length_eq.symm
    refine fits_commitAll (Nat.lt_of_le_of_lt hpart.length_le ?_)
    rcases List.mem_pair.1 htaken with rfl | rfl
    · exact hlength
    · exact hsame ▸ hlength

/-- two failures of one key, a hit and two messages of a socket, and the same events backwards -/
theorem commitAll_perm_backwards :
    let status : Status := ⟨1, 1, 1, 1⟩
    let hit : Hit := ⟨"u", "GET", 200, 0, .ofMillis 7, status, none⟩
    let h : History :=
      [(1, .addFailure "t" "a" status none), (2, .addHit hit), (3, .socketMessage status 7 none),
        (4, .addFailure "t" "b" status none), (5, .socketMessage status 0xFFFFFFFFFFFFFFFF none)]
    let h' : History := h.reverse
    (h.map Prod.snd).Perm (h'.map Prod.snd) ∧ h.length < 2 ^ 63 ∧
      (empty.commitAll h).failures.Perm (empty.commitAll h').failures ∧
      ((empty.commitAll h).summary 9).socketBytesReceived =
        ((empty.commitAll h').summary 6).socketBytesReceived := by
  intro status hit h h'
  have hperm : (h.map Prod.snd).Perm (h'.map Prod.snd) := (List.reverse_perm h).symm.map _
  have hlength : h.length < 2 ^ 63 := by decide
  obtain ⟨⟨-, -, -, -, -, -, -, -, hbytes, -⟩, -, hfailures, -⟩ := commitAll_perm hperm hlength 9 6
  exact ⟨hperm, hlength, hfailures, hbytes⟩

end Sink

end LoadTest
