import LoadTest.Proofs.Run.Interleaving
import LoadTest.Proofs.Sink.Workers

/-!
# First occurrences

What `eraseDups` leaves of a list are its elements in the order of their first occurrences. Repeated
blocks fold together, and an interleaving of logs with one order of first occurrences has that order
too.

* `History.eraseDups_flatMap_eraseDups`, `History.eraseDups_flatMap`   blocks one after the other
* `History.eraseDups_eq_of_prefix`   a list that agrees with an order and leaves nothing out
* `Run.Woven.eraseDups_prefix`       interleavings
-/

namespace LoadTest

namespace History

variable {α β : Type} [BEq α] [LawfulBEq α]

theorem eraseDups_of_nodup {l : List α} (hl : l.Nodup) : l.eraseDups = l := by
  induction l using List.reverseRecOn with
  | nil => rfl
  | append_singleton l a ih =>
    have hparts := List.nodup_append.1 hl
    have ha : a ∉ l := fun ha => hparts.2.2 a ha a (by simp) rfl
    rw [eraseDups_concat, if_neg ha, ih hparts.1]

theorem removeAll_congr {seen seen' : List α} (h : ∀ a, a ∈ seen ↔ a ∈ seen') (l : List α) :
    l.removeAll seen = l.removeAll seen' := by
  refine List.filter_congr fun a _ => ?_
  have hiff : List.elem a seen = true ↔ List.elem a seen' = true := by simpa using h a
  rw [Bool.eq_iff_iff.2 hiff]

/-- repetitions inside a block do not matter to what stands around it -/
theorem eraseDups_flatMap_eraseDups (l : List β) (f : β → List α) :
    (l.flatMap f).eraseDups = (l.flatMap fun b => (f b).eraseDups).eraseDups := by
  induction l using List.reverseRecOn with
  | nil => rfl
  | append_singleton l b ih =>
    have hsame : ∀ a, a ∈ l.flatMap f ↔ a ∈ l.flatMap fun b => (f b).eraseDups := fun a => by
      simp only [List.mem_flatMap, mem_eraseDups]
    have hnew : ((f b).eraseDups.removeAll (l.flatMap f)).eraseDups =
        ((f b).removeAll (l.flatMap f)).eraseDups := by
      rw [List.removeAll, List.removeAll, filter_eraseDups, filter_eraseDups,
        eraseDups_of_nodup (nodup_eraseDups _)]
    rw [List.flatMap_append, List.flatMap_append, List.flatMap_singleton, List.flatMap_singleton,
      List.eraseDups_append, List.eraseDups_append, ih, ← removeAll_congr hsame, hnew]

theorem eraseDups_flatMap [BEq β] [LawfulBEq β] {l : List β} {f : β → List α}
    (hf : ∀ b, (f b).Nodup) (hdisjoint : ∀ b c, ∀ a ∈ f b, a ∈ f c → b = c) :
    (l.flatMap f).eraseDups = l.eraseDups.flatMap f := by
  induction l using List.reverseRecOn with
  | nil => rfl
  | append_singleton l b ih =>
    rw [List.flatMap_append, List.flatMap_singleton, List.eraseDups_append, ih, eraseDups_concat]
    by_cases hb : b ∈ l
    · have hold : (f b).removeAll (l.flatMap f) = [] := by
        apply List.filter_eq_nil_iff.2
        intro a ha
        have hmem : a ∈ l.flatMap f := List.mem_flatMap.2 ⟨b, hb, ha⟩
        simpa using hmem
      rw [if_pos hb, hold]
      exact List.append_nil _
    · have hnew : (f b).removeAll (l.flatMap f) = f b := by
        apply List.filter_eq_self.2
        intro a ha
        have hmem : a ∉ l.flatMap f := fun hmem => by
          obtain ⟨c, hc, hac⟩ := List.mem_flatMap.1 hmem
          exact hb (hdisjoint b c a ha hac ▸ hc)
        simpa using hmem
      rw [if_neg hb, hnew, eraseDups_of_nodup (hf b), List.flatMap_append, List.flatMap_singleton]

theorem eraseDups_map [BEq β] [LawfulBEq β] {f : β → α} (hf : f.Injective) (l : List β) :
    (l.map f).eraseDups = l.eraseDups.map f := by
  have hsingle : ∀ l : List β, l.map f = l.flatMap fun b => [f b] := fun l =>
    (List.flatMap_pure_eq_map f l).symm
  rw [hsingle, hsingle]
  refine eraseDups_flatMap (fun b => List.nodup_singleton (f b)) fun b c a hb hc => ?_
  exact hf ((List.mem_singleton.1 hb).symm.trans (List.mem_singleton.1 hc))

theorem eraseDups_flatMap_const {l : List β} {f : β → List α} {g : β → α}
    (hne : ∀ b ∈ l, f b ≠ []) (hf : ∀ b ∈ l, ∀ a ∈ f b, a = g b) :
    (l.flatMap f).eraseDups = (l.map g).eraseDups := by
  have hblock : ∀ b ∈ l, (f b).eraseDups = [g b] := by
    intro b hb
    cases hfb : f b with
    | nil => exact absurd hfb (hne b hb)
    | cons a rest =>
      have hall : ∀ c ∈ a :: rest, c = g b := hfb ▸ hf b hb
      have hrest : (rest.filter fun c => !c == a) = [] := by
        apply List.filter_eq_nil_iff.2
        intro c hc
        rw [hall c (List.mem_cons_of_mem a hc), hall a List.mem_cons_self]
        simp
      rw [List.eraseDups_cons, hrest, hall a List.mem_cons_self]
      rfl
  rw [eraseDups_flatMap_eraseDups, List.flatMap_def, List.map_congr_left hblock, ← List.flatMap_def]
  exact congrArg List.eraseDups (List.flatMap_pure_eq_map g l)

theorem eraseDups_eq_of_prefix {l distinct : List α} (hdistinct : distinct.Nodup)
    (hfront : l.eraseDups <+: distinct) (hall : ∀ a ∈ distinct, a ∈ l) :
    l.eraseDups = distinct := by
  have hsub : distinct.Subperm l.eraseDups :=
    hdistinct.subperm fun a ha => mem_eraseDups.2 (hall a ha)
  exact hfront.eq_of_length_le hsub.length_le

/-- Two continuations of one list that both agree with an order can be made one after the other, the
first of them by one element. -/
theorem eraseDups_insert_prefix {seen l distinct : List α} {x : α}
    (hx : (seen ++ [x]).eraseDups <+: distinct) (hl : (seen ++ l).eraseDups <+: distinct) :
    (seen ++ [x] ++ l).eraseDups <+: distinct := by
  by_cases hmem : x ∈ seen
  · have hsame : ∀ a, a ∈ seen ++ [x] ↔ a ∈ seen := fun a => by
      rw [List.mem_append, List.mem_singleton]
      exact ⟨fun ha => ha.elim id fun ha => ha ▸ hmem, .inl⟩
    rw [List.eraseDups_append, eraseDups_concat, if_pos hmem, removeAll_congr hsame,
      ← List.eraseDups_append]
    exact hl
  · have hwithout : l.removeAll (seen ++ [x]) = (l.removeAll seen).filter fun a => !a == x := by
      rw [List.removeAll, List.removeAll, List.filter_filter]
      refine List.filter_congr fun a _ => ?_
      by_cases ha : a = x <;> simp [ha]
    rw [eraseDups_concat, if_neg hmem] at hx
    rw [List.eraseDups_append] at hl
    rw [List.eraseDups_append, eraseDups_concat, if_neg hmem, hwithout]
    cases hnew : l.removeAll seen with
    | nil => simpa using hx
    | cons y rest =>
      -- the first new element is the same in both
      rw [hnew, List.eraseDups_cons] at hl
      obtain ⟨after, rfl⟩ := hx
      rw [List.append_assoc, List.prefix_append_right_inj] at hl
      obtain ⟨rfl, hrest⟩ := List.cons_prefix_cons.1 hl
      rw [List.filter_cons_of_neg (by simp), List.append_assoc, List.append_assoc,
        List.prefix_append_right_inj]
      exact List.cons_prefix_cons.2 ⟨rfl, hrest⟩

end History

/-- **First occurrences in an interleaving.** Where each log, after what has been seen, agrees with
an order of first occurrences, so does their interleaving. -/
theorem Run.Woven.eraseDups_prefix {α : Type} [BEq α] [LawfulBEq α] {logs : List (List α)}
    {w seen distinct : List α} (h : Woven logs w) (hseen : seen.eraseDups <+: distinct)
    (hlogs : ∀ l ∈ logs, (seen ++ l).eraseDups <+: distinct) :
    (seen ++ w).eraseDups <+: distinct := by
  induction h generalizing seen with
  | done _ => rwa [List.append_nil]
  | @take before after x l w _ ih =>
    have hlog : (seen ++ [x] ++ l).eraseDups <+: distinct := by
      rw [List.append_assoc]
      exact hlogs (x :: l) (by simp)
    have hnext : (seen ++ [x]).eraseDups <+: distinct := by
      rw [List.eraseDups_append] at hlog
      exact (List.prefix_append _ _).trans hlog
    -- the log that gave the element goes on behind it, and the others can wait for it
    have hw := ih hnext fun k hk => by
      rcases List.mem_append.1 hk with hk | hk
      · exact History.eraseDups_insert_prefix hnext (hlogs k (by simp [hk]))
      · rcases List.mem_cons.1 hk with rfl | hk
        · exact hlog
        · exact History.eraseDups_insert_prefix hnext (hlogs k (by simp [hk]))
    rwa [List.append_assoc] at hw

end LoadTest
