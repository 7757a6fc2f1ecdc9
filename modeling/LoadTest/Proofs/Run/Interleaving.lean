import Mathlib.Algebra.GroupWithZero.Nat
import Mathlib.Data.List.Flatten
import Mathlib.Data.List.Forall2
import LoadTest.Run.Schedule

/-!
# Properties of interleavings

* `Woven.perm`            an interleaving has the elements of its logs
* `Woven.sublist`         each of them in its order
* `Woven.filterMap`       what is picked out of an interleaving is an interleaving
* `Woven.cut`             cutting an interleaving in two cuts each log in two
* `Woven.forall_last`     the last element of an interleaving is the last of some log
* `Schedule.exists_weaver`   every order of the users of each tier is the order of a weaver
-/

namespace LoadTest.Run

variable {α β : Type}

namespace Woven

/-! ## elements -/

theorem perm {logs : List (List α)} {w : List α} (h : Woven logs w) : w.Perm logs.flatten := by
  induction h with
  | done h => rw [List.flatten_eq_nil_iff.2 h]
  | @take before after x l w _ ih =>
    rw [List.flatten_append, List.flatten_cons] at ih ⊢
    exact (ih.cons x).trans List.perm_middle.symm

theorem countP_eq {logs : List (List α)} {w : List α} (h : Woven logs w) (f : α → Bool) :
    w.countP f = (logs.map (List.countP f)).sum := by
  rw [h.perm.countP_eq, List.countP_flatten]

theorem sublist {logs : List (List α)} {w : List α} (h : Woven logs w) : ∀ l ∈ logs, l.Sublist w := by
  induction h with
  | done h =>
    intro l hl
    rw [h l hl]
  | @take before after x l w _ ih =>
    intro k hk
    rcases List.mem_append.1 hk with hk | hk
    · exact (ih k (List.mem_append_left _ hk)).cons x
    · rcases List.mem_cons.1 hk with rfl | hk
      · exact (ih l (List.mem_append_right _ List.mem_cons_self)).cons_cons x
      · exact (ih k (List.mem_append_right _ (List.mem_cons_of_mem _ hk))).cons x

/-- what is picked out of an interleaving interleaves what is picked out of the logs -/
theorem filterMap (f : α → Option β) {logs : List (List α)} {w : List α} (h : Woven logs w) :
    Woven (logs.map (List.filterMap f)) (w.filterMap f) := by
  induction h with
  | done h =>
    refine .done fun l hl => ?_
    obtain ⟨k, hk, rfl⟩ := List.mem_map.1 hl
    rw [h k hk, List.filterMap_nil]
  | @take before after x l w _ ih =>
    rw [List.map_append, List.map_cons] at ih ⊢
    cases hx : f x with
    | none =>
      rw [List.filterMap_cons_none hx, List.filterMap_cons_none hx]
      exact ih
    | some y =>
      rw [List.filterMap_cons_some hx, List.filterMap_cons_some hx]
      exact .take ih

theorem filter (f : α → Bool) {logs : List (List α)} {w : List α} (h : Woven logs w) :
    Woven (logs.map (List.filter f)) (w.filter f) := by
  rw [← List.filterMap_eq_filter]
  exact h.filterMap (Option.guard fun x => f x)

/-! ## cuts -/

/-- **Cutting an interleaving.** What stands before the cut interleaves the first parts of the logs,
what stands after it the second parts. -/
theorem cut {logs : List (List α)} (u v : List α) (h : Woven logs (u ++ v)) :
    ∃ parts : List (List α × List α), parts.map (fun p => p.1 ++ p.2) = logs ∧
      Woven (parts.map Prod.fst) u ∧ Woven (parts.map Prod.snd) v := by
  induction u generalizing logs with
  | nil =>
    refine ⟨logs.map fun l => ([], l), ?_, .done fun l hl => ?_, ?_⟩
    · rw [List.map_map]
      exact List.map_id logs
    · simp only [List.map_map, List.mem_map, Function.comp_apply] at hl
      obtain ⟨_, _, rfl⟩ := hl
      rfl
    · rw [List.map_map]
      exact (List.map_id logs).symm ▸ h
  | cons x u ih =>
    rw [List.cons_append] at h
    obtain _ | @⟨before, after, _, l, _, h⟩ := h
    obtain ⟨parts, hparts, hu, hv⟩ := ih h
    obtain ⟨front, back, rfl, hfront, hback⟩ := List.map_eq_append_iff.1 hparts
    obtain ⟨p, back, rfl, hp, hback⟩ := List.map_eq_cons_iff.1 hback
    refine ⟨front ++ (x :: p.1, p.2) :: back, ?_, ?_, ?_⟩
    · rw [List.map_append, List.map_cons, hfront, hback, ← hp, List.cons_append]
    · rw [List.map_append, List.map_cons] at hu ⊢
      exact .take hu
    · rw [List.map_append, List.map_cons] at hv ⊢
      exact hv

/-! ## ends -/

/-- The last element of an interleaving is the last one of some log. -/
theorem forall_last {logs : List (List α)} {w : List α} (h : Woven logs w) (P : α → Prop)
    (hP : ∀ l ∈ logs, ∀ x ∈ l.getLast?, P x) : ∀ x ∈ w.getLast?, P x := by
  induction h with
  | done h => simp
  | @take before after x l w h ih =>
    have hl : ∀ y ∈ (x :: l).getLast?, P y := hP _ (by simp)
    -- the rest of the log has the same last element, if there is a rest
    have ih := ih fun k hk => by
      rcases List.mem_append.1 hk with hk | hk
      · exact hP k (by simp [hk])
      · rcases List.mem_cons.1 hk with rfl | hk
        · intro y hy
          cases k with
          | nil => simp at hy
          | cons z k => exact hl y (by rwa [List.getLast?_cons_cons])
        · exact hP k (by simp [hk])
    cases w with
    | nil =>
      have hnil : l = [] := List.flatten_eq_nil_iff.1 h.perm.symm.eq_nil l (by simp)
      rw [hnil] at hl
      exact hl
    | cons y w => rwa [List.getLast?_cons_cons]

end Woven

/-! ## weavers -/

/-- **Every order is the order of a weaver.** However the users of each tier are interleaved, some
weaver makes these interleavings. -/
theorem Schedule.exists_weaver (s : Schedule) (orders : List (List Act))
    (h : List.Forall₂ (fun t order => Woven (t.map fun u => (u.map Invocation.acts).flatten) order)
      s orders) : ∃ weaver, s.acts weaver = orders.flatten := by
  classical
  let weaver : Weaver Act :=
    { weave tier users :=
        if Woven (users.map List.flatten) (orders.getD tier []) then orders.getD tier []
        else Weaver.inTurn.weave tier users
      woven tier users := by
        split
        · assumption
        · exact Weaver.inTurn.woven tier users }
  have hacts : ∀ i (ht : i < s.length) (ho : i < orders.length),
      s[i].acts weaver i = orders[i] := by
    intro i ht ho
    have hw := List.Forall₂.get h ht ho
    simp only [List.get_eq_getElem] at hw
    have hget : orders.getD i [] = orders[i] := by simp [List.getD, ho]
    show (if _ then orders.getD i [] else _) = _
    rw [hget, if_pos]
    rw [List.map_map]
    exact hw
  refine ⟨weaver, ?_⟩
  show (s.zipIdx.map fun x => x.1.acts weaver x.2).flatten = _
  congr 1
  refine List.ext_getElem (by simp [h.length_eq]) fun i h₁ h₂ => ?_
  rw [List.getElem_map, List.getElem_zipIdx, Nat.zero_add]
  exact hacts i (by simpa using h₁) h₂

end LoadTest.Run
