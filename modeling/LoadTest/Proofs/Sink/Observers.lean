import LoadTest.Sink.Hub

/-!
# What observers are told

* `Hub.seenBy_noticesOf`   one notice of an event is for each observer
* `Hub.seenBy_forward`     an observer is told of every event
* `Hub.sink_applyAll`, `Hub.seenBy_applyAll`   a history is taken in and told in order
-/

namespace LoadTest.Hub

theorem seenBy_noticesOf (observers : Array Observer) (e : Event) {i : Nat}
    (hi : i < observers.size) :
    ((noticesOf observers e).toList.filter fun n => n.observer = i).map Notice.event = [e] := by
  have hplace : ∀ (os : List Observer) (k : Nat), k ≤ i → i < k + os.length →
      (((os.zipIdx k).filter fun oi => oi.2 = i).map fun _ => e) = [e] := by
    intro os
    induction os with
    | nil => exact fun k hk hlt => absurd hlt (Nat.not_lt_of_le hk)
    | cons o os ih =>
      intro k hk hlt
      rw [List.zipIdx_cons, List.filter_cons]
      by_cases hki : k = i
      · have hlater : (os.zipIdx (k + 1)).filter (fun oi => oi.2 = i) = [] := by
          rw [List.filter_eq_nil_iff]
          rintro ⟨o, j⟩ hj
          have hle : k + 1 ≤ j := List.le_snd_of_mem_zipIdx hj
          have hne : j ≠ i := by omega
          simpa using hne
        rw [if_pos (by simpa using hki), hlater]
        rfl
      · simpa [hki] using ih (k + 1) (by omega) (by simp at hlt; omega)
  rw [noticesOf, Array.toList_mapIdx, List.mapIdx_eq_zipIdx_map, List.filter_map, List.map_map]
  exact hplace observers.toList 0 (Nat.zero_le _) (by simpa using hi)

theorem seenBy_forward (h : Hub) (e : Event) {i : Nat} (hi : i < h.observers.size) :
    (h.forward e).seenBy i = h.seenBy i ++ [e] := by
  have hone := seenBy_noticesOf h.observers e hi
  simp only [seenBy, forward, Array.toList_append, List.filter_append, List.map_append, hone]

theorem seenBy_apply (h : Hub) (t : Tick) (e : Event) {i : Nat} (hi : i < h.observers.size) :
    (h.apply t e).seenBy i = h.seenBy i ++ [e] :=
  seenBy_forward { h with sink := h.sink.commit t e } e hi

/-! ## histories -/

theorem applyAll_cons (h : Hub) (te : Tick × Event) (history : History) :
    h.applyAll (te :: history) = (h.apply te.1 te.2).applyAll history := rfl

theorem sink_applyAll (h : Hub) (history : History) :
    (h.applyAll history).sink = h.sink.commitAll history := by
  induction history generalizing h with
  | nil => rfl
  | cons te history ih =>
    rw [applyAll_cons, ih]
    rfl

theorem seenBy_applyAll (h : Hub) (history : History) {i : Nat} (hi : i < h.observers.size) :
    (h.applyAll history).seenBy i = h.seenBy i ++ history.map Prod.snd := by
  induction history generalizing h with
  | nil => exact (List.append_nil _).symm
  | cons te history ih =>
    rw [applyAll_cons, ih (h.apply te.1 te.2) hi, seenBy_apply h te.1 te.2 hi, List.append_assoc]
    rfl

end LoadTest.Hub
