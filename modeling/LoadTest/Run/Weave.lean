/-!
# Interleavings

What several users do at the same time is one sequence that keeps the order of each of them.

* `Woven`             a sequence is an interleaving of several
* `Weaver`            a rule that makes an interleaving of what users do, chunk by chunk
* `Weaver.inTurn`     one user after the other
* `Weaver.rounds`     one chunk of each user, in order, and again
-/

namespace LoadTest.Run

variable {α : Type}

/-- `Woven logs w`: the sequence `w` takes each element off the front of one of the `logs`, until
nothing is left in them. -/
inductive Woven : List (List α) → List α → Prop
  | done {logs : List (List α)} (h : ∀ l ∈ logs, l = []) : Woven logs []
  | take {before after : List (List α)} {x : α} {l w : List α} :
      Woven (before ++ l :: after) w → Woven (before ++ (x :: l) :: after) (x :: w)

namespace Woven

/-- a whole stretch off the front of one log -/
theorem takeMany {before after : List (List α)} {l w : List α} (p : List α)
    (h : Woven (before ++ l :: after) w) : Woven (before ++ (p ++ l) :: after) (p ++ w) := by
  induction p with
  | nil => exact h
  | cons x p ih => exact .take ih

/-- a stretch off the front of each log, in order -/
theorem takeEach {β : Type} (front rest : β → List α) (users : List β) {before : List (List α)}
    {w : List α} (h : Woven (before ++ users.map rest) w) :
    Woven (before ++ users.map fun u => front u ++ rest u) (users.flatMap front ++ w) := by
  induction users generalizing before with
  | nil => exact h
  | cons u users ih =>
    have ih := @ih (before ++ [rest u]) (by simpa using h)
    have := @takeMany _ before _ _ _ (front u) (by simpa using ih)
    simpa using this

end Woven

/-! ## rules -/

/-- What each user does comes in chunks; the elements of a chunk may be separated. The users of each
tier, given by its position in the plan, may be interleaved in another way. -/
structure Weaver (α : Type) where
  weave : Nat → List (List (List α)) → List α
  woven : ∀ tier users, Woven (users.map List.flatten) (weave tier users)

namespace Weaver

def inTurn : Weaver α where
  weave _ users := users.flatMap List.flatten
  woven _ users := by
    have h : Woven ([] ++ users.map fun _ => ([] : List α)) [] := .done (by simp)
    simpa using Woven.takeEach List.flatten (fun _ => []) users h

/-- `n` rounds over the users -/
def roundsOf : Nat → List (List (List α)) → List α
  | 0, _ => []
  | n + 1, users => users.flatMap (fun u => u.headD []) ++ roundsOf n (users.map List.tail)

def longest (users : List (List (List α))) : Nat := users.foldr (fun u n => max u.length n) 0

theorem length_le_longest {users : List (List (List α))} {u : List (List α)} (h : u ∈ users) :
    u.length ≤ longest users := by
  induction users with
  | nil => simp at h
  | cons v users ih =>
    simp only [longest, List.foldr_cons]
    rcases List.mem_cons.1 h with rfl | h
    · exact Nat.le_max_left _ _
    · exact Nat.le_trans (ih h) (Nat.le_max_right _ _)

theorem woven_roundsOf (n : Nat) (users : List (List (List α))) (h : ∀ u ∈ users, u.length ≤ n) :
    Woven (users.map List.flatten) (roundsOf n users) := by
  induction n generalizing users with
  | zero =>
    refine .done fun l hl => ?_
    obtain ⟨u, hu, rfl⟩ := List.mem_map.1 hl
    simp [List.eq_nil_of_length_eq_zero (Nat.le_zero.1 (h u hu))]
  | succ n ih =>
    have ih := ih (users.map List.tail) fun u hu => by
      obtain ⟨v, hv, rfl⟩ := List.mem_map.1 hu
      have := h v hv
      simp only [List.length_tail]
      omega
    rw [List.map_map] at ih
    have := @Woven.takeEach _ _ (fun u => u.headD []) (List.flatten ∘ List.tail) users [] _ ih
    have split : ∀ u : List (List α), u.headD [] ++ (List.flatten ∘ List.tail) u = u.flatten :=
      fun u => by cases u <;> simp
    simp only [List.nil_append, split] at this
    exact this

def rounds : Weaver α where
  weave _ users := roundsOf (longest users) users
  woven _ users := woven_roundsOf _ users fun _ => length_le_longest

end Weaver

end LoadTest.Run
