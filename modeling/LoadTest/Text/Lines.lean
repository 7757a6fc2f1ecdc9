/-!
# Lines

A line feed ends a line, a carriage return before it belongs to the line end, and what stands
after the last line feed is a line as it is unless it is empty.
-/

namespace LoadTest.Text

variable {α : Type} [BEq α]

def dropReturn (cr : α) (l : List α) : List α :=
  if l.getLast? == some cr then l.dropLast else l

def lines (lf cr : α) (s : List α) : List (List α) :=
  let parts := s.splitOn lf
  parts.dropLast.map (dropReturn cr) ++
    (match parts.getLast? with
     | some (c :: rest) => [c :: rest]
     | _ => [])

def firstLine (lf : α) : List α → List α
  | [] => []
  | c :: s => if c == lf then [c] else c :: firstLine lf s

variable [LawfulBEq α]

/-- what stands after a line feed does not matter -/
theorem firstLine_append_cons (lf : α) (line rest rest' : List α) :
    firstLine lf (line ++ lf :: rest) = firstLine lf (line ++ lf :: rest') := by
  induction line with
  | nil => simp [firstLine]
  | cons c line ih => rw [List.cons_append, List.cons_append, firstLine, firstLine, ih]

/-- a text without a line feed is all on its first line -/
theorem firstLine_eq_self {lf : α} {line : List α} (h : lf ∉ line) : firstLine lf line = line := by
  induction line with
  | nil => rfl
  | cons c line ih =>
    obtain ⟨hc, hline⟩ := not_or.1 (mt List.mem_cons.2 h)
    rw [firstLine, if_neg (fun heq => hc (eq_of_beq heq).symm), ih hline]

theorem firstLine_append {lf : α} {line : List α} (h : lf ∉ line) (rest : List α) :
    firstLine lf (line ++ lf :: rest) = line ++ [lf] := by
  induction line with
  | nil => rw [List.nil_append, firstLine, if_pos (beq_self_eq_true lf), List.nil_append]
  | cons c line ih =>
    obtain ⟨hc, hline⟩ := not_or.1 (mt List.mem_cons.2 h)
    rw [List.cons_append, firstLine, if_neg (fun heq => hc (eq_of_beq heq).symm), ih hline,
      List.cons_append]

end LoadTest.Text
