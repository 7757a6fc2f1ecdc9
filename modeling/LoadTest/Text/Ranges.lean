import LoadTest.Text.Hex

/-!
# Tables of characters

A table is written as lines of words that are separated by spaces. Code points are written in
hexadecimal, and those between two of them with a hyphen.
-/

namespace LoadTest.Text

/-! ## words -/

/-- what stands before and after the first `mark`; all of it before, if there is none -/
def splitAt (mark : Char) (s : List Char) : List Char × List Char :=
  (s.takeWhile (· ≠ mark), (s.dropWhile (· ≠ mark)).drop 1)

theorem splitAt_append {mark : Char} {a b : List Char} (h : mark ∉ a) :
    splitAt mark (a ++ mark :: b) = (a, b) := by
  have hne : ∀ c ∈ a, decide (c ≠ mark) = true := by
    intro c hc
    rw [decide_eq_true_eq]
    rintro rfl
    exact h hc
  rw [splitAt, List.takeWhile_append_of_pos hne, List.dropWhile_append_of_pos hne]
  simp

def wordsOf (lines : List String) : List (List Char) :=
  lines.flatMap fun line => line.toList.splitOn ' '

def hexNumber (s : List Char) : Nat := (s.filterMap hexValue).foldl (fun n d => 16 * n + d) 0

/-! ## ranges -/

structure CodeRange where
  first : Nat
  last : Nat
deriving DecidableEq, Repr

namespace CodeRange

def ofText (s : List Char) : CodeRange :=
  let (first, last) := splitAt '-' s
  ⟨hexNumber first, hexNumber (if last = [] then first else last)⟩

def contains (r : CodeRange) (c : Char) : Bool := r.first ≤ c.toNat && c.toNat ≤ r.last

end CodeRange

def rangesOf (lines : List String) : List CodeRange := (wordsOf lines).map CodeRange.ofText

def isIn (ranges : List CodeRange) (c : Char) : Bool := ranges.any (·.contains c)

/-! ## values -/

variable {α : Type}

def valuesOf (table : List (α × List String)) : List (CodeRange × α) :=
  table.flatMap fun (value, lines) => (rangesOf lines).map fun r => (r, value)

def valueIn? (ranges : List (CodeRange × α)) (c : Char) : Option α :=
  (ranges.find? fun r => r.1.contains c).map (·.2)

end LoadTest.Text
