import LoadTest.Text.Combining
import LoadTest.Text.Composite

/-!
# The composed normal form

Texts that look the same are written the same: characters are taken apart, marks are put in order,
and what can be written as one character is.
-/

namespace LoadTest.Text

/-! ## taking apart -/

/-- A composite is taken apart at most `depth` times; only its first part can be one itself. -/
def decomposeTo (depth : Nat) (c : Char) : List Char :=
  match depth with
  | 0 => [c]
  | depth + 1 =>
    match parts? c with
    | none => [c]
    | some (a, b) => decomposeTo depth a ++ [b]

/-- no character stands for more than four others -/
def decompose (c : Char) : List Char := decomposeTo 3 c

/-! ## order -/

/-- puts a mark behind the marks of smaller classes -/
def insertMark (c : Char) : List Char → List Char
  | [] => [c]
  | d :: s =>
    if combiningClass d ≠ 0 ∧ combiningClass d < combiningClass c then d :: insertMark c s
    else c :: d :: s

def orderMarks (s : List Char) : List Char := s.foldr insertMark []

theorem insertMark_perm (c : Char) (s : List Char) : (insertMark c s).Perm (c :: s) := by
  induction s with
  | nil => exact .refl _
  | cons d s ih =>
    unfold insertMark
    split
    · exact (ih.cons d).trans (.swap c d s)
    · exact .refl _

theorem orderMarks_perm (s : List Char) : (orderMarks s).Perm s := by
  induction s with
  | nil => exact .refl _
  | cons c s ih => exact (insertMark_perm c _).trans (ih.cons c)

/-! ## putting together -/

/-- `base` takes in the marks that nothing keeps from it; `marks` are those after it that it could
not take in, the last one first, and `last` is the class of that one. -/
def recomposeFrom (base : Char) (marks : List Char) (last : Nat) : List Char → List Char
  | [] => base :: marks.reverse
  | c :: s =>
    let cc := combiningClass c
    match if marks = [] ∨ last < cc then composite? base c else none with
    | some whole => recomposeFrom whole marks last s
    | none =>
      if cc = 0 then base :: marks.reverse ++ recomposeFrom c [] 0 s
      else recomposeFrom base (c :: marks) cc s

def recompose : List Char → List Char
  | [] => []
  | c :: s => recomposeFrom c [] 0 s

/-! ## all -/

/-- Below the first mark all characters are in normal form. -/
def normalForm (s : List Char) : List Char :=
  if s.all (·.toNat < 0x300) then s else recompose (orderMarks (s.flatMap decompose))

end LoadTest.Text
