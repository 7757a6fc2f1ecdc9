/-!
# Punycode

A label with letters of any script is written in ASCII: first its ASCII characters, then, after a
hyphen, where the others are to be inserted. Each of these is a number with digits of growing
weight, and the numbers go up through the code points and the places for them.
-/

namespace LoadTest.Punycode

/-! ## numbers -/

/-- letters first, then the ten digits -/
def digit? (c : Char) : Option Nat :=
  if c.isAlpha then some (c.toLower.toNat - 'a'.toNat)
  else if c.isDigit then some (c.toNat - '0'.toNat + 26)
  else none

/-- A digit below the threshold is the last of its number. -/
def threshold (place bias : Nat) : Nat :=
  if place ≤ bias then 1 else if bias + 26 ≤ place then 26 else place - bias

/-- numbers have 32 bits -/
def word? (n : Nat) : Option Nat := if n < 0x100000000 then some n else none

/-- The digits of a number are added to `total`, the least one first. -/
def delta? (bias place weight total : Nat) : List Char → Option (Nat × List Char)
  | [] => none
  | c :: s => do
    let digit ← digit? c
    let total ← word? (total + digit * weight)
    let limit := threshold place bias
    if digit < limit then return (total, s)
    let weight ← word? (weight * (36 - limit))
    delta? bias (place + 36) weight total s

theorem length_lt_of_delta? {bias place weight total n : Nat} {s rest : List Char}
    (h : delta? bias place weight total s = some (n, rest)) : rest.length < s.length := by
  induction s generalizing place weight total with
  | nil => simp [delta?] at h
  | cons c s ih =>
    simp only [delta?, Option.bind_eq_bind, Option.bind_eq_some_iff] at h
    obtain ⟨_, _, _, _, h⟩ := h
    split at h
    · simp only [Option.pure_def, Option.some.injEq, Prod.mk.injEq] at h
      simp [← h.2]
    · simp only [Option.bind_eq_some_iff] at h
      obtain ⟨_, _, h⟩ := h
      exact Nat.lt_succ_of_lt (ih h)

/-! ## thresholds -/

/-- how often a number can be divided by 35 before it is small, times 36 -/
def scale (n place : Nat) : Nat × Nat :=
  if 455 < n then scale (n / 35) (place + 36) else (n, place)
termination_by n
decreasing_by omega

/-- the bias for the next number, after `n` has brought the label to `count` characters -/
def adapt (n count : Nat) (isFirst : Bool) : Nat :=
  let n := if isFirst then n / 700 else n / 2
  let (n, place) := scale (n + n / count) 0
  place + 36 * n / (n + 38)

/-! ## labels -/

/-- `code` is the last code point that was inserted, and the next place is `place`. -/
def insertAll (bias code place : Nat) (out s : List Char) : Option (List Char) :=
  if s = [] then some out
  else
    match _h : delta? bias 36 1 place s with
    | none => none
    | some (n, rest) =>
      let count := out.length + 1
      let code := code + n / count
      if code.isValidChar then
        insertAll (adapt (n - place) count (place = 0)) code (n % count + 1)
          (out.insertIdx (n % count) (Char.ofNat code)) rest
      else none
termination_by s.length
decreasing_by exact length_lt_of_delta? _h

/-- The last hyphen ends the ASCII characters. One with nothing before it is no digit. -/
def decode? (s : List Char) : Option (List Char) :=
  match s.reverse.dropWhile (· ≠ '-') with
  | [] | ['-'] => insertAll 72 128 0 [] s
  | _ :: front => insertAll 72 128 0 front.reverse (s.drop (front.length + 1))

end LoadTest.Punycode
