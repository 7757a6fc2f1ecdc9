import LoadTest.Http.Message
import LoadTest.Text.Lines

/-!
# Heads of answers

A head is a status line and header lines up to an empty line. A line ends with a line feed, to which
a carriage return before it belongs.
-/

namespace LoadTest.Http

/-! ## bytes -/

def tab : UInt8 := 0x09
def lf : UInt8 := 0x0A
def cr : UInt8 := 0x0D
def space : UInt8 := 0x20

def isBlankByte (b : UInt8) : Bool := b = space || b = tab

def trimBytes (s : Bytes) : Bytes :=
  ((s.dropWhile isBlankByte).reverse.dropWhile isBlankByte).reverse

def isTextByte (b : UInt8) : Bool := b = tab || (space ≤ b && b ≠ 0x7F)

def plainText (s : Bytes) : String := String.ofList (s.map Char.ofUInt8)

/-! ## lines -/

def splitLine? (s : Bytes) : Option (Bytes × Bytes) :=
  match s.dropWhile (· ≠ lf) with
  | [] => none
  | _ :: rest => some (Text.dropReturn cr (s.takeWhile (· ≠ lf)), rest)

theorem length_lt_of_splitLine? {s line rest : Bytes} (h : splitLine? s = some (line, rest)) :
    rest.length < s.length := by
  have hle := (List.dropWhile_sublist (· ≠ lf) (l := s)).length_le
  unfold splitLine? at h
  split at h
  · simp at h
  · next heq =>
    simp only [Option.some.injEq, Prod.mk.injEq] at h
    rw [heq, List.length_cons] at hle
    rw [← h.2]
    omega

def skipEmptyLines : Bytes → Bytes
  | b :: s =>
    if b = lf then skipEmptyLines s
    else if b = cr then
      match s with
      | c :: t => if c = lf then skipEmptyLines t else b :: s
      | [] => [b]
    else b :: s
  | [] => []

theorem length_skipEmptyLines_le (s : Bytes) : (skipEmptyLines s).length ≤ s.length := by
  fun_induction skipEmptyLines s <;> simp_all <;> omega

/-! ## fields -/

/-- a name, a colon right after it, and a value whose blanks at both ends do not count -/
def Field.ofLine? (line : Bytes) : Option Field :=
  let isColon (b : UInt8) : Bool := b = 0x3A
  let name := plainText (line.takeWhile (!isColon ·))
  let value := trimBytes ((line.dropWhile (!isColon ·)).drop 1)
  if line.any isColon && Header.isName name && value.all isTextByte then some (name, value)
  else none

def fields? : Nat → Bytes → Option (List Field × Bytes)
  | n, s =>
    match splitLine? s with
    | none => none
    | some ([], rest) => some ([], rest)
    | some (line, rest) =>
      match n with
      | 0 => none
      | n + 1 => do
        let field ← Field.ofLine? line
        let (fields, rest) ← fields? n rest
        return (field :: fields, rest)

theorem length_lt_of_fields? {n : Nat} {s rest : Bytes} {fields : List Field}
    (h : fields? n s = some (fields, rest)) : rest.length < s.length := by
  induction n generalizing s fields with
  | zero =>
    unfold fields? at h
    split at h
    · simp at h
    · next hl =>
      simp only [Option.some.injEq, Prod.mk.injEq] at h
      exact h.2 ▸ length_lt_of_splitLine? hl
    · simp at h
  | succ n ih =>
    unfold fields? at h
    split at h
    · simp at h
    · next hl =>
      simp only [Option.some.injEq, Prod.mk.injEq] at h
      exact h.2 ▸ length_lt_of_splitLine? hl
    · next hl =>
      simp only [Option.bind_eq_bind, Option.bind_eq_some_iff, Option.pure_def, Option.some.injEq,
        Prod.mk.injEq] at h
      obtain ⟨_, _, ⟨_, _⟩, hr, _, rfl⟩ := h
      exact Nat.lt_trans (ih hr) (length_lt_of_splitLine? hl)

/-! ## heads -/

structure Head where
  version : Version
  status : Nat
  fields : List Field
deriving DecidableEq, Repr

namespace Head

def maxFields : Nat := 100

def version? (s : Bytes) : Option Version :=
  if s = Text.utf8 "HTTP/1.0" then some .http10
  else if s = Text.utf8 "HTTP/1.1" then some .http11
  else none

def status? (s : Bytes) : Option Nat :=
  if s.length = 3 then (Text.ofDigits (s.map Char.ofUInt8)).filter isStatus else none

/-- nothing, or a space and a phrase -/
def isReason : Bytes → Bool
  | [] => true
  | b :: s => b = space && s.all isTextByte

def statusLine? (line : Bytes) : Option (Version × Nat) := do
  let version ← version? (line.take 8)
  let status ← status? ((line.drop 9).take 3)
  if (line.drop 8).head? = some space ∧ isReason (line.drop 12) then return (version, status)
  else none

def read? (s : Bytes) : Option (Head × Bytes) := do
  let (line, rest) ← splitLine? (skipEmptyLines s)
  let (version, status) ← statusLine? line
  let (fields, rest) ← fields? maxFields rest
  return (⟨version, status, fields⟩, rest)

theorem length_lt_of_read? {s rest : Bytes} {head : Head} (h : read? s = some (head, rest)) :
    rest.length < s.length := by
  simp only [read?, Option.bind_eq_bind, Option.bind_eq_some_iff, Option.pure_def,
    Option.some.injEq, Prod.mk.injEq] at h
  obtain ⟨⟨_, _⟩, hl, ⟨_, _⟩, _, ⟨_, _⟩, hf, _, rfl⟩ := h
  exact Nat.lt_of_lt_of_le
    (Nat.lt_trans (length_lt_of_fields? hf) (length_lt_of_splitLine? hl))
    (length_skipEmptyLines_le s)

/-- interim heads are passed over -/
def final? (s : Bytes) : Option (Head × Bytes) :=
  match _h : read? s with
  | none => none
  | some (head, rest) => if isInterim head.status then final? rest else some (head, rest)
termination_by s.length
decreasing_by exact length_lt_of_read? _h

end Head

end LoadTest.Http
