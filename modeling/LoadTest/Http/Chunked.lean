import LoadTest.Http.Head
import LoadTest.Text.Hex

/-!
# Bodies in chunks

Each chunk is announced by its size in hexadecimal digits, after which an extension may stand. A
chunk of size zero ends the body; header lines may follow it. Here every line ends with a carriage
return and a line feed.
-/

namespace LoadTest.Http

/-- the text up to a carriage return and a line feed, and what follows them -/
def strictLine? (s : Bytes) : Option (Bytes × Bytes) :=
  match s.dropWhile (· ≠ cr) with
  | _ :: b :: rest => if b = lf then some (s.takeWhile (· ≠ cr), rest) else none
  | _ => none

theorem length_lt_of_strictLine? {s line rest : Bytes} (h : strictLine? s = some (line, rest)) :
    rest.length < s.length := by
  have hle := (List.dropWhile_sublist (· ≠ cr) (l := s)).length_le
  unfold strictLine? at h
  split at h
  · next heq =>
    split at h
    · simp only [Option.some.injEq, Prod.mk.injEq] at h
      rw [heq] at hle
      simp only [List.length_cons] at hle
      rw [← h.2]
      omega
    · simp at h
  · simp at h

/-! ## sizes -/

structure ChunkLine where
  size : Nat
  extension : Nat
deriving DecidableEq, Repr

def hexDigit? (b : UInt8) : Option Nat := Text.hexValue (Char.ofUInt8 b)

/-- A size fits in 64 bits. Blanks may follow it, and an extension after a semicolon. -/
def ChunkLine.ofLine? (line : Bytes) : Option ChunkLine :=
  let isDigit (b : UInt8) : Bool := (hexDigit? b).isSome
  let size := ((line.takeWhile isDigit).filterMap hexDigit?).foldl (fun n d => 16 * n + d) 0
  if line.head?.any isDigit && size < UInt64.size && lf ∉ line then
    match (line.dropWhile isDigit).dropWhile isBlankByte with
    | [] => some ⟨size, 0⟩
    | b :: extension => if b = 0x3B then some ⟨size, extension.length⟩ else none
  else none

/-- the most bytes that the extensions of a body, or the lines after it, may take -/
def maxAside : Nat := 0x4000

/-! ## the end -/

def trailer? (s : Bytes) : Option (List Bytes) :=
  match _h : strictLine? s with
  | none => none
  | some ([], _) => some []
  | some (line, rest) => (trailer? rest).map (line :: ·)
termination_by s.length
decreasing_by exact length_lt_of_strictLine? _h

def isTrailer (lines : List Bytes) : Bool :=
  let text := lines.flatMap (· ++ [cr, lf])
  lines.length < Head.maxFields && text.length < maxAside &&
    (fields? lines.length (text ++ [cr, lf])).isSome

/-! ## bodies -/

def splitChunk? (size : Nat) (s : Bytes) : Option (Bytes × Bytes) :=
  match s.drop size with
  | b :: c :: rest => if b = cr ∧ c = lf then some (s.take size, rest) else none
  | _ => none

theorem length_lt_of_splitChunk? {size : Nat} {s chunk rest : Bytes}
    (h : splitChunk? size s = some (chunk, rest)) : rest.length < s.length := by
  unfold splitChunk? at h
  split at h
  · next heq =>
    split at h
    · simp only [Option.some.injEq, Prod.mk.injEq] at h
      have := congrArg List.length heq
      simp only [List.length_drop, List.length_cons] at this
      rw [← h.2]
      omega
    · simp at h
  · simp at h

/-- `aside` counts the bytes of the extensions so far -/
def unchunkedFrom? (aside : Nat) (s : Bytes) : Option Bytes :=
  match _hl : strictLine? s with
  | none => none
  | some (line, rest) =>
    match ChunkLine.ofLine? line with
    | none => none
    | some ⟨size, extension⟩ =>
      if maxAside ≤ aside + extension then none
      else if size = 0 then ((trailer? rest).filter isTrailer).map fun _ => []
      else
        match _hc : splitChunk? size rest with
        | none => none
        | some (chunk, more) => (unchunkedFrom? (aside + extension) more).map (chunk ++ ·)
termination_by s.length
decreasing_by exact Nat.lt_trans (length_lt_of_splitChunk? _hc) (length_lt_of_strictLine? _hl)

def unchunked? (s : Bytes) : Option Bytes := unchunkedFrom? 0 s

end LoadTest.Http
