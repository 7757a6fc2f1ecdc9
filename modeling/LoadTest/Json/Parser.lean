import LoadTest.Json.Basic
import LoadTest.Text.Hex

/-!
# Reading JSON
-/

namespace LoadTest.Json

def isSpace (c : Char) : Bool := c = ' ' || c = '\t' || c = '\n' || c = '\r'

def skip (s : List Char) : List Char := s.dropWhile isSpace

/-! ## strings -/

/-- one unit of a string: a character, or the four digits of an escape -/
inductive Piece where
  | char (c : Char)
  | unit (u : Nat)
deriving DecidableEq

def hexUnit (a b c d : Char) : Option Nat := do
  let high := (← Text.hexValue a) * 16 + (← Text.hexValue b)
  let low := (← Text.hexValue c) * 16 + (← Text.hexValue d)
  return high * 256 + low

def simpleEscape (c : Char) : Option Char :=
  if c = '"' ∨ c = '\\' ∨ c = '/' then some c
  else if c = 'b' then some '\x08'
  else if c = 'f' then some '\x0c'
  else if c = 'n' then some '\n'
  else if c = 'r' then some '\r'
  else if c = 't' then some '\t'
  else none

/-- the string whose opening quote has been read, and the rest after its closing quote -/
def pieces : List Char → Option (List Piece × List Char)
  | [] => none
  | '"' :: s => some ([], s)
  | '\\' :: 'u' :: a :: b :: c :: d :: s =>
    match hexUnit a b c d, pieces s with
    | some u, some (ps, rest) => some (.unit u :: ps, rest)
    | _, _ => none
  | '\\' :: e :: s =>
    match simpleEscape e, pieces s with
    | some c, some (ps, rest) => some (.char c :: ps, rest)
    | _, _ => none
  | c :: s =>
    if c.toNat < 0x20 then none
    else
      match pieces s with
      | some (ps, rest) => some (.char c :: ps, rest)
      | none => none

def isHighHalf (u : Nat) : Bool := 0xD800 ≤ u && u < 0xDC00

def isLowHalf (u : Nat) : Bool := 0xDC00 ≤ u && u < 0xE000

/-- Two escapes in a row can be the halves of one character; a half alone spells nothing. -/
def assemble : List Piece → Option (List Char)
  | [] => some []
  | .char c :: ps => (assemble ps).map (c :: ·)
  | .unit u :: ps =>
    if isLowHalf u then none
    else if isHighHalf u then
      match ps with
      | .unit v :: ps =>
        if isLowHalf v then
          (assemble ps).map (Char.ofNat (0x10000 + (u - 0xD800) * 0x400 + (v - 0xDC00)) :: ·)
        else none
      | _ => none
    else (assemble ps).map (Char.ofNat u :: ·)

def string? (s : List Char) : Option (Option String × List Char) :=
  (pieces s).map fun (ps, rest) => ((assemble ps).map String.ofList, rest)

/-! ## values -/

mutual
/-- The value at the front of a text, blanks before it skipped, and the rest. -/
def value : Nat → List Char → Option (Json × List Char)
  | 0, _ => none
  | fuel + 1, s =>
    match skip s with
    | 'n' :: 'u' :: 'l' :: 'l' :: rest => some (.null, rest)
    | 't' :: 'r' :: 'u' :: 'e' :: rest => some (.bool true, rest)
    | 'f' :: 'a' :: 'l' :: 's' :: 'e' :: rest => some (.bool false, rest)
    | '"' :: rest => (string? rest).map fun (t, rest) => (.text t, rest)
    | '[' :: rest =>
      match skip rest with
      | ']' :: rest => some (.array [], rest)
      | _ => (items fuel rest).map fun (vs, rest) => (.array vs, rest)
    | '{' :: rest =>
      match skip rest with
      | '}' :: rest => some (.object [], rest)
      | _ => (members fuel rest).map fun (ms, rest) => (.object ms, rest)
    | s => (Decimal.Numeral.read s).map fun (n, rest) => (.number n, rest)

def items : Nat → List Char → Option (List Json × List Char)
  | 0, _ => none
  | fuel + 1, s =>
    match value fuel s with
    | none => none
    | some (v, rest) =>
      match skip rest with
      | ']' :: rest => some ([v], rest)
      | ',' :: rest => (items fuel rest).map fun (vs, rest) => (v :: vs, rest)
      | _ => none

def members : Nat → List Char → Option (List Member × List Char)
  | 0, _ => none
  | fuel + 1, s =>
    match skip s with
    | '"' :: rest =>
      match string? rest with
      | none => none
      | some (k, rest) =>
        match skip rest with
        | ':' :: rest =>
          match value fuel rest with
          | none => none
          | some (v, rest) =>
            match skip rest with
            | '}' :: rest => some ([(k, v)], rest)
            | ',' :: rest => (members fuel rest).map fun (ms, rest) => ((k, v) :: ms, rest)
            | _ => none
        | _ => none
    | _ => none
end

/-- The value at the front of a whole text, and the rest. Each level of nesting and each item takes
a character, so twice the length of the text bounds the descent. -/
def front (s : List Char) : Option (Json × List Char) := value (2 * s.length + 2) s

def isDone (s : List Char) : Bool := (skip s).isEmpty

/-- The value of a whole text; only blanks may follow it. -/
def parse (s : List Char) : Option Json :=
  match front s with
  | some (v, rest) => if isDone rest then some v else none
  | none => none

theorem parse_eq_some_iff {s : List Char} {v : Json} :
    parse s = some v ↔ ∃ rest, front s = some (v, rest) ∧ isDone rest = true := by
  unfold parse
  cases front s with
  | none => simp
  | some p =>
    obtain ⟨w, rest⟩ := p
    by_cases hd : isDone rest
    · simp [hd, and_assoc]
    · simp [hd]

end LoadTest.Json
