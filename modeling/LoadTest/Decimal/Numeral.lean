import LoadTest.Decimal.Shortest

/-!
# Numerals of a data format

A numeral is a number as it is written: sign, whole part, fraction digits, exponent. Reading keeps
all of it, so that a numeral can be looked at as a 64-bit count, as a double, or as neither.
-/

namespace LoadTest.Decimal

structure Numeral where
  negative : Bool
  whole : Nat
  fraction : List (Fin 10)
  exponent : Option Int
deriving DecidableEq, Repr, Inhabited

namespace Numeral

/-! ## text -/

def digitChar (d : Fin 10) : Char := Nat.digitChar d

/-- `e` is always followed by a sign -/
def writeExponent : Option Int → List Char
  | none => []
  | some e => 'e' :: (if e < 0 then '-' else '+') :: Text.digits e.natAbs

def writeFraction : List (Fin 10) → List Char
  | [] => []
  | ds => '.' :: ds.map digitChar

def write (n : Numeral) : List Char :=
  (if n.negative then ['-'] else []) ++ Text.digits n.whole ++ writeFraction n.fraction ++
    writeExponent n.exponent

def digit? (c : Char) : Option (Fin 10) :=
  if c.isDigit then some (Fin.ofNat 10 (Text.digitValue c)) else none

def takeDigits : List Char → List (Fin 10) × List Char
  | [] => ([], [])
  | c :: s =>
    match digit? c with
    | some d => let (ds, rest) := takeDigits s; (d :: ds, rest)
    | none => ([], c :: s)

def ofDigitList (ds : List (Fin 10)) : Nat := ds.foldl (fun n d => 10 * n + d.val) 0

/-- at least one digit, and no zero in front of another digit -/
def readWhole (s : List Char) : Option (Nat × List Char) :=
  match takeDigits s with
  | ([], _) => none
  | (d :: [], rest) => some (d.val, rest)
  | (d :: ds, rest) => if d = 0 then none else some (ofDigitList (d :: ds), rest)

/-- a point asks for at least one digit -/
def readFraction : List Char → Option (List (Fin 10) × List Char)
  | '.' :: s =>
    match takeDigits s with
    | ([], _) => none
    | (ds, rest) => some (ds, rest)
  | s => some ([], s)

def readPower (negative : Bool) (s : List Char) : Option (Option Int × List Char) :=
  match takeDigits s with
  | ([], _) => none
  | (ds, rest) => some (some (if negative then -(ofDigitList ds : Int) else ofDigitList ds), rest)

def readExponent : List Char → Option (Option Int × List Char)
  | c :: s =>
    if c = 'e' ∨ c = 'E' then
      match s with
      | '+' :: s => readPower false s
      | '-' :: s => readPower true s
      | s => readPower false s
    else some (none, c :: s)
  | [] => some (none, [])

def readUnsigned (negative : Bool) (s : List Char) : Option (Numeral × List Char) := do
  let (whole, s) ← readWhole s
  let (fraction, s) ← readFraction s
  let (exponent, s) ← readExponent s
  return (⟨negative, whole, fraction, exponent⟩, s)

def read : List Char → Option (Numeral × List Char)
  | '-' :: s => readUnsigned true s
  | s => readUnsigned false s

/-! ## values -/

/-- no point, no exponent, no sign, and below `2 ^ 64` -/
def natural? (n : Numeral) : Option UInt64 :=
  if n.negative = false ∧ n.fraction = [] ∧ n.exponent = none ∧ n.whole < UInt64.size then
    some (UInt64.ofNat n.whole)
  else none

/-- drops digits at the end until the rest fits in 64 bits, and counts them -/
def fitWord (n : Nat) : Nat × Nat :=
  if n < UInt64.size then (n, 0)
  else
    let (m, dropped) := fitWord (n / 10)
    (m, dropped + 1)
termination_by n
decreasing_by
  next h =>
  simp only [UInt64.size] at h
  omega

/-- appends fraction digits while the result fits in 64 bits, and counts them -/
def appendDigits (n : Nat) : List (Fin 10) → Nat × Nat
  | [] => (n, 0)
  | d :: ds =>
    if 10 * n + d.val < UInt64.size then
      let (m, used) := appendDigits (10 * n + d.val) ds
      (m, used + 1)
    else (n, 0)

/-- The double nearest to `10 ^ n`. -/
def powerOfTen (n : Nat) : Float := Float.ofScientific 1 false n

/-- Multiplies with a power of ten in one step, or divides by it; beyond `10 ^ 308` it divides
several times. A product that is too large is no double. -/
def scale (x : Float) (e : Int) : Option Float :=
  if 308 < e then
    if x == 0.0 then some x else none
  else if 0 ≤ e then
    let y := x * powerOfTen e.toNat
    if y.isInf then none else some y
  else if -308 ≤ e then some (x / powerOfTen (-e).toNat)
  else if x == 0.0 then some x
  else scale (x / powerOfTen 308) (e + 308)
termination_by (-e).toNat
decreasing_by omega

/-- An exponent beyond 31 bits is too large, or makes zero. -/
def scaleBounded (significand : Nat) (shift : Int) (exponent : Int) : Option Float :=
  if 2147483648 ≤ exponent then
    if significand = 0 then some 0.0 else none
  else if exponent ≤ -2147483648 then some 0.0
  else scale (UInt64.ofNat significand).toFloat (shift + exponent)

/-- The digits count as long as they fit in 64 bits; the power of ten is applied to the double
nearest to them. -/
def float? (n : Numeral) : Option Float :=
  let (whole, dropped) := fitWord n.whole
  let (significand, used) := appendDigits whole n.fraction
  let magnitude := scaleBounded significand ((dropped : Int) - used) (n.exponent.getD 0)
  magnitude.map fun x => if n.negative then -x else x

/-! ## numerals of values -/

def ofNatural (n : Nat) : Numeral := ⟨false, n, [], none⟩

def ofInt (n : Int) : Numeral := ⟨decide (n < 0), n.natAbs, [], none⟩

def lastDigits : Nat → Nat → List (Fin 10)
  | 0, _ => []
  | width + 1, n => lastDigits width (n / 10) ++ [⟨n % 10, Nat.mod_lt _ (by decide)⟩]

def positional (negative : Bool) (digits : Nat) (exponent : Int) : Numeral :=
  if 0 ≤ exponent then ⟨negative, digits * tenPow exponent.toNat, [0], none⟩
  else
    let places := (-exponent).toNat
    ⟨negative, digits / tenPow places, lastDigits places digits, none⟩

def scientific (negative : Bool) (digits : Nat) (leading : Int) : Numeral :=
  let places := (Text.digits digits).length - 1
  ⟨negative, digits / tenPow places, lastDigits places digits, some leading⟩

/-- Positional when the first digit stands for a power of ten from -5 to 15, with at least one digit
after the point; otherwise with an exponent. Only finite doubles have a numeral. -/
def ofFloat? (x : Float) : Option Numeral :=
  match Binary64.ofFloat x with
  | .nan => none
  | .infinite _ => none
  | .finite negative 0 _ => some ⟨negative, 0, [0], none⟩
  | .finite negative significand exponent =>
    let d := shortest significand exponent
    let leading := d.exponent + ((Text.digits d.digits).length - 1 : Nat)
    if -5 ≤ leading ∧ leading < 16 then some (positional negative d.digits d.exponent)
    else some (scientific negative d.digits leading)

end Numeral

end LoadTest.Decimal
