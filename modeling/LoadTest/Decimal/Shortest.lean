import LoadTest.Decimal.Binary64
import LoadTest.Text.Natural

/-!
# The fewest digits that read back

Between a double's two neighbours lies an interval of reals that all round to it; its ends belong
to it when the significand is even. The shortest decimal is found on the coarsest decimal grid that
has a point in that interval: only the two grid points next to the value have to be looked at.
-/

namespace LoadTest.Decimal

structure Scaled where
  digits : Nat
  exponent : Int
deriving DecidableEq, Repr

/-- the power of ten of the first digit of `num / den`, for values not below `10 ^ (-400)` -/
def leadingExponent (num den : Nat) : Int :=
  ((Text.digits (num * tenPow 400 / den)).length : Int) - 401

/-- the point `c` of the grid with step `10 ^ k`, compared with `num / den` -/
def gridCompare (c : Nat) (k : Int) (num den : Nat) : Ordering :=
  if 0 ≤ k then compare (c * tenPow k.toNat * den) num
  else compare (c * den) (num * tenPow (-k).toNat)

/-- what rounds to the double: from `low / den` to `high / den` -/
structure Span where
  low : Nat
  value : Nat
  high : Nat
  den : Nat
  closed : Bool

def Span.holds (s : Span) (c : Nat) (k : Int) : Bool :=
  let above := gridCompare c k s.low s.den
  let below := gridCompare c k s.high s.den
  (above == .gt || (s.closed && above == .eq)) && (below == .lt || (s.closed && below == .eq))

/-- the nearer of the two grid points around the value that lie in the span -/
def Span.gridPoint (s : Span) (k : Int) : Option Nat :=
  let (num, den) := if 0 ≤ k then (s.value, s.den * tenPow k.toNat)
    else (s.value * tenPow (-k).toNat, s.den)
  let floor := num / den
  let near := roundDiv num den
  if s.holds near k then some near
  else if s.holds floor k then some floor
  else if s.holds (floor + 1) k then some (floor + 1)
  else none

/-- looks at one grid after the other, each ten times as fine as the last -/
def Span.search (s : Span) (k : Int) : Nat → Scaled
  | 0 => ⟨s.value / s.den, 0⟩
  | fuel + 1 =>
    match s.gridPoint k with
    | some c => ⟨c, k⟩
    | none => s.search (k - 1) fuel

def Scaled.strip (d : Scaled) : Nat → Scaled
  | 0 => d
  | fuel + 1 =>
    if d.digits ≠ 0 ∧ d.digits % 10 = 0 then Scaled.strip ⟨d.digits / 10, d.exponent + 1⟩ fuel
    else d

/-- The shortest decimal of the positive double `significand * 2 ^ exponent`; seventeen digits
always suffice. Below a power of two the neighbour is only half as far away. -/
def shortest (significand : Nat) (exponent : Int) : Scaled :=
  let (value, den) := scaledQuotient (4 * significand) (exponent - 2) 1
  let (step, _) := scaledQuotient 1 (exponent - 2) 1
  let lower := if significand = Binary64.implicitBit ∧ exponent ≠ -1074 then step else 2 * step
  let span : Span := ⟨value - lower, value, value + 2 * step, den, significand % 2 == 0⟩
  Scaled.strip (span.search (leadingExponent value den) 18) 20

end LoadTest.Decimal
