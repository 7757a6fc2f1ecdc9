import LoadTest.Decimal.Binary64

/-!
# Histograms of times

Times are counted in bins that grow with the value: up to 2047 every value has its own bin, from
there on each doubling of the value doubles the width of the bins. A value of more than 26 bits has
no bin and is counted as `clamp`.

* `binWidth`, `binLow`, `binHigh`   the bin of a value
* `Histogram.record`                counts a value
* `Histogram.rank`                  which of the counted values a quantile asks for
* `Histogram.atRank`, `Histogram.atQuantile`   the bin that holds it
-/

namespace LoadTest

namespace Histogram

def binWidth (v : Nat) : Nat := if v < 2048 then 1 else Decimal.twoPow (v.log2 - 10)

def binLow (v : Nat) : Nat := v / binWidth v * binWidth v

def binHigh (v : Nat) : Nat := binLow v + binWidth v - 1

/-- what stands for a value without a bin -/
def clamp : Nat := 60000000

/-- the value that is counted -/
def recorded (v : Nat) : Nat := if v < 67108864 then v else clamp

end Histogram

/-- the lowest values of the bins that hold something, in order, with their counts -/
structure Histogram where
  bins : List (Nat × Nat) := []
deriving DecidableEq, Repr, Inhabited

namespace Histogram

/-- counts one more value in the bin that starts at `low` -/
def countBin (low : Nat) : List (Nat × Nat) → List (Nat × Nat)
  | [] => [(low, 1)]
  | (l, n) :: rest =>
    if low < l then (low, 1) :: (l, n) :: rest
    else if low = l then (l, n + 1) :: rest
    else (l, n) :: countBin low rest

def record (h : Histogram) (v : Nat) : Histogram := ⟨countBin (binLow (recorded v)) h.bins⟩

def ofValues (vs : List Nat) : Histogram := vs.foldl record {}

def total (h : Histogram) : Nat := h.bins.foldr (fun b n => b.2 + n) 0

/-! ## quantiles -/

open Decimal

/-- the least integer not below the double nearest to `significand * 2 ^ exponent` -/
def ceilRounded (significand : Nat) (exponent : Int) : Nat :=
  let excess := significand.log2 - 52
  let (num, den) := scaledQuotient (roundDiv significand (twoPow excess)) (exponent + excess) 1
  ceilDiv num den

/-- The share `q` of `n` values, rounded up; at least the first and at most the last of them. -/
def rank (q : Float) (n : Nat) : Nat :=
  let wanted :=
    match Binary64.ofFloat q with
    | .nan => 1
    | .infinite negative => if negative then 1 else n
    | .finite negative significand exponent =>
      if negative then 1 else ceilRounded (significand * n) exponent
  max 1 (min wanted n)

def walk (rank : Nat) : List (Nat × Nat) → Option Nat
  | [] => none
  | (low, n) :: rest => if rank ≤ n then some low else walk (rank - n) rest

def atRank (h : Histogram) (rank : Nat) : Option Nat := walk rank h.bins

/-- The highest value of the bin, or its lowest one for the quantile zero. -/
def atQuantile (h : Histogram) (q : Float) : Option Nat :=
  (h.atRank (rank q h.total)).map fun low => if q == 0.0 then low else binHigh low

end Histogram

end LoadTest
