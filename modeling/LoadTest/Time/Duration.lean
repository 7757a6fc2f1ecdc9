import LoadTest.Decimal.Binary64
import LoadTest.Text.Natural

/-!
# Durations
-/

namespace LoadTest

/-- nanoseconds on the run clock, counted from an origin of its own -/
abbrev Instant := Nat

/-- The clock goes on while an event is taken in: it shows `now`, and `pause` later it is read
again. -/
structure Tick where
  now : Instant
  pause : Nat := 0
deriving DecidableEq, Repr, Inhabited

namespace Tick

def again (t : Tick) : Instant := t.now + t.pause

instance : Coe Instant Tick := ⟨fun now => { now }⟩

instance (now : Nat) : OfNat Tick now := ⟨{ now }⟩

end Tick

structure Duration where
  nanos : Nat
deriving DecidableEq, Repr, Inhabited

namespace Duration

def perSecond : Nat := 1000000000

def zero : Duration := ⟨0⟩

def ofParts (seconds nanos : Nat) : Duration := ⟨seconds * perSecond + nanos⟩

/-- the whole seconds of a duration are counted in 64 bits -/
def ofParts? (seconds nanos : Nat) : Option Duration :=
  let d := ofParts seconds nanos
  if d.nanos < UInt64.size * perSecond then some d else none

def ofMillis (ms : Nat) : Duration := ⟨ms * 1000000⟩

/-- from one reading of the clock to a later one; zero if the second is not later -/
def between (start stop : Instant) : Duration := ⟨stop - start⟩

def wholeSeconds (d : Duration) : Nat := d.nanos / perSecond

def subNanos (d : Duration) : Nat := d.nanos % perSecond

def micros (d : Duration) : Nat := d.nanos / 1000

/-- the length in seconds: whole seconds plus the fraction, each a double -/
def seconds (d : Duration) : Float :=
  (UInt64.ofNat d.wholeSeconds).toFloat + (UInt64.ofNat d.subNanos).toFloat / 1000000000.0

open Decimal in
/-- Rounds to whole nanoseconds, a half to the even neighbour. Nothing below zero, not finite, or
from `2 ^ 64` seconds on is a duration. -/
def ofSeconds? (x : Float) : Option Duration :=
  match Binary64.ofFloat x with
  | .nan => none
  | .infinite _ => none
  | .finite negative significand exponent =>
    if negative = true ∧ significand ≠ 0 then none
    else
      let (num, den) := scaledQuotient significand exponent 1
      if num / den < UInt64.size then some ⟨roundDiv (num * perSecond) den⟩ else none

/-! ## text -/

/-- the digits of a fraction without zeros at the end, with the point if there are any -/
def fractionText (places n : Nat) : List Char :=
  let kept := ((Text.paddedDigits places n).reverse.dropWhile (· = '0')).reverse
  if kept = [] then [] else '.' :: kept

def inUnit (n places : Nat) (unit : String) : String :=
  let one := Decimal.tenPow places
  Text.decimal (n / one) ++ String.ofList (fractionText places (n % one)) ++ unit

def describe (d : Duration) : String :=
  if perSecond ≤ d.nanos then inUnit d.nanos 9 "s"
  else if 1000000 ≤ d.nanos then inUnit d.nanos 6 "ms"
  else if 1000 ≤ d.nanos then inUnit d.nanos 3 "µs"
  else inUnit d.nanos 0 "ns"

end Duration

/-- A moment is a number of nanoseconds from the Unix epoch on, or before it. The system counts its
seconds in 64 bits with a sign. -/
def isOnCalendar (nanos : Int) : Bool :=
  let bound : Int := 0x8000000000000000 * Duration.perSecond
  nanos < bound && -bound ≤ nanos

end LoadTest
