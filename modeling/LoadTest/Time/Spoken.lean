import LoadTest.Text.Blank
import LoadTest.Text.Natural
import LoadTest.Time.Duration

/-!
# Durations as people write them

A duration is written as one or more numbers, each with a unit after it: `1m 30s`, `250ms`, `1.5h`.
Blanks may stand between the digits of a number and before its unit.
-/

namespace LoadTest

/-! ## units -/

inductive TimeUnit where
  | nanosecond | microsecond | millisecond | second | minute | hour | day | week | month | year
deriving DecidableEq, Repr

namespace TimeUnit

def names : TimeUnit → List String
  | nanosecond => ["nanos", "nsec", "ns"]
  | microsecond => ["usec", "us", "µs"]
  | millisecond => ["millis", "msec", "ms"]
  | second => ["seconds", "second", "secs", "sec", "s"]
  | minute => ["minutes", "minute", "min", "mins", "m"]
  | hour => ["hours", "hour", "hr", "hrs", "h"]
  | day => ["days", "day", "d"]
  | week => ["weeks", "week", "wk", "wks", "w"]
  | month => ["months", "month", "M"]
  | year => ["years", "year", "yrs", "yr", "y"]

def all : List TimeUnit :=
  [nanosecond, microsecond, millisecond, second, minute, hour, day, week, month, year]

def ofName? (name : String) : Option TimeUnit := all.find? fun u => u.names.contains name

/-- The units up to the millisecond are counted in nanoseconds, the longer ones in seconds. -/
def size : TimeUnit → Nat
  | nanosecond => 1
  | microsecond => 1000
  | millisecond => 1000000
  | second => 1
  | minute => 60
  | hour => 3600
  | day => 86400
  | week => 604800
  | month => 2630016
  | year => 31557600

def countsNanos : TimeUnit → Bool
  | nanosecond | microsecond | millisecond => true
  | _ => false

/-- what one unit is worth when a fraction of it is counted, and whether in nanoseconds -/
def fractionSize : TimeUnit → Nat × Bool
  | second => (1000000000, true)
  | minute => (60000000000, true)
  | u => (u.size, u.countsNanos)

end TimeUnit

namespace Spoken

/-! ## sums -/

inductive Fault where
  | malformed
  | overflow
deriving DecidableEq, Repr

def fits (n : Nat) : Bool := n < UInt64.size

/-- Seconds and nanoseconds are counted in 64 bits each. A nanosecond sum of exactly one second is
carried last, when nothing can be refused any more. -/
def add (total : Duration) (seconds nanos : Nat) : Except Fault Duration :=
  let sum := total.subNanos + nanos
  let carry := if Duration.perSecond < sum then sum / Duration.perSecond else 0
  let rest := if Duration.perSecond < sum then sum % Duration.perSecond else sum
  let whole := total.wholeSeconds + seconds + carry
  if !fits sum || !fits whole then .error .malformed
  else if rest = Duration.perSecond ∧ whole = UInt64.size - 1 then .error .overflow
  else .ok (Duration.ofParts whole rest)

/-- a number of units, in the unit's own count -/
def addUnits (total : Duration) (amount : Nat) (nanos : Bool) : Except Fault Duration :=
  if !fits amount then .error .malformed
  else if nanos then add total 0 amount else add total amount 0

structure Fraction where
  numerator : Nat
  places : Nat

/-- A fraction has to come out as a whole number of the unit's parts; a nanosecond has none. -/
def addFraction (total : Duration) (f : Fraction) (u : TimeUnit) : Except Fault Duration :=
  let (size, nanos) := u.fractionSize
  let amount := f.numerator * size
  let parts := Decimal.tenPow f.places
  if u = .nanosecond ∨ !fits amount ∨ amount % parts ≠ 0 then .error .malformed
  else addUnits total (amount / parts) nanos

def addPair (total : Duration) (whole : Nat) (fraction : Option Fraction) (u : TimeUnit) :
    Except Fault Duration :=
  match addUnits total (whole * u.size) u.countsNanos with
  | .error e => .error e
  | .ok total =>
    match fraction with
    | none => .ok total
    | some f => addFraction total f u

/-! ## text -/

def isNumberPart (c : Char) : Bool := c.isDigit || Text.isBlank c

def isUnitLetter (c : Char) : Bool := c.isAlpha || c = 'µ'

def digitsOf (run : List Char) : List Char := run.filter Char.isDigit

def numberOf (run : List Char) : Nat := Nat.ofDigitChars 10 (digitsOf run) 0

def fractionOf (s : List Char) : Except Fault (Option Fraction × List Char) :=
  match s with
  | '.' :: s =>
    let run := s.takeWhile isNumberPart
    let f : Fraction := ⟨numberOf run, (digitsOf run).length⟩
    if digitsOf run = [] ∨ !fits f.numerator ∨ !fits (Decimal.tenPow f.places) then
      .error .malformed
    else .ok (some f, s.dropWhile isNumberPart)
  | s => .ok (none, s)

def readPairs : Nat → Duration → List Char → Except Fault Duration
  | 0, _, _ => .error .malformed
  | fuel + 1, total, s =>
    let run := s.takeWhile isNumberPart
    if ¬ (s.head?.any Char.isDigit) ∨ !fits (numberOf run) then .error .malformed
    else
      match fractionOf (s.dropWhile isNumberPart) with
      | .error e => .error e
      | .ok (fraction, s) =>
        let rest := s.dropWhile isUnitLetter
        match TimeUnit.ofName? (String.ofList (s.takeWhile isUnitLetter)) with
        | none => .error .malformed
        | some u =>
          if rest.head?.all isNumberPart then
            match addPair total (numberOf run) fraction u with
            | .error e => .error e
            | .ok total =>
              match Text.trimStart rest with
              | [] => .ok total
              | rest => readPairs fuel total rest
          else .error .malformed

end Spoken

/-- Reads a whole text; a zero alone needs no unit. -/
def Duration.ofText (s : List Char) : Except Spoken.Fault Duration :=
  if s = ['0'] then .ok .zero
  else Spoken.readPairs s.length .zero (Text.trimStart s)

end LoadTest
