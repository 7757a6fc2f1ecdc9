import LoadTest.Decimal.Power

/-!
# Doubles taken apart
-/

namespace LoadTest.Decimal

/-- a finite double is `significand * 2 ^ exponent` with its sign in front -/
inductive Binary64 where
  | nan
  | infinite (negative : Bool)
  | finite (negative : Bool) (significand : Nat) (exponent : Int)
deriving DecidableEq, Repr

namespace Binary64

/-- two to the power 52: what stands in front of the fraction of a double that is not small -/
def implicitBit : Nat := 0x10000000000000

/-- the three fields of 64 bits: sign, eleven bits of exponent, 52 bits of fraction -/
def ofBits (bits : Nat) : Binary64 :=
  let negative := bits / 0x8000000000000000 % 2 == 1
  let biased : Nat := bits / implicitBit % 2048
  let fraction : Nat := bits % implicitBit
  if biased = 2047 then
    if fraction = 0 then .infinite negative else .nan
  else if biased = 0 then .finite negative fraction (-1074)
  else .finite negative (implicitBit + fraction) ((biased : Int) - 1075)

def ofFloat (x : Float) : Binary64 := ofBits x.toBits.toNat

end Binary64

/-- `num / den` to the nearest integer; of two equally near ones the even one -/
def roundDiv (num den : Nat) : Nat :=
  let q := num / den
  let r := num % den
  if 2 * r < den then q
  else if den < 2 * r then q + 1
  else if q % 2 = 0 then q else q + 1

def ceilDiv (num den : Nat) : Nat := (num + den - 1) / den

/-- `significand * 2 ^ exponent * scale` as a quotient of two natural numbers -/
def scaledQuotient (significand : Nat) (exponent : Int) (scale : Nat) : Nat × Nat :=
  if 0 ≤ exponent then (significand * twoPow exponent.toNat * scale, 1)
  else (significand * scale, twoPow (-exponent).toNat)

end LoadTest.Decimal
