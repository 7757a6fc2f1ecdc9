import LoadTest.Text.Natural

/-!
# IPv4 addresses
-/

namespace LoadTest

structure Ipv4 where
  a : UInt8
  b : UInt8
  c : UInt8
  d : UInt8
deriving DecidableEq, Repr, Inhabited

namespace Ipv4

def octets (ip : Ipv4) : List UInt8 := [ip.a, ip.b, ip.c, ip.d]

def write (ip : Ipv4) : List Char :=
  ['.'].intercalate (ip.octets.map fun o => Text.digits o.toNat)

def octet? (s : List Char) : Option UInt8 :=
  (Text.ofDigits s).bind fun n =>
    if n < 256 ∧ (s.length = 1 ∨ s.head? ≠ some '0') then some (UInt8.ofNat n) else none

def ofText? (s : List Char) : Option Ipv4 :=
  match s.splitOn '.' with
  | [a, b, c, d] => do return ⟨← octet? a, ← octet? b, ← octet? c, ← octet? d⟩
  | _ => none

end Ipv4

end LoadTest
