import LoadTest.Text.Hex

/-!
# Percent-encoding
-/

namespace LoadTest.Percent

def hexDigit (n : Nat) : Char := Char.toUpper (Nat.digitChar n)

def byte (b : UInt8) : List Char := ['%', hexDigit (b.toNat / 16), hexDigit (b.toNat % 16)]

/-- C0 controls and DEL -/
def isControl (c : Char) : Bool := c.toNat < 0x20 || c.toNat = 0x7F

def encodeChar (set : Char → Bool) (c : Char) : List Char :=
  if set c || 0x80 ≤ c.toNat then (String.utf8EncodeChar c).flatMap byte else [c]

def encode (set : Char → Bool) (s : List Char) : List Char := s.flatMap (encodeChar set)

/-- a percent sign without two hexadecimal digits after it stands for itself -/
def decode : List Char → List UInt8
  | [] => []
  | '%' :: a :: b :: s =>
    match Text.hexValue a, Text.hexValue b with
    | some x, some y => UInt8.ofNat (16 * x + y) :: decode s
    | _, _ => '%'.toUInt8 :: decode (a :: b :: s)
  | c :: s => String.utf8EncodeChar c ++ decode s

end LoadTest.Percent
