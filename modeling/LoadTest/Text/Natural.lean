/-!
# Natural numbers in decimal text
-/

namespace LoadTest.Text

def digitValue (c : Char) : Nat := c.toNat - '0'.toNat

def ofDigits (s : List Char) : Option Nat :=
  if s ≠ [] ∧ s.all Char.isDigit then some (Nat.ofDigitChars 10 s 0) else none

/-- an optional `+`, then one or more digits -/
def natural? : List Char → Option Nat
  | '+' :: s => ofDigits s
  | s => ofDigits s

def word64? (s : List Char) : Option UInt64 :=
  (natural? s).bind fun n => if n < UInt64.size then some (UInt64.ofNat n) else none

def word16? (s : List Char) : Option UInt16 :=
  (natural? s).bind fun n => if n < UInt16.size then some (UInt16.ofNat n) else none

def digits (n : Nat) : List Char := Nat.toDigits 10 n

def decimal (n : Nat) : String := String.ofList (digits n)

def paddedDigits (width n : Nat) : List Char :=
  List.replicate (width - (digits n).length) '0' ++ digits n

end LoadTest.Text
