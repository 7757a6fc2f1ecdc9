import LoadTest.Decimal.Binary64
import LoadTest.Text.Natural

/-!
# A fixed number of decimal places

The exact value of the double is rounded, and a half goes to the even neighbour.
-/

namespace LoadTest.Decimal

def pointed (places units : Nat) : String :=
  Text.decimal (units / tenPow places) ++
    (if places = 0 then ""
     else "." ++ String.ofList (Text.paddedDigits places (units % tenPow places)))

def fixed (places : Nat) (x : Float) : String :=
  match Binary64.ofFloat x with
  | .nan => "NaN"
  | .infinite negative => if negative then "-inf" else "inf"
  | .finite negative significand exponent =>
    let (num, den) := scaledQuotient significand exponent (tenPow places)
    (if negative then "-" else "") ++ pointed places (roundDiv num den)

end LoadTest.Decimal
