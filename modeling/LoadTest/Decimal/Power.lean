/-!
# Powers of two and of ten
-/

namespace LoadTest.Decimal

def twoPow (k : Nat) : Nat := Nat.pow 2 k

theorem twoPow_zero : twoPow 0 = 1 := rfl

theorem twoPow_succ (k : Nat) : twoPow (k + 1) = twoPow k * 2 := rfl

def tenPow (k : Nat) : Nat := Nat.pow 10 k

end LoadTest.Decimal
