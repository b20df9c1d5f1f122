/-
This file holds the powers of two and of ten, in which doubles and decimals count.
-/

namespace BenchmarkReport.Number

def twoPower (exponent : Nat) : Nat := Nat.pow 2 exponent

def tenPower (exponent : Nat) : Nat := Nat.pow 10 exponent

theorem twoPower_pos (exponent : Nat) : 0 < twoPower exponent :=
  Nat.pow_pos (Nat.succ_pos 1)

theorem twoPower_succ (exponent : Nat) : twoPower (exponent + 1) = 2 * twoPower exponent :=
  Nat.pow_succ'

end BenchmarkReport.Number
