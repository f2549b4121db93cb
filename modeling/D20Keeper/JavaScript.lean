/-
This file has the arithmetic of JavaScript that the replay code uses. Bigints are the
integers, and their remainder takes the sign of the dividend. Numbers are the finite
doubles, so they are rationals; an integer that is not a double is rounded to the
nearest one, to even at a tie. Integers of absolute value up to `2^53` are doubles.
-/

import Mathlib.Algebra.Order.Ring.Abs
import Mathlib.Data.Rat.Cast.Defs

namespace JavaScript

/-- The double next to a natural number: its 53 leading bits, rounded to even at a tie. -/
def nearestNat (value : Nat) : Nat :=
  if value ≤ 2 ^ 53 then value
  else
    let spacing := 2 ^ (value.log2 - 52)
    let leading := value / spacing
    let rest := value % spacing
    if spacing < 2 * rest ∨ (spacing = 2 * rest ∧ leading % 2 = 1) then (leading + 1) * spacing
    else leading * spacing

/-- The double next to an integer, which is what `Number` of a bigint and the sum or difference
of two integral doubles is. -/
def nearest (value : Int) : Int := value.sign * nearestNat value.natAbs

/-- `Number.isInteger` on a finite double. -/
def isInteger (value : ℚ) : Bool := value.den = 1

theorem nearest_eq {value : Int} (small : value.natAbs ≤ 2 ^ 53) : nearest value = value := by
  unfold nearest nearestNat
  rw [if_pos small]
  exact Int.sign_mul_natAbs value

theorem nearest_natCast {value : Nat} (small : value ≤ 2 ^ 53) : nearest (value : Int) = value :=
  nearest_eq small

theorem isInteger_natCast (value : Nat) : isInteger value = true := decide_eq_true rfl

end JavaScript
