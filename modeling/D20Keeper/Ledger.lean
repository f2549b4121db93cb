/-
This file is about sums over a ledger, a map from keys to amounts, when one entry
changes. The two statements move the old entry to the other side, so that linear
arithmetic over the natural numbers can use them in either direction.
-/

import Mathlib.Algebra.BigOperators.Group.Finset.Piecewise
import Mathlib.Algebra.Order.BigOperators.Group.Finset

namespace Ledger

variable {Key : Type}

/-- A sum over keys that include the changed one. -/
theorem sum_update [DecidableEq Key] (keys : Finset Key) (ledger : Key → Nat) {key : Key}
    (member : key ∈ keys)
    (amount : Nat) :
    ∑ other ∈ keys, Function.update ledger key amount other + ledger key =
      ∑ other ∈ keys, ledger other + amount := by
  rw [Finset.sum_update_of_mem member, Finset.sum_eq_add_sum_sdiff_singleton_of_mem member ledger]
  omega

/-- A sum over all keys. -/
theorem sum_update_univ [DecidableEq Key] [Fintype Key] (ledger : Key → Nat) (key : Key)
    (amount : Nat) :
    ∑ other, Function.update ledger key amount other + ledger key =
      ∑ other, ledger other + amount :=
  sum_update Finset.univ ledger (Finset.mem_univ key) amount

/-- An entry is at most the sum. -/
theorem le_sum [Fintype Key] (ledger : Key → Nat) (key : Key) :
    ledger key ≤ ∑ other, ledger other :=
  Finset.single_le_sum (fun _ _ => Nat.zero_le _) (Finset.mem_univ key)

end Ledger
