/-
This file fixes the vocabulary of the execution layer: addresses, words, blocks
and the checked arithmetic of a contract compiled with overflow checks.

Integers are natural numbers. An operation that the compiler checks returns in
`Except Panic`, so that an overflow is a visible outcome and not a wrapped
value, and a narrowing conversion is a remainder. The header fields that the
protocol stores in eight bytes carry their bound as a field of `Block`.
-/

import Mathlib.Data.Fintype.EquivFin
import Mathlib.Tactic.NormNum

namespace Evm

/-! ### Words and addresses -/

/-- A twenty-byte account address. -/
structure Address where
  word : Fin (2 ^ 160)
deriving DecidableEq, Repr

instance addressSpace : NeZero (2 ^ 160) := ⟨by norm_num⟩

instance : Zero Address := ⟨⟨⟨0, by norm_num⟩⟩⟩

instance : Inhabited Address := ⟨0⟩

/-- An address is its word. -/
def addressEquiv : Address ≃ Fin (2 ^ 160) where
  toFun address := address.word
  invFun word := ⟨word⟩
  left_inv _ := rfl
  right_inv _ := rfl

instance : Fintype Address := Fintype.ofEquiv _ addressEquiv.symm

/-- A thirty-two byte word that is not used as a number: a hash, a seed, a domain tag. -/
abbrev Bytes32 := BitVec 256

/-- A byte string. -/
abbrev Bytes := List UInt8

/-- The bytes of an ASCII text. -/
def ascii (text : String) : Bytes := text.toList.map fun c => UInt8.ofNat c.toNat

theorem ascii_append (first second : String) :
    ascii (first ++ second) = ascii first ++ ascii second := by
  unfold ascii
  rw [String.toList_append, List.map_append]

theorem ascii_ofList (text : List Char) :
    ascii (String.ofList text) = text.map fun c => UInt8.ofNat c.toNat := by
  unfold ascii
  rw [String.toList_ofList]

/-! ### Blocks -/

/-- The header fields a contract reads. The number and the timestamp are eight-byte words of
the header. -/
structure Block where
  number : Nat
  timestamp : Nat
  baseFee : Nat
  number_lt : number < 2 ^ 64
  timestamp_lt : timestamp < 2 ^ 64

instance : Inhabited Block := ⟨⟨1, 1, 0, by norm_num, by norm_num⟩⟩

/-- `blockhash`: the canonical hash of one of the last 256 blocks, and zero for every other
number. -/
def blockhash (canonical : Nat → Bytes32) (block : Block) (number : Nat) : Bytes32 :=
  if number < block.number ∧ block.number ≤ number + 256 then canonical number else 0

theorem blockhash_eq_canonical {canonical : Nat → Bytes32} {block : Block} {number : Nat}
    (available : blockhash canonical block number ≠ 0) :
    blockhash canonical block number = canonical number := by
  unfold blockhash at available ⊢
  split
  · rfl
  · rename_i outside
    rw [if_neg outside] at available
    exact absurd rfl available

/-! ### Checked arithmetic -/

/-- The failures of compiled arithmetic and indexing. Subtraction below zero and every other
overflow raise one panic code in the source language; they are told apart here. -/
inductive Panic where
  | underflow
  | overflow
  | divisionByZero
  | outOfBounds
deriving DecidableEq, Repr

/-- Addition in an unsigned type of `width` bits. -/
def checkedAdd (width first second : Nat) : Except Panic Nat :=
  if first + second < 2 ^ width then .ok (first + second) else .error .overflow

/-- Multiplication in an unsigned type of `width` bits. -/
def checkedMul (width first second : Nat) : Except Panic Nat :=
  if first * second < 2 ^ width then .ok (first * second) else .error .overflow

/-- Subtraction in an unsigned type. -/
def checkedSub (first second : Nat) : Except Panic Nat :=
  if second ≤ first then .ok (first - second) else .error .underflow

/-- Division in an unsigned type. -/
def checkedDiv (first second : Nat) : Except Panic Nat :=
  if second = 0 then .error .divisionByZero else .ok (first / second)

variable {width second : Nat}

theorem checkedAdd_ok {first : Nat} (fits : first + second < 2 ^ width) :
    checkedAdd width first second = .ok (first + second) := if_pos fits

theorem checkedMul_ok {first : Nat} (fits : first * second < 2 ^ width) :
    checkedMul width first second = .ok (first * second) := if_pos fits

theorem checkedSub_ok {first : Nat} (small : second ≤ first) :
    checkedSub first second = .ok (first - second) := if_pos small

theorem checkedDiv_ok {first : Nat} (nonzero : second ≠ 0) :
    checkedDiv first second = .ok (first / second) := if_neg nonzero

theorem checkedAdd_eq_ok {first sum : Nat} (added : checkedAdd width first second = .ok sum) :
    sum = first + second ∧ first + second < 2 ^ width := by
  unfold checkedAdd at added
  split at added
  · rename_i fits
    exact ⟨(Except.ok.inj added).symm, fits⟩
  · cases added

theorem checkedMul_eq_ok {first product : Nat}
    (multiplied : checkedMul width first second = .ok product) :
    product = first * second ∧ first * second < 2 ^ width := by
  unfold checkedMul at multiplied
  split at multiplied
  · rename_i fits
    exact ⟨(Except.ok.inj multiplied).symm, fits⟩
  · cases multiplied

theorem checkedSub_eq_ok {first difference : Nat}
    (subtracted : checkedSub first second = .ok difference) :
    difference = first - second ∧ second ≤ first := by
  unfold checkedSub at subtracted
  split at subtracted
  · rename_i small
    exact ⟨(Except.ok.inj subtracted).symm, small⟩
  · cases subtracted

/-! ### Computations that may fail -/

section Failing

variable {ε α β : Type} {first : Except ε α} {next : α → Except ε β}

theorem ok_bind {ε α β : Type} (value : α) (next : α → Except ε β) :
    (Except.ok value >>= next) = next value := rfl

/-- A sequence succeeds when both parts do. -/
theorem ok_of_bind {value : β} (done : (first >>= next) = .ok value) :
    ∃ middle, first = .ok middle ∧ next middle = .ok value := by
  cases first with
  | ok middle => exact ⟨middle, rfl, done⟩
  | error => cases done

/-- A sequence fails with its first part, or with its second after the first succeeded. -/
theorem error_of_bind {fault : ε} (failed : (first >>= next) = .error fault) :
    first = .error fault ∨ ∃ middle, first = .ok middle ∧ next middle = .error fault := by
  cases first with
  | ok middle => exact .inr ⟨middle, rfl, failed⟩
  | error => exact .inl (congrArg Except.error (Except.error.inj failed))

end Failing

/-! ### The 63/64 rule -/

/-- The gas a call hands on out of `available`: at most all but one 64th, and at most `limit`
when the call names one. -/
def forwardable (available : Nat) (limit : Option Nat) : Nat :=
  match limit with
  | none => available - available / 64
  | some most => min most (available - available / 64)

theorem forwardable_le (available : Nat) (limit : Option Nat) :
    forwardable available limit ≤ available := by
  unfold forwardable
  cases limit with
  | none => exact Nat.sub_le _ _
  | some => exact (min_le_right _ _).trans (Nat.sub_le _ _)

theorem forwardable_le_limit (available most : Nat) : forwardable available (some most) ≤ most :=
  min_le_left _ _

end Evm
