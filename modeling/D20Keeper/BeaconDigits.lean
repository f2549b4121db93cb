/-
This file is about the round that the data of a beacon names. The template of a beacon's recipe is
one integer of 1 to 19 digits, and the registry reads the digits of matching data in eight-byte
arithmetic that stops at an overflow. It never stops: what it reads is the number the digits denote,
which is not zero. The time of that round is then computed in words, and does not wrap.
-/

import Mathlib.Data.Nat.Digits.Defs
import D20Keeper.EpochEntropy
import D20Keeper.TemplateGrammar

namespace D20.EpochEntropy

open Evm DataTemplate

/-! ### The number that digits denote -/

/-- The number that a digit stands for. -/
def digitValue (c : UInt8) : ℕ := c.toNat - 48

/-- The number that digits denote in base ten, of which the last are the units. -/
def denoted (data : Bytes) : ℕ := Nat.ofDigits 10 (data.map digitValue).reverse

theorem toNat_of_isDigit {c : UInt8} (digit : isDigit c = true) :
    c.toNat = digitValue c + 48 ∧ digitValue c < 10 := by
  unfold isDigit at digit
  rw [Bool.and_eq_true, decide_eq_true_eq, decide_eq_true_eq, UInt8.le_iff_toNat_le,
    UInt8.le_iff_toNat_le] at digit
  obtain ⟨least, most⟩ := digit
  have least : 48 ≤ c.toNat := least
  have most : c.toNat ≤ 57 := most
  unfold digitValue
  omega

theorem denoted_cons (c : UInt8) (rest : Bytes) :
    denoted (c :: rest) = digitValue c * 10 ^ rest.length + denoted rest := by
  unfold denoted
  rw [List.map_cons, List.reverse_cons, Nat.ofDigits_append, Nat.ofDigits_singleton,
    List.length_reverse, List.length_map, Nat.mul_comm, Nat.add_comm]

variable {data : Bytes}

theorem denoted_lt (digits : ∀ c ∈ data, isDigit c = true) : denoted data < 10 ^ data.length := by
  induction data with
  | nil => exact Nat.one_pos
  | cons c rest inductionHypothesis =>
    obtain ⟨first, later⟩ := List.forall_mem_cons.mp digits
    have small := (toNat_of_isDigit first).2
    have scaled : (digitValue c + 1) * 10 ^ rest.length ≤ 10 * 10 ^ rest.length :=
      Nat.mul_le_mul_right _ small
    rw [denoted_cons, List.length_cons, Nat.pow_succ, Nat.mul_comm _ 10]
    have fits := inductionHypothesis later
    rw [Nat.add_mul] at scaled
    omega

/-! ### The registry's parser -/

/-- The parser reads digits behind a value, if what they denote together fits 19 digits. -/
theorem decimalFrom_eq (digits : ∀ c ∈ data, isDigit c = true) (value : ℕ)
    (fits : (value + 1) * 10 ^ data.length ≤ 10 ^ 19) :
    decimalFrom data value = .ok (value * 10 ^ data.length + denoted data) := by
  induction data generalizing value with
  | nil =>
    rw [List.length_nil, Nat.pow_zero, Nat.mul_one]
    rfl
  | cons c rest inductionHypothesis =>
    obtain ⟨first, later⟩ := List.forall_mem_cons.mp digits
    obtain ⟨byte, small⟩ := toNat_of_isDigit first
    rw [List.length_cons, Nat.pow_succ, Nat.mul_comm _ 10, ← Nat.mul_assoc] at fits
    have most : (value * 10 + digitValue c + 1) * 10 ^ rest.length ≤
        (value + 1) * 10 * 10 ^ rest.length := Nat.mul_le_mul_right _ (by omega)
    have room : value * 10 + digitValue c + 1 ≤ 10 ^ 19 :=
      (Nat.le_mul_of_pos_right _ (Nat.pow_pos (by decide))).trans (most.trans fits)
    unfold decimalFrom
    rw [checkedMul_ok (by omega), ok_bind, checkedAdd_ok (by omega), ok_bind,
      checkedSub_ok (by omega), ok_bind]
    have next : value * 10 + c.toNat - 48 = value * 10 + digitValue c := by
      omega
    have shifted : value * 10 * 10 ^ rest.length = value * 10 ^ (rest.length + 1) := by
      rw [Nat.mul_assoc, ← Nat.pow_succ']
    rw [next, inductionHypothesis later _ (most.trans fits), denoted_cons, List.length_cons,
      Nat.add_mul, shifted, Nat.add_assoc]

theorem roundTime_eq {genesis period round : ℕ} (genesisFits : genesis < 2 ^ 64)
    (periodFits : period < 2 ^ 64) (roundFits : round < 2 ^ 64) (nonzero : round ≠ 0) :
    roundTime genesis period round = .ok (genesis + (round - 1) * period) := by
  have product : (round - 1) * period ≤ 2 ^ 64 * 2 ^ 64 :=
    Nat.mul_le_mul (by omega) periodFits.le
  unfold roundTime arithmetic
  rw [checkedSub_ok (Nat.one_le_iff_ne_zero.mpr nonzero)]
  dsimp only [Except.mapError, ok_bind]
  rw [checkedMul_ok (by omega)]
  dsimp only [Except.mapError, ok_bind]
  rw [checkedAdd_ok (by omega)]

/-- Data that matches the template of a beacon is one to nineteen digits, of which the first is not
zero. -/
theorem digits_of_matches (matched : matchesData (integerSegment 1 19) data = .ok true) :
    (Segment.integer 1 19).Word data := by
  have decoded : decode (integerSegment 1 19).length (integerSegment 1 19) =
      some [.integer 1 19] := rfl
  rw [matchesData_of_decode decoded] at matched
  have described := Except.ok.inj matched
  unfold describes at described
  split at described
  · cases described
  · obtain ⟨left, scanned, ends⟩ := Option.bind_eq_some_iff.mp (of_decide_eq_true described)
    obtain ⟨word, split, digits⟩ := integer_sound scanned
    rw [split, Option.some.inj ends, List.append_nil]
    exact digits

/-- The registry reads the round of matching data exactly, and computes its time exactly. -/
theorem beacon_round_exact (data : Bytes) (beacon : EpochBeacon)
    (genesisFits : beacon.genesis < 2 ^ 64) (periodFits : beacon.period < 2 ^ 64)
    (matched : matchesData (integerSegment 1 19) data = .ok true) :
    decimalFrom data 0 = .ok (denoted data) ∧ denoted data ≠ 0 ∧ denoted data < 2 ^ 64 ∧
      roundTime beacon.genesis beacon.period (denoted data) =
        .ok (beacon.genesis + (denoted data - 1) * beacon.period) := by
  obtain ⟨⟨c, rest, starts, nonzero⟩, digits, -, short⟩ := digits_of_matches matched
  have length : 10 ^ data.length ≤ 10 ^ 19 := Nat.pow_le_pow_right (by decide) short
  have fits : denoted data < 2 ^ 64 :=
    (denoted_lt digits).trans (length.trans_lt (by decide))
  have positive : denoted data ≠ 0 := by
    rw [starts] at digits ⊢
    obtain ⟨byte, -⟩ := toNat_of_isDigit (List.forall_mem_cons.mp digits).1
    have first : digitValue c ≠ 0 := by
      intro zero
      refine nonzero (UInt8.toNat_inj.mp ?_)
      rw [byte, zero]
      rfl
    have power : 0 < 10 ^ rest.length := Nat.pow_pos (by decide)
    have scaled := Nat.mul_pos (Nat.pos_of_ne_zero first) power
    rw [denoted_cons]
    omega
  refine ⟨?_, positive, fits, roundTime_eq genesisFits periodFits fits positive⟩
  rw [decimalFrom_eq digits 0 (by rw [Nat.zero_add, Nat.one_mul]; exact length), Nat.zero_mul,
    Nat.zero_add]

/-- The round 120 of a beacon with a period of 30 seconds. -/
theorem beacon_round_exact_120 :
    decimalFrom (ascii "120") 0 = .ok (denoted (ascii "120")) ∧ denoted (ascii "120") ≠ 0 ∧
      denoted (ascii "120") < 2 ^ 64 ∧
      roundTime 1000 30 (denoted (ascii "120")) = .ok (1000 + (denoted (ascii "120") - 1) * 30) :=
  beacon_round_exact (ascii "120") ⟨⟨1⟩, 1000, 30, 1, []⟩ (by decide) (by decide) (by decide)

end D20.EpochEntropy
