/-
This file compares the three places that number the rounds of a beacon: `BeaconBook`, which binds a
request to a round, `roundFor` of the replay, which recomputes it with unbounded integers, and
`round_time` of the keeper, which dates a round in 64 bits. The round is a rounded-up quotient, and
it is the least one scheduled at or after the lead.
-/

import D20Keeper.BeaconBook
import D20Keeper.RoundGas

namespace D20

open Evm

/-! ### The replay's round -/

namespace RoundReplay

open Journal (ensure)

/-- `MAX_UINT64`. -/
def maxUint64 : ℤ := 2 ^ 64 - 1

/-- `uint`: an integer of the range, or an error that names what it is. -/
def uint (value max : ℤ) (what : String) : Except String ℤ := do
  ensure (0 ≤ value ∧ value ≤ max) ("Invalid " ++ what)
  return value

theorem uint_eq_ok {value max : ℤ} (inRange : 0 ≤ value ∧ value ≤ max) (what : String) :
    uint value max what = .ok value := by
  unfold uint Journal.ensure
  rw [if_pos inRange]
  rfl

/-- `ROUND_LEAD`. -/
def roundLead : ℤ := 3

/-- `roundTime`: when a round is scheduled. There is no round 0. -/
def roundTime (genesis period round : ℤ) : Except String ℤ := do
  let round ← uint round maxUint64 "round"
  ensure (round ≠ 0) "Invalid round"
  return genesis + (round - 1) * period

/-- `roundFor`: the round a request in a block with this timestamp binds. -/
def roundFor (genesis period timestamp lead : ℤ) : Except String ℤ := do
  let t := (← uint timestamp maxUint64 "timestamp") + (← uint lead maxUint64 "round lead")
  ensure (1 ≤ period ∧ 0 ≤ genesis) "Invalid beacon schedule"
  return if t ≤ genesis then 1 else (t - genesis + period - 1).tdiv period + 1

end RoundReplay

/-! ### The keeper's time of a round -/

/-- `drand::Network`: the chain hash that names a network to the relays, and its schedule. -/
structure Network where
  chainHash : Bytes32
  genesis : ℕ
  period : ℕ
  deriving DecidableEq

/-- `Network::round_time`, which saturates. -/
def Network.roundTime (network : Network) (round : ℕ) : ℕ :=
  saturating 64 (network.genesis + saturating 64 ((round - 1) * network.period))

/-! ### The first round behind the lead -/

/-- The number of the first round that is scheduled at or after a time. -/
def firstRound (genesis period time : ℕ) : ℕ :=
  if time ≤ genesis then 1 else (time - genesis + period - 1) / period + 1

/-- When a round is scheduled, without any bound. -/
def scheduledTime (genesis period round : ℕ) : ℕ := genesis + (round - 1) * period

section

variable {genesis period time : ℕ}

/-- A quotient that is rounded up reaches the dividend and goes less than one divisor beyond. -/
theorem le_ceilDiv_mul (positive : 0 < period) (elapsed : ℕ) :
    elapsed ≤ (elapsed + period - 1) / period * period ∧
      (elapsed + period - 1) / period * period ≤ elapsed + period - 1 := by
  have quotient := Nat.div_add_mod (elapsed + period - 1) period
  have rest := Nat.mod_lt (elapsed + period - 1) positive
  rw [Nat.mul_comm] at quotient
  omega

theorem le_scheduledTime_firstRound (positive : 0 < period) :
    time ≤ scheduledTime genesis period (firstRound genesis period time) := by
  unfold scheduledTime firstRound
  split
  case isTrue early => omega
  case isFalse late =>
    rw [Nat.add_sub_cancel]
    have reached := (le_ceilDiv_mul positive (time - genesis)).1
    omega

theorem scheduledTime_firstRound_le (positive : 0 < period) :
    scheduledTime genesis period (firstRound genesis period time) ≤
      max genesis (time + period - 1) := by
  unfold scheduledTime firstRound
  split
  case isTrue early => omega
  case isFalse late =>
    rw [Nat.add_sub_cancel]
    have close := (le_ceilDiv_mul positive (time - genesis)).2
    omega

/-- No earlier round is scheduled at or after the time. -/
theorem firstRound_isLeast (positive : 0 < period) :
    IsLeast {round | 1 ≤ round ∧ time ≤ scheduledTime genesis period round}
      (firstRound genesis period time) := by
  have one : 1 ≤ firstRound genesis period time := by
    unfold firstRound
    split
    case isTrue => exact le_rfl
    case isFalse => exact Nat.le_add_left _ _
  refine ⟨⟨one, le_scheduledTime_firstRound positive⟩, ?_⟩
  rintro round ⟨first, scheduled⟩
  unfold firstRound
  split
  case isTrue early => exact first
  case isFalse late =>
    unfold scheduledTime at scheduled
    have below : (time - genesis + period - 1) / period < round - 1 + 1 := by
      rw [Nat.div_lt_iff_lt_mul positive, Nat.succ_mul]
      omega
    omega

/-- The first round is not larger than the time it was looked for, so it fits where times fit. -/
theorem firstRound_le (positive : 0 < period) : firstRound genesis period time ≤ time + 1 := by
  unfold firstRound
  split
  case isTrue early => omega
  case isFalse late =>
    have below : (time - genesis + period - 1) / period < time + 1 := by
      rw [Nat.div_lt_iff_lt_mul positive, Nat.succ_mul]
      have grows : time ≤ time * period := Nat.le_mul_of_pos_right _ positive
      omega
    omega

/-- `BeaconBook` finds the first round behind the lead and no operation of it overflows. -/
theorem BeaconBook.round_eq_firstRound {timestamp : ℕ} (positive : 0 < period)
    (periodFits : period < 2 ^ 64) (early : timestamp < 2 ^ 63) :
    BeaconBook.round genesis period timestamp =
      .ok (firstRound genesis period (timestamp + roundLead)) := by
  have small := @firstRound_le genesis period (timestamp + roundLead) positive
  have lead : roundLead = 3 := rfl
  unfold BeaconBook.round
  rw [checkedAdd_ok (by omega)]
  show (if timestamp + roundLead ≤ genesis then _ else _) = _
  unfold firstRound at small ⊢
  split
  case isTrue => rfl
  case isFalse late =>
    rw [if_neg late] at small
    rw [checkedSub_ok (by omega)]
    show (checkedAdd 256 (timestamp + roundLead - genesis) period >>= _) = _
    rw [checkedAdd_ok (by omega)]
    show (checkedSub (timestamp + roundLead - genesis + period) 1 >>= _) = _
    rw [checkedSub_ok (by omega)]
    show (checkedDiv (timestamp + roundLead - genesis + period - 1) period >>= _) = _
    rw [checkedDiv_ok (by omega)]
    show (checkedAdd 256 ((timestamp + roundLead - genesis + period - 1) / period) 1 >>= _) = _
    rw [checkedAdd_ok (by omega)]
    exact congrArg Except.ok (Nat.mod_eq_of_lt (by omega))

theorem RoundReplay.roundFor_eq_firstRound {timestamp : ℕ} (positive : 0 < period)
    (early : timestamp < 2 ^ 63) :
    RoundReplay.roundFor genesis period timestamp RoundReplay.roundLead =
      .ok (firstRound genesis period (timestamp + BeaconBook.roundLead) : ℕ) := by
  have lead : BeaconBook.roundLead = 3 := rfl
  have inRange : (0 : ℤ) ≤ timestamp ∧ (timestamp : ℤ) ≤ maxUint64 := by
    unfold maxUint64
    omega
  have schedule : (1 : ℤ) ≤ period ∧ (0 : ℤ) ≤ genesis := by omega
  unfold roundFor Journal.ensure
  rw [uint_eq_ok inRange, if_pos schedule]
  show Except.ok (if (timestamp : ℤ) + 3 ≤ genesis then (1 : ℤ)
    else ((timestamp : ℤ) + 3 - genesis + period - 1).tdiv period + 1) = _
  unfold firstRound
  rw [lead]
  split
  case isTrue soon =>
    rw [if_pos (by omega)]
    rfl
  case isFalse late =>
    have dividend : (timestamp : ℤ) + 3 - genesis + period - 1 =
        ((timestamp + 3 - genesis + period - 1 : ℕ) : ℤ) := by omega
    rw [if_neg (by omega), dividend, ← Int.ofNat_tdiv]
    rfl

theorem Network.roundTime_eq_min (network : Network) (round : ℕ) :
    network.roundTime round =
      min (scheduledTime network.genesis network.period round) (largest 64) := by
  unfold Network.roundTime scheduledTime saturating
  omega

end

/-! ### The three agree -/

/-- The number of a request's round. For every genesis of 64 bits, every positive period that leaves
the time of the round within 64 bits, and every request time below `2^63`, the round `BeaconBook`
binds is the least one scheduled at or after the lead, the replay returns the same round, and the
keeper dates it where it is scheduled. -/
theorem round_numbers_agree (network : Network) (timestamp : ℕ)
    (genesisFits : network.genesis < 2 ^ 64) (positive : 0 < network.period)
    (periodFits : network.period ≤ 2 ^ 63 - 2) (early : timestamp < 2 ^ 63) :
    ∃ round, BeaconBook.round network.genesis network.period timestamp = .ok round ∧
      IsLeast {round | 1 ≤ round ∧
        timestamp + 3 ≤ network.genesis + (round - 1) * network.period} round ∧
      RoundReplay.roundFor network.genesis network.period timestamp RoundReplay.roundLead =
        .ok (round : ℤ) ∧
      RoundReplay.roundTime network.genesis network.period round =
        .ok ((network.genesis + (round - 1) * network.period : ℕ) : ℤ) ∧
      network.roundTime round = network.genesis + (round - 1) * network.period ∧
      round < 2 ^ 64 ∧ network.genesis + (round - 1) * network.period < 2 ^ 64 := by
  have lead : BeaconBook.roundLead = 3 := rfl
  have least := @firstRound_isLeast network.genesis network.period
    (timestamp + BeaconBook.roundLead) positive
  have near := @scheduledTime_firstRound_le network.genesis network.period
    (timestamp + BeaconBook.roundLead) positive
  have small := @firstRound_le network.genesis network.period
    (timestamp + BeaconBook.roundLead) positive
  have bound := @BeaconBook.round_eq_firstRound network.genesis network.period timestamp positive
    (by omega) early
  have replayed := @RoundReplay.roundFor_eq_firstRound network.genesis network.period timestamp
    positive early
  generalize firstRound network.genesis network.period (timestamp + BeaconBook.roundLead) =
    round at *
  have fits : scheduledTime network.genesis network.period round < 2 ^ 64 := by omega
  have one : 1 ≤ round := least.1.1
  have shown : network.roundTime round = _ :=
    (network.roundTime_eq_min round).trans (Nat.min_eq_left (Nat.le_sub_one_of_lt fits))
  refine ⟨round, bound, least, replayed, ?_, shown, by omega, fits⟩
  have inRange : (0 : ℤ) ≤ round ∧ (round : ℤ) ≤ RoundReplay.maxUint64 := by
    unfold RoundReplay.maxUint64
    omega
  have nonzero : (round : ℤ) ≠ 0 := by omega
  unfold RoundReplay.roundTime Journal.ensure
  rw [RoundReplay.uint_eq_ok inRange]
  show ((if (round : ℤ) ≠ 0 then Except.ok () else Except.error _) >>= fun _ => Except.ok _) = _
  rw [if_pos nonzero]
  refine congrArg Except.ok ?_
  push_cast [Nat.cast_sub one]
  rfl

/-- The network of the sample has a period of three seconds; the request binds its fourth round. -/
theorem round_numbers_agree_of_three :
    ∃ round, BeaconBook.round 1000 3 1006 = .ok round ∧
      IsLeast {round | 1 ≤ round ∧ 1009 ≤ 1000 + (round - 1) * 3} round := by
  obtain ⟨round, bound, least, -⟩ := round_numbers_agree ⟨default, 1000, 3⟩ 1006 (by norm_num)
    (by norm_num) (by norm_num) (by norm_num)
  exact ⟨round, bound, least⟩

/-- At the longest period below `2^63` the time of a request's round can be `2^64`, which the keeper
dates one second earlier. -/
theorem round_time_saturates :
    BeaconBook.round 2 (2 ^ 63 - 1) (2 ^ 63 - 1) = .ok 3 ∧
      (⟨default, 2, 2 ^ 63 - 1⟩ : Network).roundTime 3 ≠ 2 + (3 - 1) * (2 ^ 63 - 1) := by
  decide

end D20
