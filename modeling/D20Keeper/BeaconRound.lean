/-
This file models the round of a public randomness network that a keeper commits for an epoch: the
check of a beacon recipe against its registration, the round the policy picks and the age at which a
saved packet is discarded. The policy falls back to the round before the latest one, which is up to
two periods old, while the check only asks for a period shorter than the age limit. A round that is
picked is therefore usable exactly if it is of the epoch's own period or the two periods fit the
limit.
-/

import D20Keeper.EpochEntropy
import D20Keeper.RoundGas

namespace D20.Beacon

open Evm
open Journal (bind_eq_ok ensure ensure_eq_ok)

/-! ### The recipe of a beacon -/

/-- A saved beacon packet older than this is discarded. -/
def beaconMaxAge : ℕ := 200

/-- The start round is committed only while it is at most this old. -/
def startRoundMaxAge : ℕ := beaconMaxAge - 20

/-- The data template of a round number. -/
def template : Bytes := [4, 1, 19]

/-- A recipe as the registry has it. -/
structure RegisteredRecipe where
  canonicalRequest : Bytes
  template : Bytes
  body : Bytes
  beacon : Option EpochBeacon

variable (beacon : EpochBeacon)

/-- The canonical request of the recipe that registers a network. -/
def request : Bytes :=
  ascii "[\"drand\",\"" ++ EpochEntropy.toHexString beacon.chainHash ++ ascii "\"]"

/-- Why a recipe is not fetched. -/
def refused (id : ℕ) (what : String) : String :=
  "Registered recipe " ++ toString id ++ " is not a consistent beacon (" ++ what ++
    "); refusing to fetch"

/-- `check`: a beacon recipe is fetched only when its registration is consistent. -/
def check (id : ℕ) (recipe : RegisteredRecipe) : Except String Unit :=
  match recipe.beacon with
  | none => .error (refused id "the registry has no beacon registration for it")
  | some beacon => do
    ensure (beacon.verifier ≠ 0 ∧ 0 < beacon.genesis ∧ 0 < beacon.period)
      (refused id "it has no verifier or no schedule")
    ensure (beacon.period < beaconMaxAge)
      (refused id ("its period of " ++ toString beacon.period ++ " s is not shorter than the " ++
        toString beaconMaxAge ++ " s a packet may age"))
    ensure (recipe.canonicalRequest = request beacon ∧ recipe.body = request beacon)
      (refused id "its request and body are not the canonical request of its chain hash")
    ensure (recipe.template = template) (refused id "its data template is not a round number")

/-! ### The round of an epoch -/

/-- `round_time`: when a round is scheduled. -/
def roundTime (round : ℕ) : ℕ :=
  saturating 64 (beacon.genesis + saturating 64 ((round - 1) * beacon.period))

/-- The round that is current at a time. -/
def currentRound (time : ℕ) : ℕ :=
  (time - beacon.genesis) / beacon.period + 1

/-- `choose_round`: the round an epoch commits. -/
def chooseRound (startTime now : ℕ) : Option ℕ :=
  if beacon.period = 0 ∨ startTime < beacon.genesis ∨ now < beacon.genesis then none
  else if now - roundTime beacon (currentRound beacon startTime) ≤ startRoundMaxAge then
    some (currentRound beacon startTime)
  else some (max (currentRound beacon now - 1) (currentRound beacon startTime))

/-- A packet of this time is too old to be sent. -/
def tooOld (timestamp now : ℕ) : Bool := decide (saturating 256 (timestamp + beaconMaxAge) < now)

/-- A round that an epoch can use: not before the round its start requires, published, and no older
than a packet may be, so that the keeper does not discard it and the registry accepts its time. -/
structure Usable (beacon : EpochBeacon) (startTime now round : ℕ) : Prop where
  required : currentRound beacon startTime ≤ round
  published : roundTime beacon round ≤ now
  young : now - roundTime beacon round ≤ beaconMaxAge
  kept : tooOld (roundTime beacon round) now = false
  accepted : ¬ (now < roundTime beacon round ∨
    EpochEntropy.maxAttestationAge < now - roundTime beacon round)

/-- The times at which the policy picks a round that is young enough: the epoch's start and now are
in one period, or two periods end within the limit. -/
def InTime (startTime now : ℕ) : Prop :=
  (now - beacon.genesis) / beacon.period = (startTime - beacon.genesis) / beacon.period ∨
    (now - beacon.genesis) % beacon.period + beacon.period ≤ beaconMaxAge

variable {beacon : EpochBeacon} {startTime now round : ℕ}

/-- A round that is scheduled before some 64-bit time is scheduled where the formula says. -/
theorem roundTime_eq {before : ℕ} (early : beacon.genesis + before * beacon.period ≤ now)
    (small : now < 2 ^ 64) :
    roundTime beacon (before + 1) = beacon.genesis + before * beacon.period := by
  unfold roundTime saturating largest
  rw [Nat.add_sub_cancel]
  omega

theorem usable_iff_young (required : currentRound beacon startTime ≤ round)
    (published : roundTime beacon round ≤ now) :
    Usable beacon startTime now round ↔ now - roundTime beacon round ≤ beaconMaxAge := by
  refine ⟨Usable.young, fun young => ⟨required, published, young, ?_, ?_⟩⟩
  · refine decide_eq_false (Nat.not_lt.mpr ?_)
    have bounded : roundTime beacon round ≤ largest 64 := Nat.min_le_right _ _
    unfold beaconMaxAge at young ⊢
    unfold saturating largest at *
    norm_num at bounded ⊢
    omega
  · unfold beaconMaxAge EpochEntropy.maxAttestationAge at *
    omega

/-- The start round is the one picked while it is young. A younger one is not needed: the age is at
most the limit whatever the period. -/
theorem inTime_of_young {beacon : EpochBeacon} {startTime now : ℕ}
    (ordered : (startTime - beacon.genesis) / beacon.period ≤ (now - beacon.genesis) / beacon.period)
    (young : now - (beacon.genesis + (startTime - beacon.genesis) / beacon.period * beacon.period) ≤
      startRoundMaxAge) :
    InTime beacon startTime now := by
  unfold startRoundMaxAge beaconMaxAge at young
  unfold InTime beaconMaxAge
  have elapsed := Nat.div_add_mod (now - beacon.genesis) beacon.period
  rcases Nat.eq_or_lt_of_le ordered with same | later
  · exact .inl same.symm
  · have periods := Nat.mul_le_mul_right beacon.period later
    rw [Nat.succ_mul] at periods
    rw [Nat.mul_comm] at elapsed
    omega

theorem chooseRound_eq (schedule : 0 < beacon.period) (tight : beacon.period < beaconMaxAge)
    (genesisFirst : beacon.genesis ≤ startTime) (startFirst : startTime ≤ now)
    (small : now < 2 ^ 64) :
    ∃ before, chooseRound beacon startTime now = some (before + 1) ∧
      (startTime - beacon.genesis) / beacon.period ≤ before ∧
      beacon.genesis + before * beacon.period ≤ now ∧
      (now - (beacon.genesis + before * beacon.period) ≤ beaconMaxAge ↔
        InTime beacon startTime now) := by
  have ordered : (startTime - beacon.genesis) / beacon.period ≤
      (now - beacon.genesis) / beacon.period :=
    Nat.div_le_div_right (Nat.sub_le_sub_right startFirst _)
  have startScheduled :
      beacon.genesis + (startTime - beacon.genesis) / beacon.period * beacon.period ≤ now := by
    have floor := Nat.div_mul_le_self (startTime - beacon.genesis) beacon.period
    omega
  have elapsed := Nat.div_add_mod (now - beacon.genesis) beacon.period
  have phase := Nat.mod_lt (now - beacon.genesis) schedule
  rw [Nat.mul_comm] at elapsed
  unfold chooseRound currentRound
  rw [if_neg (by omega), roundTime_eq startScheduled small]
  split
  case isTrue young =>
    refine ⟨_, rfl, Nat.le_refl _, startScheduled, ?_⟩
    exact iff_of_true (young.trans (Nat.sub_le _ _)) (inTime_of_young ordered young)
  case isFalse old =>
    rcases Nat.eq_or_lt_of_le ordered with same | later
    · refine ⟨_, congrArg some (Nat.max_eq_right ?_), Nat.le_refl _, startScheduled, ?_⟩
      · rw [Nat.add_sub_cancel, same]
        exact Nat.le_succ _
      · refine iff_of_true ?_ (.inl same.symm)
        rw [same]
        unfold beaconMaxAge at *
        omega
    · obtain ⟨before, next⟩ := Nat.exists_eq_add_of_le' (Nat.zero_lt_of_lt later)
      have onePeriod : (now - beacon.genesis) / beacon.period * beacon.period =
          before * beacon.period + beacon.period := by
        rw [next, Nat.add_mul, Nat.one_mul]
      refine ⟨before, congrArg some ?_, by omega, by omega, ?_⟩
      · omega
      · unfold InTime
        rw [or_iff_right (Nat.ne_of_gt later)]
        omega

/-- A beacon whose recipe is accepted has a schedule, and a period shorter than a packet may age. -/
theorem period_of_check {id : ℕ} {recipe : RegisteredRecipe} (accepted : check id recipe = .ok ())
    (registered : recipe.beacon = some beacon) :
    0 < beacon.period ∧ beacon.period < beaconMaxAge := by
  unfold check at accepted
  rw [registered] at accepted
  obtain ⟨_, schedule, accepted⟩ := bind_eq_ok.mp accepted
  obtain ⟨_, tight, -⟩ := bind_eq_ok.mp accepted
  exact ⟨(ensure_eq_ok.mp schedule).2.2, ensure_eq_ok.mp tight⟩

/-- The round that is picked for an accepted beacon is usable exactly at the times of `InTime`. It
is always the required round or a later one, and published; and of a beacon it is usable at all
times exactly if the period is at most 100 seconds. -/
theorem chosen_round_usable_iff (id : ℕ) (recipe : RegisteredRecipe) (beacon : EpochBeacon)
    (accepted : check id recipe = .ok ()) (registered : recipe.beacon = some beacon) :
    (∀ startTime now round, beacon.genesis ≤ startTime → startTime ≤ now → now < 2 ^ 64 →
      chooseRound beacon startTime now = some round →
      currentRound beacon startTime ≤ round ∧ roundTime beacon round ≤ now ∧
      (Usable beacon startTime now round ↔ InTime beacon startTime now)) ∧
    (beacon.genesis + 2 * beaconMaxAge < 2 ^ 64 →
      ((∀ startTime now round, beacon.genesis ≤ startTime → startTime ≤ now → now < 2 ^ 64 →
        chooseRound beacon startTime now = some round → Usable beacon startTime now round) ↔
      beacon.period ≤ 100)) := by
  obtain ⟨schedule, tight⟩ := period_of_check accepted registered
  have pointwise : ∀ startTime now round, beacon.genesis ≤ startTime → startTime ≤ now →
      now < 2 ^ 64 → chooseRound beacon startTime now = some round →
      currentRound beacon startTime ≤ round ∧ roundTime beacon round ≤ now ∧
      (Usable beacon startTime now round ↔ InTime beacon startTime now) := by
    intro startTime now round genesisFirst startFirst small chosen
    obtain ⟨before, found, required, scheduled, young⟩ :=
      chooseRound_eq schedule tight genesisFirst startFirst small
    obtain rfl := Option.some.inj (chosen.symm.trans found)
    have required : currentRound beacon startTime ≤ before + 1 := Nat.succ_le_succ required
    have time := roundTime_eq scheduled small
    have published : roundTime beacon (before + 1) ≤ now := time ▸ scheduled
    refine ⟨required, published, (usable_iff_young required published).trans ?_⟩
    rw [time]
    exact young
  refine ⟨pointwise, fun room => ⟨fun always => ?_, fun short => ?_⟩⟩
  · have lastOfSecond : beacon.genesis + (2 * beacon.period - 1) < 2 ^ 64 := by omega
    obtain ⟨before, found, -⟩ := chooseRound_eq schedule tight (Nat.le_refl beacon.genesis)
      (Nat.le_add_right _ (2 * beacon.period - 1)) lastOfSecond
    have usable := always _ _ _ (Nat.le_refl _) (Nat.le_add_right _ _) lastOfSecond found
    have inTime := (pointwise _ _ _ (Nat.le_refl _) (Nat.le_add_right _ _) lastOfSecond
      found).2.2.mp usable
    have split : 2 * beacon.period - 1 = beacon.period - 1 + beacon.period * 1 := by omega
    have small : beacon.period - 1 < beacon.period := Nat.sub_one_lt_of_lt schedule
    unfold InTime at inTime
    rw [Nat.add_sub_cancel_left, Nat.sub_self, Nat.zero_div, split,
      Nat.add_mul_div_left _ _ schedule, Nat.div_eq_of_lt small, Nat.add_mul_mod_self_left,
      Nat.mod_eq_of_lt small] at inTime
    unfold beaconMaxAge at inTime
    omega
  · intro startTime now round genesisFirst startFirst small chosen
    refine (pointwise startTime now round genesisFirst startFirst small chosen).2.2.mpr (.inr ?_)
    have phase := Nat.mod_lt (now - beacon.genesis) schedule
    unfold beaconMaxAge
    omega

/-- A beacon with rounds 150 seconds apart. -/
def slowBeacon : EpochBeacon := ⟨⟨1⟩, 1000, 150, 1, []⟩

/-- The recipe that registers it. -/
def slowRecipe : RegisteredRecipe :=
  ⟨request slowBeacon, template, request slowBeacon, some slowBeacon⟩

theorem check_slowRecipe : check 6 slowRecipe = .ok () :=
  bind_eq_ok.mpr ⟨(), ensure_eq_ok.mpr (by decide), bind_eq_ok.mpr ⟨(), ensure_eq_ok.mpr (by decide),
    bind_eq_ok.mpr ⟨(), ensure_eq_ok.mpr ⟨rfl, rfl⟩, ensure_eq_ok.mpr rfl⟩⟩⟩

/-- The round picked for a slow beacon at the end of its second period is 299 seconds old, so that
the keeper discards its packet at once. -/
theorem chosen_round_stale :
    check 6 slowRecipe = .ok () ∧ chooseRound slowBeacon 1000 1299 = some 1 ∧
      tooOld (roundTime slowBeacon 1) 1299 = true ∧ ¬ Usable slowBeacon 1000 1299 1 := by
  have old : tooOld (roundTime slowBeacon 1) 1299 = true := by decide +kernel
  refine ⟨check_slowRecipe, by decide +kernel, old, fun usable => ?_⟩
  rw [usable.kept] at old
  exact nomatch old

/-- In the first period the round picked for the slow beacon is usable. -/
theorem chosen_round_usable_iff_slow :
    chooseRound slowBeacon 1000 1149 = some 1 ∧ Usable slowBeacon 1000 1149 1 := by
  have chosen : chooseRound slowBeacon 1000 1149 = some 1 := by decide +kernel
  refine ⟨chosen, ((chosen_round_usable_iff 6 slowRecipe slowBeacon check_slowRecipe rfl).1 1000 1149 1
    ?_ ?_ ?_ chosen).2.2.mpr (.inl ?_)⟩
  all_goals decide +kernel

end D20.Beacon
