/-
This file models `BeaconBook`, the beacons a round coordinator binds requests to:
their registrations, the schedule of the one in force, and the cache of rounds
verified on chain.

The functions that ask a verifier run in the transaction of the coordinator. A
verifier is asked by a static call, which cannot write, so they take the book as
the caller read it and return the book to store.
-/

import D20Keeper.Interface
import D20Keeper.Timeline

namespace D20

open Evm

/-! ### Storage -/

/-- `BeaconBook.StoredBeacon`. -/
structure StoredBeacon where
  verifier : Address
  genesis : Nat
  period : Nat
  chainHash : Bytes32
  publicKey : Bytes

/-- `BeaconBook.Era`: a beacon in force from `since` on. -/
structure Era where
  beaconId : Nat
  since : Nat
  genesis : Nat
  period : Nat
deriving DecidableEq

/-- `BeaconBook.Schedule`: the era in force and, when `nextFrom` is not zero, the beacon that
replaces it from that time on. -/
structure Schedule where
  beaconId : Nat
  since : Nat
  genesis : Nat
  period : Nat
  nextBeaconId : Nat
  nextFrom : Nat
  nextGenesis : Nat
  nextPeriod : Nat
deriving DecidableEq

/-- `BeaconBook.BeaconBookStorage`. -/
structure BeaconBook where
  beacons : List StoredBeacon
  schedule : Schedule
  past : List Era
  registered : Bytes32 → Bool
  roundRandomness : Nat → Nat → Bytes32

/-- `BeaconBook.BeaconRegistration`. -/
structure BeaconRegistration where
  verifier : Address
  chainHash : Bytes32
  publicKey : Bytes
  genesis : Nat
  period : Nat
  sampleRound : Nat
  sampleSignature : Bytes

namespace BeaconBook

def roundLead : Nat := 3

def maxBeacons : Nat := 256

def maxBeaconPeriod : Nat := 10

def minScheduleLead : Nat := 600

def roundVerifyGas : Nat := 400000

def roundVerifyGasNeeded : Nat := roundVerifyGas + roundVerifyGas / 63 + 5000

/-- The storage before initialization: every slot zero. -/
def empty : BeaconBook where
  beacons := []
  schedule := ⟨0, 0, 0, 0, 0, 0, 0, 0⟩
  past := []
  registered := fun _ => false
  roundRandomness := fun _ _ => 0

/-! ### Rounds -/

/-- `_round`: the first round `r` with `genesis + (r - 1) * period` at or after the timestamp
and the lead. -/
def round (genesis period timestamp : Nat) : Except Panic Nat := do
  let t ← checkedAdd 256 timestamp roundLead
  if t ≤ genesis then
    return 1
  else
    let elapsed ← checkedSub t genesis
    let rounded ← checkedSub (← checkedAdd 256 elapsed period) 1
    let periods ← checkedDiv rounded period
    return (← checkedAdd 256 periods 1) % 2 ^ 64

variable (block : Block)

/-- `_settled`: the schedule with a change whose time has come made the era in force. -/
def settled (schedule : Schedule) : Schedule :=
  if schedule.nextFrom ≠ 0 ∧ schedule.nextFrom ≤ block.timestamp then
    ⟨schedule.nextBeaconId, schedule.nextFrom, schedule.nextGenesis, schedule.nextPeriod, 0, 0, 0, 0⟩
  else schedule

variable (book : BeaconBook)

/-- `_assignRound`: the beacon and round of a request in this block. -/
def assignRound : Except Panic (Nat × Nat) := do
  let s := book.schedule
  if s.nextFrom ≠ 0 ∧ s.nextFrom ≤ block.timestamp then
    return (s.nextBeaconId, ← round s.nextGenesis s.nextPeriod block.timestamp)
  else
    return (s.beaconId, ← round s.genesis s.period block.timestamp)

/-- The loop of `roundAt` over the replaced eras, newest first: the first one that had begun, or
the last one left. -/
def scanPast (timestamp : Nat) : List Era → Option Era
  | [] => none
  | [era] => some era
  | era :: older => if timestamp < era.since then scanPast timestamp older else some era

/-- `roundAt`: the beacon and round that a request in a block with this timestamp binds. -/
def roundAt (timestamp : Nat) : Except Panic (Nat × Nat) := do
  let s := book.schedule
  if s.nextFrom ≠ 0 ∧ s.nextFrom ≤ timestamp then
    return (s.nextBeaconId, ← round s.nextGenesis s.nextPeriod timestamp)
  else if s.since ≤ timestamp ∨ book.past.length = 0 then
    return (s.beaconId, ← round s.genesis s.period timestamp)
  else
    match scanPast timestamp book.past.reverse with
    | none => .error .outOfBounds
    | some era => return (era.beaconId, ← round era.genesis era.period timestamp)

/-! ### Registrations -/

variable (platform : Platform)

/-- `_identity`. -/
def identity (verifier : Address) (chainHash : Bytes32)
    (publicKey : Bytes) (genesis period : Nat) : Bytes32 :=
  platform.hash [.bytes32 (platform.domain "D20_ROUND_BEACON_V1"), .address verifier,
    .bytes32 chainHash, .bytes32 (platform.keccak256 publicKey), .uint genesis, .uint period]

/-- `beaconIdentity`. -/
def beaconIdentity (book : BeaconBook) (beaconId : Nat) :
    Except (Fault Error) Bytes32 :=
  match book.beacons[beaconId]? with
  | none => .error (.revert .invalidBeacon)
  | some s => .ok (identity platform s.verifier s.chainHash s.publicKey s.genesis s.period)

/-- The book with a beacon appended, as `_registerBeacon` leaves it. -/
def enlist (book : BeaconBook) (r : BeaconRegistration) : BeaconBook :=
  { book with
    registered := Function.update book.registered
      (identity platform r.verifier r.chainHash r.publicKey r.genesis r.period) true
    beacons := book.beacons ++
      [⟨r.verifier, r.genesis % 2 ^ 40, r.period % 2 ^ 16, r.chainHash, r.publicKey⟩] }

section Asking

variable {σ κ : Type}

/-- `_yes`: a question to a verifier under `ROUND_VERIFY_GAS`. One word 1 is a yes and 0 a no;
anything else is no answer and reverts. -/
def yes (verifier : Address) (question : Views → Option Nat) : CoordinatorTx σ κ Bool := do
  Tx.requireGas roundVerifyGasNeeded .beaconGasTooLow
  let reply ← Tx.spending .verification do
    Tx.tick
    Tx.staticCall verifier (some roundVerifyGas)
  match if reply.1 then question reply.2 else none with
  | none => Tx.revert .beaconVerifierFailed
  | some word => do
    Tx.revertIf (2 ≤ word) .beaconVerifierFailed
    return word = 1

variable (platform : Platform)

/-- `_registerBeacon`: append a beacon whose verifier accepts its key and the signature of a past
round of it. Returns the book to store and the id. -/
def registerBeacon (block : Block) (book : BeaconBook)
    (r : BeaconRegistration) : CoordinatorTx σ κ (BeaconBook × Nat) := do
  let count := book.beacons.length
  let coded ← Tx.observe fun views => views.hasCode r.verifier
  Tx.revertIf (count = maxBeacons ∨ coded = false ∨ r.chainHash = 0 ∨ r.genesis = 0 ∨
    2 ^ 40 - 1 < r.genesis ∨ r.period = 0 ∨ maxBeaconPeriod < r.period ∨ r.sampleRound = 0)
    .invalidBeacon
  let before ← Tx.checked (checkedSub r.sampleRound 1)
  Tx.revertIf (block.timestamp < r.genesis + before * r.period) .invalidBeacon
  let keyValid ← yes r.verifier fun views => views.isValidPublicKey r.verifier r.publicKey
  Tx.revertIf (keyValid = false) .invalidBeacon
  let sampleValid ← yes r.verifier fun views =>
    views.verifyRound r.verifier r.publicKey r.sampleRound r.sampleSignature
  Tx.revertIf (sampleValid = false) .invalidBeacon
  let identity := identity platform r.verifier r.chainHash r.publicKey r.genesis r.period
  Tx.revertIf (book.registered identity = true) .invalidBeacon
  let id := count % 2 ^ 8
  Tx.emit (.beaconRegistered id identity r.verifier r.chainHash r.publicKey r.genesis r.period)
  return (book.enlist platform r, id)

variable (book : BeaconBook)

/-- `_checked`: the randomness of a round from a signature the verifier accepts. -/
def checked (beaconId round : Nat) (signature : Bytes) : CoordinatorTx σ κ Bytes32 :=
  match book.beacons[beaconId]? with
  | none => Tx.fail (.panic .outOfBounds)
  | some beacon => do
    let valid ← yes beacon.verifier fun views =>
      views.verifyRound beacon.verifier beacon.publicKey round signature
    Tx.revertIf (valid = false) .invalidRoundSignature
    return platform.sha256 signature

/-- `_cachedRound`: the cached randomness of a round, zero while it is not verified. -/
def cachedRound (beaconId round : Nat) : Bytes32 :=
  book.roundRandomness beaconId round

/-- The book with a round's randomness in its cache. -/
def cache (beaconId round : Nat) (value : Bytes32) : BeaconBook :=
  { book with
    roundRandomness := fun otherBeacon otherRound =>
      if otherBeacon = beaconId ∧ otherRound = round then value
      else book.roundRandomness otherBeacon otherRound }

/-- `_verifyRound`: verify a round's signature now and cache its randomness. Returns the book to
store and the randomness. -/
def verifyRound (beaconId round : Nat)
    (signature : Bytes) : CoordinatorTx σ κ (BeaconBook × Bytes32) := do
  let value ← checked platform book beaconId round signature
  Tx.emit (.roundVerified beaconId round value signature)
  return (book.cache beaconId round value, value)

/-- `_roundRandomnessView`: a round's randomness for a view, cached or computed from a signature
the verifier accepts. -/
def roundRandomnessView (beaconId round : Nat) (signature : Bytes) : CoordinatorTx σ κ Bytes32 :=
  if book.cachedRound beaconId round = 0 then checked platform book beaconId round signature
  else pure (book.cachedRound beaconId round)

end Asking

/-! ### The schedule -/

/-- `_startWith`: the first beacon, in force from initialization. -/
def startWith (beaconId : Nat) :
    Except (Fault Error) BeaconBook :=
  match book.beacons[beaconId]? with
  | none => .error (.revert .invalidBeacon)
  | some beacon => .ok { book with
      schedule := ⟨beaconId, block.timestamp % 2 ^ 40, beacon.genesis, beacon.period, 0, 0, 0, 0⟩ }

/-- `_scheduleBeacon`: replace the beacon in force from a time on, `MIN_SCHEDULE_LEAD` ahead or
more. A change that has taken effect is settled first, one still pending is replaced. -/
def scheduleBeacon (beaconId fromTime : Nat) :
    Except (Fault Error) BeaconBook :=
  match book.beacons[beaconId]? with
  | none => .error (.revert .invalidBeacon)
  | some beacon =>
    if fromTime < block.timestamp + minScheduleLead ∨ 2 ^ 40 - 1 < fromTime then
      .error (.revert .invalidSchedule)
    else
      let s := book.schedule
      let takenEffect := s.nextFrom ≠ 0 ∧ s.nextFrom ≤ block.timestamp
      let past := if takenEffect then
        book.past ++ [⟨s.beaconId, s.since, s.genesis, s.period⟩] else book.past
      let current := if takenEffect then settled block s else s
      .ok { book with
        past := past
        schedule := { current with
          nextBeaconId := beaconId
          nextFrom := fromTime % 2 ^ 40
          nextGenesis := beacon.genesis
          nextPeriod := beacon.period } }

/-- `_cancelSchedule`: drop a change that has not taken effect yet. Returns the book to store and
the beacon and time of the dropped change. -/
def cancelSchedule :
    Except (Fault Error) (BeaconBook × Nat × Nat) :=
  let s := book.schedule
  if s.nextFrom = 0 ∨ s.nextFrom ≤ block.timestamp then .error (.revert .invalidSchedule)
  else .ok ({ book with
    schedule := { s with nextBeaconId := 0, nextFrom := 0, nextGenesis := 0, nextPeriod := 0 } },
    s.nextBeaconId, s.nextFrom)

end BeaconBook

end D20
