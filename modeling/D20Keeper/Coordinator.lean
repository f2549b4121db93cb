/-
This file models what the two coordinators have in common: the record of a
request, the storage around it, and every function that both contracts write in
the same words. The two differ in what a request is bound to (`β`: an epoch and
a block hash, or a beacon and a round), in the storage that comes with it (`χ`),
and in two constants, which `Terms` holds.

A function of the source that reads or writes storage is a program in `Tx`. The
parameter `reenter` runs a call that some callee makes back into the contracts
before it returns; the dispatcher of each contract ties the knot.
-/

import D20Keeper.Interface

namespace D20

open Evm
open Tx (revertIf emit)

/-! ### Constants -/

def minCallbackGas : Nat := 30000

def maxCallbackGas : Nat := 1000000

def responseTimeout : Nat := 60

def refundCallbackGas : Nat := 100000

def maxEvidencePacketBytes : Nat := 512

def maxFulfillBatch : Nat := 16

def maxFeeMultiplier : Nat := 20

def minFulfillGasOverhead : Nat := 100000

def maxFulfillGasOverhead : Nat := 2000000

def minRefundBps : Nat := 5000

def callbackReserve : Nat := 140000

def batchMemberOverhead : Nat := 400000

/-- The constants in which the two coordinators differ: the greatest minimum fee, which the fee
escrow of twelve bytes must hold, and the width of a stored deadline. -/
structure Terms where
  maxMinFee : Nat
  deadlineBits : Nat
  maxMinFee_lt : maxMinFee < 2 ^ 96

/-- What a call reads besides the storage of the contract: the platform, the address of the
contract and the block. -/
structure Context where
  platform : Platform
  self : Address
  block : Block

/-! ### Fees -/

/-- A share in basis points. -/
structure BasisPoints where
  value : Nat
  value_le : value ≤ 10000

/-- A number as a share, when it is one. -/
def BasisPoints.of? (value : Nat) : Option BasisPoints :=
  if small : value ≤ 10000 then some ⟨value, small⟩ else none

/-- All of an amount. -/
def BasisPoints.whole : BasisPoints := ⟨10000, Nat.le_refl _⟩

theorem BasisPoints.of?_eq_some {value : Nat} {bps : BasisPoints} (read : of? value = some bps) :
    value = bps.value := by
  unfold of? at read
  split at read
  · cases read
    rfl
  · cases read

variable (bps : BasisPoints)

/-- The keeper's part of a fee, as `_fulfill` computes it. -/
def BasisPoints.keeperShare (fee : Nat) : Nat :=
  fee / 10000 * bps.value + fee % 10000 * bps.value / 10000

/-- The part of a fee that a refund returns, as `refundRequest` computes it. -/
def BasisPoints.refundShare (fee : Nat) : Nat := fee * bps.value / 10000

theorem BasisPoints.refundShare_le (fee : Nat) : bps.refundShare fee ≤ fee := by
  have bounded : fee * bps.value ≤ fee * 10000 := Nat.mul_le_mul_left fee bps.value_le
  unfold refundShare
  omega

theorem BasisPoints.keeperShare_le (fee : Nat) : bps.keeperShare fee ≤ fee := by
  have whole : fee / 10000 * bps.value ≤ fee / 10000 * 10000 :=
    Nat.mul_le_mul_left _ bps.value_le
  have rest : fee % 10000 * bps.value ≤ fee % 10000 * 10000 := Nat.mul_le_mul_left _ bps.value_le
  unfold keeperShare
  omega

/-- The pricing parameters that `setPricing` accepts. -/
structure Pricing (terms : Terms) where
  minFee : Nat
  feeMultiplier : Nat
  fulfillGasOverhead : Nat
  minFee_le : minFee ≤ terms.maxMinFee
  feeMultiplier_le : feeMultiplier ≤ maxFeeMultiplier
  overhead_ge : minFulfillGasOverhead ≤ fulfillGasOverhead
  overhead_le : fulfillGasOverhead ≤ maxFulfillGasOverhead

/-- The bounds of `setPricing`; a free price, with no minimum fee and no multiplier, is refused
by the caller. -/
def Pricing.of? (terms : Terms) (minFee feeMultiplier fulfillGasOverhead : Nat) :
    Option (Pricing terms) :=
  if bounds : minFee ≤ terms.maxMinFee ∧ feeMultiplier ≤ maxFeeMultiplier ∧
      minFulfillGasOverhead ≤ fulfillGasOverhead ∧ fulfillGasOverhead ≤ maxFulfillGasOverhead then
    some ⟨minFee, feeMultiplier, fulfillGasOverhead, bounds.1, bounds.2.1, bounds.2.2.1,
      bounds.2.2.2⟩
  else none

theorem Pricing.of?_eq_some {terms : Terms} {minFee feeMultiplier fulfillGasOverhead : Nat}
    {pricing : Pricing terms}
    (read : of? terms minFee feeMultiplier fulfillGasOverhead = some pricing) :
    minFee = pricing.minFee ∧ feeMultiplier = pricing.feeMultiplier ∧
      fulfillGasOverhead = pricing.fulfillGasOverhead := by
  unfold of? at read
  split at read
  · cases read
    exact ⟨rfl, rfl, rfl⟩
  · cases read

/-- `quoteFeeAt`. -/
def Pricing.quoteFeeAt {terms : Terms} (pricing : Pricing terms) (callbackGasLimit baseFee : Nat) :
    Except (Fault Error) Nat :=
  match checkedMul 256 pricing.feeMultiplier baseFee with
  | .error code => .error (.panic code)
  | .ok scaled =>
    match checkedMul 256 scaled (pricing.fulfillGasOverhead + callbackGasLimit) with
    | .error code => .error (.panic code)
    | .ok dynamic =>
      if 2 ^ 96 - 1 < dynamic then .error (.revert .feeOverflow)
      else .ok (if pricing.minFee < dynamic then dynamic else pricing.minFee)

/-- A quoted fee fits the twelve bytes of its escrow. -/
theorem Pricing.quoteFeeAt_lt {terms : Terms} {pricing : Pricing terms}
    {callbackGasLimit baseFee fee : Nat}
    (quoted : pricing.quoteFeeAt callbackGasLimit baseFee = .ok fee) : fee < 2 ^ 96 := by
  have minimum := pricing.minFee_le.trans_lt terms.maxMinFee_lt
  unfold quoteFeeAt at quoted
  split at quoted
  · cases quoted
  · split at quoted
    · cases quoted
    · split at quoted
      · cases quoted
      · rename_i dynamic _ small
        rw [← Except.ok.inj quoted]
        split
        · omega
        · exact minimum

/-! ### Storage -/

/-- `StoredRequest`, with what the request is bound to in `binding`. -/
structure StoredRequest (β : Type) where
  consumer : Address
  callbackGasLimit : Nat
  requestBlock : Nat
  deadline : Nat
  refundAddress : Address
  fulfilled : Bool
  delivered : Bool
  refunded : Bool
  clientSeed : Bytes32
  mappingHash : Bytes32
  randomness : Bytes32
  proofHash : Bytes32
  transcriptHash : Bytes32
  feePaid : Nat
  refundBps : BasisPoints
  binding : β

/-- A request slot that was never written. -/
def StoredRequest.blank {β : Type} [Inhabited β] : StoredRequest β where
  consumer := 0
  callbackGasLimit := 0
  requestBlock := 0
  deadline := 0
  refundAddress := 0
  fulfilled := false
  delivered := false
  refunded := false
  clientSeed := 0
  mappingHash := 0
  randomness := 0
  proofHash := 0
  transcriptHash := 0
  feePaid := 0
  refundBps := ⟨0, Nat.zero_le _⟩
  binding := default

/-- Whether a request is neither fulfilled nor refunded, so that its fee is in escrow. -/
def StoredRequest.isOpen {β : Type} (r : StoredRequest β) : Bool := !r.fulfilled && !r.refunded

/-- The storage of a coordinator. `entered` is the flag of the reentrancy guard and `ext` the
storage in which the two coordinators differ. -/
structure Coordinator (terms : Terms) (β χ : Type) where
  entered : Bool
  owner : Address
  pendingOwner : Address
  protocolConfigurationHash : Bytes32
  publicKeyX : Nat
  publicKeyY : Nat
  keyHash : Bytes32
  initialFeeRecipient : Address
  feeRecipient : Address
  keeperFeeBps : BasisPoints
  keeperCredits : Address → Nat
  totalKeeperCredits : Nat
  pricing : Pricing terms
  refundBps : BasisPoints
  nextRequestId : Nat
  earnedFees : Nat
  lastServedRequestId : Nat
  lastServedIndex : Nat
  servedRequestAt : Nat → Nat
  totalRefundCredits : Nat
  refundCredits : Address → Nat
  requests : Nat → StoredRequest β
  mappingSpecs : Nat → RandomnessMapping.Spec
  refundCallbackDelivered : Nat → Bool
  initialMinFee : Nat
  ext : χ

namespace Coordinator

variable {terms : Terms} {β χ : Type}

variable (store : Coordinator terms β χ)

/-- Write one request. -/
def setRequest (requestId : Nat)
    (update : StoredRequest β → StoredRequest β) : Coordinator terms β χ :=
  { store with
    requests := Function.update store.requests requestId (update (store.requests requestId)) }

/-- Two writes of one request are one. -/
theorem setRequest_setRequest (requestId : Nat) (first second : StoredRequest β → StoredRequest β) :
    (store.setRequest requestId first).setRequest requestId second =
      store.setRequest requestId fun r => second (first r) := by
  unfold setRequest
  simp only [Function.update_self, Function.update_idem]

variable (account : Address)

variable (amount : Nat)

/-- Add to the refund credit of an address. -/
def addRefundCredit :
    Coordinator terms β χ :=
  { store with
    refundCredits := Function.update store.refundCredits account
      (store.refundCredits account + amount)
    totalRefundCredits := store.totalRefundCredits + amount }

/-- Take from the refund credit of an address. -/
def subRefundCredit :
    Coordinator terms β χ :=
  { store with
    refundCredits := Function.update store.refundCredits account
      (store.refundCredits account - amount)
    totalRefundCredits := store.totalRefundCredits - amount }

/-- Add to the keeper credit of an address. -/
def addKeeperCredit :
    Coordinator terms β χ :=
  { store with
    keeperCredits := Function.update store.keeperCredits account
      (store.keeperCredits account + amount)
    totalKeeperCredits := store.totalKeeperCredits + amount }

/-- Take from the keeper credit of an address. -/
def subKeeperCredit :
    Coordinator terms β χ :=
  { store with
    keeperCredits := Function.update store.keeperCredits account
      (store.keeperCredits account - amount)
    totalKeeperCredits := store.totalKeeperCredits - amount }

/-- Add to the earned fees. -/
def earn : Coordinator terms β χ :=
  { store with earnedFees := store.earnedFees + amount }

/-- List a request as the next one served. -/
def serve (requestId : Nat) : Coordinator terms β χ :=
  { store with
    lastServedRequestId := requestId
    lastServedIndex := store.lastServedIndex + 1
    servedRequestAt := Function.update store.servedRequestAt (store.lastServedIndex + 1)
      requestId }

/-- Store a new request under the next identifier. -/
def enroll (r : StoredRequest β) (spec : Option RandomnessMapping.Spec) : Coordinator terms β χ :=
  { store with
    nextRequestId := store.nextRequestId + 1
    requests := Function.update store.requests store.nextRequestId r
    mappingSpecs := match spec with
      | none => store.mappingSpecs
      | some spec => Function.update store.mappingSpecs store.nextRequestId spec }

end Coordinator

/-! ### Helpers of the shared functions -/

/-- A program of a coordinator. -/
abbrev Program (terms : Terms) (β χ κ α : Type) := CoordinatorTx (Coordinator terms β χ) κ α

section Functions

variable {terms : Terms} {β χ κ : Type}

/-- `_request`. -/
def request (requestId : Nat) : Program terms β χ κ (StoredRequest β) := do
  let store ← Tx.storage
  revertIf ((store.requests requestId).consumer = 0) .unknownRequest
  return store.requests requestId

/-- The modifier `nonReentrant`. -/
def nonReentrant (body : Program terms β χ κ Unit) : Program terms β χ κ Unit := do
  let store ← Tx.storage
  revertIf (store.entered = true) .reentrantCall
  Tx.write fun store => { store with entered := true }
  body
  Tx.write fun store => { store with entered := false }

variable (sender : Address)

/-- The modifier `onlyOwner`. -/
def onlyOwner (body : Program terms β χ κ Unit) : Program terms β χ κ Unit := do
  let store ← Tx.storage
  revertIf (sender ≠ store.owner) .ownableUnauthorizedAccount
  body

/-- `_checkGasLimit`. -/
def checkGasLimit (gasLimit : Nat) : Program terms β χ κ Unit :=
  revertIf (gasLimit < minCallbackGas ∨ maxCallbackGas < gasLimit) .invalidCallbackGas

variable (reenter : κ → Program terms β χ κ Unit)

/-- `_deliver`: hand the stored result to the consumer and note whether it took it. -/
def deliver (requestId gasLimit : Nat) :
    Program terms β χ κ Unit := do
  let store ← Tx.storage
  let consumer := (store.requests requestId).consumer
  let coded ← Tx.observe fun views => views.hasCode consumer
  if coded = false then
    emit (.callbackAttempted requestId false gasLimit)
  else do
    Tx.requireGas (gasLimit + gasLimit / 63 + callbackReserve) .insufficientCallbackGas
    Tx.tick
    let success ← Tx.spending .callback (Tx.call reenter consumer 0 (some gasLimit))
    Tx.write fun store => store.setRequest requestId fun r => { r with delivered := success }
    emit (.callbackAttempted requestId success gasLimit)

/-- `_deliverRefund`: tell the consumer of a refund and note whether it took it. -/
def deliverRefund (requestId : Nat) (consumer : Address)
    (gasLimit : Nat) : Program terms β χ κ Unit := do
  Tx.requireGas (gasLimit + gasLimit / 63 + 50000) .insufficientCallbackGas
  let success ← Tx.call reenter consumer 0 (some gasLimit)
  if success = true then
    Tx.write fun store => { store with
      refundCallbackDelivered := Function.update store.refundCallbackDelivered requestId true }
  emit (.refundCallbackAttempted requestId consumer success gasLimit)

/-! ### Requests -/

/-- The checks of `_createRequest`; returns the fee. -/
def checkRequest (context : Context) (msg : Msg) (callbackGasLimit : Nat) (refundAddress : Address)
    (spec : RandomnessMapping.Spec) : Program terms β χ κ Nat := do
  let coded ← Tx.observe fun views => views.hasCode msg.sender
  revertIf (coded = false) .contractConsumerRequired
  revertIf (refundAddress = 0) .invalidRefundAddress
  checkGasLimit callbackGasLimit
  let store ← Tx.storage
  let fee ← Tx.attempt (store.pricing.quoteFeeAt callbackGasLimit context.block.baseFee)
  revertIf (msg.value < fee) (.incorrectFee fee msg.value)
  revertIf (RandomnessMapping.validate spec = false) .invalidMapping
  return fee

/-- The record that `_createRequest` writes over a fresh slot; `bind` writes the binding. -/
def newRequest (context : Context) (store : Coordinator terms β χ) (msg : Msg)
    (clientSeed : Bytes32) (callbackGasLimit : Nat) (refundAddress : Address)
    (spec : RandomnessMapping.Spec) (fee requestBlock : Nat) (bind : β → β) : StoredRequest β :=
  let fresh := store.requests store.nextRequestId
  { fresh with
    consumer := msg.sender
    callbackGasLimit := callbackGasLimit
    requestBlock := requestBlock
    deadline := (context.block.timestamp + responseTimeout) % 2 ^ terms.deadlineBits
    refundAddress := refundAddress
    clientSeed := clientSeed
    mappingHash := RandomnessMapping.hash context.platform spec
    feePaid := fee % 2 ^ 96
    refundBps := store.refundBps
    binding := bind fresh.binding }

/-- The effects of `_createRequest`: the request under the next identifier, what was paid beyond
the fee as a refund credit, and the events. `stored` is the mapping to write, if one is. -/
def createRequest (context : Context) (msg : Msg) (clientSeed : Bytes32) (callbackGasLimit : Nat)
    (refundAddress : Address) (spec : RandomnessMapping.Spec)
    (stored : Option RandomnessMapping.Spec) (fee requestBlock : Nat) (bind : β → β) :
    Program terms β χ κ Nat := do
  let store ← Tx.storage
  let requestId := store.nextRequestId
  let _ ← Tx.checked (checkedAdd 256 requestId 1)
  let r := newRequest context store msg clientSeed callbackGasLimit refundAddress spec fee
    requestBlock bind
  Tx.write fun store => store.enroll r stored
  let excess ← Tx.checked (checkedSub msg.value fee)
  if excess ≠ 0 then do
    let _ ← Tx.checked (checkedAdd 256 (store.refundCredits refundAddress) excess)
    let _ ← Tx.checked (checkedAdd 256 store.totalRefundCredits excess)
    Tx.write fun store => store.addRefundCredit refundAddress excess
    emit (.feeOverpaymentCredited requestId refundAddress excess)
  emit (.randomnessRequested requestId msg.sender store.keyHash clientSeed requestBlock
    callbackGasLimit fee refundAddress r.deadline)
  emit (.mappingRequested requestId r.mappingHash spec)
  return requestId

/-! ### Fulfillment -/

/-- `_verifyProof`, up to the check of the proof itself: the proof is for the coordinator's key
and for this seed. -/
def checkProof (proof : Proof) (seed : Nat) : Program terms β χ κ Unit := do
  let store ← Tx.storage
  revertIf (proof.pk.1 ≠ store.publicKeyX ∨ proof.pk.2 ≠ store.publicKeyY) .wrongPublicKey
  revertIf (proof.seed ≠ seed) .wrongSeed

/-- The result a fulfillment writes into a request. -/
def StoredRequest.withResult (r : StoredRequest β) (randomness proofHash transcriptHash : Bytes32) :
    StoredRequest β :=
  { r with
    randomness := randomness
    proofHash := proofHash
    transcriptHash := transcriptHash
    fulfilled := true }

/-- `_emitEvidence`. -/
def emitEvidence (requestId : Nat) (transcript : Bytes32) (proof : Proof) :
    Program terms β χ κ Unit := do
  let packet := proof.encode
  revertIf (maxEvidencePacketBytes < packet.length) .evidencePacketTooLarge
  emit (.fulfillmentEvidence requestId transcript packet)

/-- The keeper's payment in `_fulfill`, booked as a credit when it fails. -/
def payKeeper (requestId : Nat) (keeper : Address)
    (keeperAmount : Nat) : Program terms β χ κ Unit :=
  if keeperAmount ≠ 0 then do
    Tx.tick
    let paid ← Tx.call reenter keeper keeperAmount (some 30000)
    if paid = false then do
      let store ← Tx.storage
      let _ ← Tx.checked (checkedAdd 256 (store.keeperCredits keeper) keeperAmount)
      let _ ← Tx.checked (checkedAdd 256 store.totalKeeperCredits keeperAmount)
      Tx.write fun store => store.addKeeperCredit keeper keeperAmount
    emit (.keeperFeePaid requestId keeper keeperAmount paid)
  else pure ()

/-- `_fulfill` after the result is stored and the keeper is known: split the fee, list the
request as served, deliver the result and pay the keeper. -/
def settle (sender keeper : Address) (requestId : Nat)
    (proof : Proof) : Program terms β χ κ Unit := do
  let store ← Tx.storage
  let r := store.requests requestId
  let keeperAmount := store.keeperFeeBps.keeperShare r.feePaid
  let kept ← Tx.checked (checkedSub r.feePaid keeperAmount)
  let _ ← Tx.checked (checkedAdd 256 store.earnedFees kept)
  let index ← Tx.checked (checkedAdd 256 store.lastServedIndex 1)
  Tx.write fun store => (store.earn kept).serve requestId
  emit (.requestServed requestId index)
  emit (.proofVerified requestId store.keyHash proof.seed r.proofHash)
  emit (.randomnessFulfilled requestId r.randomness sender)
  emitEvidence requestId r.transcriptHash proof
  deliver reenter requestId r.callbackGasLimit
  payKeeper reenter requestId keeper keeperAmount

/-- The reason for which a batch skips a member, if it does: already fulfilled, refunded, or past
its deadline. -/
def skipReason (block : Block) (r : StoredRequest β) : Nat :=
  if r.fulfilled then 1
  else if r.refunded then 2
  else if r.deadline < block.timestamp then 3
  else 0

/-! ### Retries and refunds -/

/-- `retryCallback`. -/
def retryCallback (requestId gasLimit : Nat) :
    Program terms β χ κ Unit :=
  nonReentrant do
    let r ← request requestId
    revertIf (r.fulfilled = false) .notFulfilled
    revertIf (r.delivered = true) .alreadyDelivered
    checkGasLimit gasLimit
    revertIf (gasLimit < r.callbackGasLimit) .invalidCallbackGas
    deliver reenter requestId gasLimit

/-- `refundRequest`: book the refund as a credit, try to pay it out, and tell the consumer. -/
def refundRequest (context : Context) (reenter : κ → Program terms β χ κ Unit) (requestId : Nat) :
    Program terms β χ κ Unit :=
  nonReentrant do
    let r ← request requestId
    revertIf (r.fulfilled = true ∨ r.refunded = true ∨ context.block.timestamp ≤ r.deadline)
      .refundNotAvailable
    let store ← Tx.storage
    let amount := r.refundBps.refundShare r.feePaid
    let kept ← Tx.checked (checkedSub r.feePaid amount)
    let _ ← Tx.checked (checkedAdd 256 store.earnedFees kept)
    let _ ← Tx.checked (checkedAdd 256 (store.refundCredits r.refundAddress) amount)
    let _ ← Tx.checked (checkedAdd 256 store.totalRefundCredits amount)
    Tx.write fun store =>
      ((store.setRequest requestId fun r => { r with refunded := true }).earn kept).addRefundCredit
        r.refundAddress amount
    Tx.requireGas (refundCallbackGas + refundCallbackGas / 63 + 140000) .insufficientCallbackGas
    let success ← Tx.call reenter r.refundAddress amount (some 30000)
    if success = true then do
      let store ← Tx.storage
      let _ ← Tx.checked (checkedSub (store.refundCredits r.refundAddress) amount)
      let _ ← Tx.checked (checkedSub store.totalRefundCredits amount)
      Tx.write fun store => store.subRefundCredit r.refundAddress amount
    emit (.requestRefundedTo requestId r.refundAddress amount success)
    deliverRefund reenter requestId r.consumer refundCallbackGas

/-- `retryRefundCallback`. -/
def retryRefundCallback (requestId gasLimit : Nat) :
    Program terms β χ κ Unit :=
  nonReentrant do
    let r ← request requestId
    revertIf (r.refunded = false) .notRefunded
    let store ← Tx.storage
    revertIf (store.refundCallbackDelivered requestId = true) .refundCallbackAlreadyDelivered
    checkGasLimit gasLimit
    revertIf (gasLimit < refundCallbackGas) .invalidCallbackGas
    deliverRefund reenter requestId r.consumer gasLimit

/-! ### Withdrawals -/

/-- `withdrawRefundCredit`. -/
def withdrawRefundCredit (sender recipient : Address) :
    Program terms β χ κ Unit :=
  nonReentrant do
    revertIf (recipient = 0) .invalidRefundAddress
    let store ← Tx.storage
    let amount := store.refundCredits sender
    revertIf (amount = 0) .noRefundCredit
    let _ ← Tx.checked (checkedSub store.totalRefundCredits amount)
    Tx.write fun store => store.subRefundCredit sender amount
    let success ← Tx.call reenter recipient amount none
    revertIf (success = false) .transferFailed
    emit (.refundCreditWithdrawn sender recipient amount)

/-- `withdrawFees`. -/
def withdrawFees (sender recipient : Address) :
    Program terms β χ κ Unit :=
  nonReentrant do
    let store ← Tx.storage
    revertIf (sender ≠ store.feeRecipient) .onlyFeeRecipient
    revertIf (recipient = 0) .invalidConfig
    let amount := store.earnedFees
    Tx.write fun store => { store with earnedFees := 0 }
    let success ← Tx.call reenter recipient amount none
    revertIf (success = false) .transferFailed
    emit (.feesWithdrawn recipient amount)

/-- `withdrawKeeperCredit`. -/
def withdrawKeeperCredit (sender recipient : Address) :
    Program terms β χ κ Unit :=
  nonReentrant do
    revertIf (recipient = 0) .invalidConfig
    let store ← Tx.storage
    let amount := store.keeperCredits sender
    revertIf (amount = 0) .noKeeperCredit
    let _ ← Tx.checked (checkedSub store.totalKeeperCredits amount)
    Tx.write fun store => store.subKeeperCredit sender amount
    let success ← Tx.call reenter recipient amount none
    revertIf (success = false) .transferFailed
    emit (.keeperCreditWithdrawn sender recipient amount)

/-! ### Owner setters and ownership -/

/-- `setFeeRecipient`. -/
def setFeeRecipient (sender next : Address) : Program terms β χ κ Unit :=
  onlyOwner sender do
    revertIf (next = 0) .invalidConfig
    let store ← Tx.storage
    emit (.feeRecipientChanged store.feeRecipient next)
    Tx.write fun store => { store with feeRecipient := next }

/-- `setKeeperFeeBps`. -/
def setKeeperFeeBps (next : Nat) : Program terms β χ κ Unit :=
  onlyOwner sender do
    match BasisPoints.of? next with
    | none => Tx.revert .invalidConfig
    | some bps => do
      let store ← Tx.storage
      emit (.keeperFeeBpsChanged store.keeperFeeBps.value next)
      Tx.write fun store => { store with keeperFeeBps := bps }

/-- `setPricing`. -/
def setPricing (nextMinFee multiplier overhead : Nat) :
    Program terms β χ κ Unit :=
  onlyOwner sender do
    match Pricing.of? terms nextMinFee multiplier overhead with
    | none => Tx.revert .invalidConfig
    | some pricing => do
      revertIf (nextMinFee = 0 ∧ multiplier = 0) .invalidConfig
      Tx.write fun store => { store with pricing := pricing }
      emit (.pricingChanged nextMinFee multiplier overhead)

/-- `setRefundBps`. -/
def setRefundBps (next : Nat) : Program terms β χ κ Unit :=
  onlyOwner sender do
    revertIf (next < minRefundBps) .invalidConfig
    match BasisPoints.of? next with
    | none => Tx.revert .invalidConfig
    | some bps => do
      let store ← Tx.storage
      emit (.refundBpsChanged store.refundBps.value next)
      Tx.write fun store => { store with refundBps := bps }

/-- `transferOwnership` of the two-step ownership. -/
def transferOwnership (sender next : Address) : Program terms β χ κ Unit :=
  onlyOwner sender do
    let store ← Tx.storage
    Tx.write fun store => { store with pendingOwner := next }
    emit (.ownershipTransferStarted store.owner next)

/-- `acceptOwnership` of the two-step ownership. -/
def acceptOwnership : Program terms β χ κ Unit := do
  let store ← Tx.storage
  revertIf (sender ≠ store.pendingOwner) .ownableUnauthorizedAccount
  Tx.write fun store => { store with pendingOwner := 0, owner := sender }
  emit (.ownershipTransferred store.owner sender)

/-- `renounceOwnership`, which never succeeds. -/
def renounceOwnership : Program terms β χ κ Unit :=
  onlyOwner sender (Tx.revert .renounceDisabled)

end Functions

/-! ### Calls -/

/-- The external functions that both coordinators have in the same words. -/
inductive SharedCall where
  | retryCallback (requestId gasLimit : Nat)
  | refundRequest (requestId : Nat)
  | retryRefundCallback (requestId gasLimit : Nat)
  | withdrawRefundCredit (recipient : Address)
  | withdrawFees (recipient : Address)
  | withdrawKeeperCredit (recipient : Address)
  | setFeeRecipient (next : Address)
  | setKeeperFeeBps (next : Nat)
  | setPricing (nextMinFee multiplier overhead : Nat)
  | setRefundBps (next : Nat)
  | transferOwnership (next : Address)
  | acceptOwnership
  | renounceOwnership

/-- Run a shared function for a sender. -/
def SharedCall.run {terms : Terms} {β χ κ : Type} (context : Context)
    (reenter : κ → Program terms β χ κ Unit) (sender : Address) :
    SharedCall → Program terms β χ κ Unit
  | .retryCallback requestId gasLimit => D20.retryCallback reenter requestId gasLimit
  | .refundRequest requestId => D20.refundRequest context reenter requestId
  | .retryRefundCallback requestId gasLimit => D20.retryRefundCallback reenter requestId gasLimit
  | .withdrawRefundCredit recipient => D20.withdrawRefundCredit reenter sender recipient
  | .withdrawFees recipient => D20.withdrawFees reenter sender recipient
  | .withdrawKeeperCredit recipient => D20.withdrawKeeperCredit reenter sender recipient
  | .setFeeRecipient next => D20.setFeeRecipient sender next
  | .setKeeperFeeBps next => D20.setKeeperFeeBps sender next
  | .setPricing nextMinFee multiplier overhead =>
    D20.setPricing sender nextMinFee multiplier overhead
  | .setRefundBps next => D20.setRefundBps sender next
  | .transferOwnership next => D20.transferOwnership sender next
  | .acceptOwnership => D20.acceptOwnership sender
  | .renounceOwnership => D20.renounceOwnership sender

end D20
