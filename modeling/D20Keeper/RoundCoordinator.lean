/-
This file models `D20VRFCoordinatorRobinhood`, whose requests are bound to a
round of a public beacon: creating a request, single and batch fulfillment, the
owner's operations on beacons and keepers, initialization and the proof views.
The functions it shares with the epoch coordinator are in `Coordinator`.
-/

import D20Keeper.BeaconBook
import D20Keeper.Coordinator

namespace D20

open Evm
open Tx (revertIf emit)

/-! ### Storage -/

/-- The round a request is bound to. -/
structure RoundBinding where
  beaconId : Nat
  round : Nat
deriving DecidableEq, Inhabited

/-- The storage of the round coordinator beyond the shared one. -/
structure RoundExtension where
  keeper : Address
  backupKeepers : Address → Bool
  backupKeeperCount : Nat
  book : BeaconBook

/-- The constants of the round coordinator: `MAX_MIN_FEE` is 0.01 ether and a deadline is five
bytes. -/
def roundTerms : Terms := ⟨10 ^ 16, 40, by norm_num⟩

/-- The storage of the round coordinator. -/
abbrev RoundStore := Coordinator roundTerms RoundBinding RoundExtension

/-- `RoundSignature`: a round's signature carried by a batch. -/
structure RoundSignature where
  beaconId : Nat
  round : Nat
  signature : Bytes

/-- `InitParams`. -/
structure InitParams where
  publicKey : Nat × Nat
  owner : Address
  feeRecipient : Address
  keeper : Address
  keeperBps : Nat
  minFee : Nat
  feeMultiplier : Nat
  fulfillGasOverhead : Nat

/-- The external functions of the round coordinator. -/
inductive RoundCall where
  | requestRandomness (clientSeed : Bytes32) (callbackGasLimit : Nat) (refundAddress : Address)
  | requestMappedRandomness (clientSeed : Bytes32) (callbackGasLimit : Nat)
      (refundAddress : Address) (spec : RandomnessMapping.Spec)
  | fulfillRandomness (requestId : Nat) (proof : Proof) (roundSignature : Bytes)
  | fulfillRandomnessBatch (rounds : List RoundSignature) (ids : List Nat) (proofs : List Proof)
  | registerBeacon (beacon : BeaconRegistration)
  | scheduleBeacon (beaconId fromTime : Nat)
  | cancelBeaconSchedule
  | setKeeper (next : Address)
  | setBackupKeeper (account : Address) (allowed : Bool)
  | shared (call : SharedCall)

/-- A message to the round coordinator. -/
structure RoundMessage where
  msg : Msg
  call : RoundCall

/-- A program of the round coordinator. -/
abbrev RoundProgram (α : Type) := Program roundTerms RoundBinding RoundExtension RoundMessage α

/-- The context of the round coordinator, with the address of the proof verifier that its
implementation fixes. -/
structure RoundContext extends Context where
  proofVerifier : Address

namespace RoundCoordinator

def maxBackupKeepers : Nat := 4

/-- Store the book. -/
def withBook (store : RoundStore) (book : BeaconBook) : RoundStore :=
  { store with ext := { store.ext with book := book } }

/-! ### Requests -/

/-- `ArbitrumBlocks.number`: the chain's own block number, which a precompile is asked for. -/
def blockNumber (context : RoundContext) : RoundProgram Nat := do
  let reply ← Tx.staticCall ⟨0x64⟩ none
  revertIf (reply.1 = false) .externalCall
  return context.block.number

/-- `_createRequest`: the request binds the beacon in force and its round for this block. -/
def createRequest (context : RoundContext) (msg : Msg) (clientSeed : Bytes32)
    (callbackGasLimit : Nat) (refundAddress : Address) (spec : RandomnessMapping.Spec) :
    RoundProgram Unit := do
  let fee ← checkRequest context.toContext msg callbackGasLimit refundAddress spec
  let number ← blockNumber context
  let store ← Tx.storage
  let assigned ← Tx.checked (store.ext.book.assignRound context.block)
  let stored := if spec.operation = .raw then none else some spec
  let requestId ← D20.createRequest context.toContext msg clientSeed callbackGasLimit refundAddress
    spec stored fee (number % 2 ^ 64) fun _ => ⟨assigned.1, assigned.2⟩
  emit (.roundAssigned requestId assigned.1 assigned.2)

/-! ### Seeds and transcripts -/

/-- `_seed`. -/
def seed (context : Context) (store : RoundStore) (requestId : Nat) (roundRand : Bytes32) :
    Nat :=
  let r := store.requests requestId
  (context.platform.hash [.bytes32 (context.platform.domain "D20_VRF_ROUND_SEED"),
    .uint context.platform.chainId, .address context.self, .bytes32 store.keyHash, .uint requestId,
    .address r.consumer, .bytes32 r.clientSeed, .bytes32 r.mappingHash, .uint r.requestBlock,
    .uint r.binding.beaconId, .uint r.binding.round, .bytes32 roundRand]).toNat

/-- `_transcriptHash` of a request with this result. -/
def transcriptHash (context : Context) (store : RoundStore) (requestId : Nat)
    (roundRand proofHash randomness : Bytes32) : Bytes32 :=
  let r := store.requests requestId
  context.platform.hash [.bytes32 (context.platform.domain "D20_VRF_ROUND_TRANSCRIPT"),
    .uint context.platform.chainId, .address context.self, .uint requestId,
    .bytes32 store.protocolConfigurationHash, .uint r.binding.beaconId, .uint r.binding.round,
    .bytes32 roundRand, .bytes32 proofHash, .bytes32 randomness, .bytes32 r.mappingHash]

/-- `_verifyProof`: the proof verifier is asked for the output of the proof. -/
def verifyProof (context : RoundContext) (proof : Proof) (seed : Nat) : RoundProgram Bytes32 := do
  checkProof proof seed
  let reply ← Tx.staticCall context.proofVerifier none
  revertIf (reply.1 = false) .externalCall
  match context.platform.randomValue proof seed with
  | none => Tx.revert .invalidProof
  | some value => return BitVec.ofNat 256 value

/-! ### Fulfillment -/

/-- `_verifyRound` on the stored book. -/
def verifyRound (context : RoundContext) (beaconId round : Nat) (signature : Bytes) :
    RoundProgram Bytes32 := do
  let store ← Tx.storage
  let verified ← store.ext.book.verifyRound context.platform beaconId round signature
  Tx.write fun store => withBook store verified.1
  return verified.2

/-- `_memberGas`. -/
def memberGas (limit : Nat) : Nat := limit + limit / 63 + batchMemberOverhead

/-- The wallet paid the keeper share of a request that a sender serves. -/
def paidKeeper (ext : RoundExtension) (sender : Address) : Address :=
  if sender ≠ ext.keeper ∧ ext.backupKeepers sender = true then sender else ext.keeper

/-- `_fulfill`. -/
def fulfill (context : RoundContext) (reenter : RoundMessage → RoundProgram Unit)
    (sender : Address) (requestId : Nat) (proof : Proof) (roundRand : Bytes32) :
    RoundProgram Unit := do
  let store ← Tx.storage
  let randomness ← verifyProof context proof (seed context.toContext store requestId roundRand)
  let proofHash := context.platform.keccak256 proof.encode
  let transcript := transcriptHash context.toContext store requestId roundRand proofHash
    randomness
  Tx.write fun store => store.setRequest requestId fun r =>
    r.withResult randomness proofHash transcript
  let store ← Tx.storage
  settle reenter sender (paidKeeper store.ext sender) requestId proof

/-- The round randomness of a single fulfillment: cached, or verified now from the signature,
with gas left for the check and the whole callback. -/
def singleRound (context : RoundContext) (r : StoredRequest RoundBinding) (signature : Bytes) :
    RoundProgram Bytes32 := do
  let store ← Tx.storage
  let cached := store.ext.book.cachedRound r.binding.beaconId r.binding.round
  if cached = 0 then do
    Tx.requireGas (memberGas r.callbackGasLimit + callbackReserve + BeaconBook.roundVerifyGasNeeded)
      .insufficientCallbackGas
    verifyRound context r.binding.beaconId r.binding.round signature
  else pure cached

/-- `fulfillRandomness`. -/
def fulfillRandomness (context : RoundContext) (reenter : RoundMessage → RoundProgram Unit)
    (sender : Address) (requestId : Nat) (proof : Proof) (roundSignature : Bytes) :
    RoundProgram Unit :=
  nonReentrant do
    let r ← request requestId
    revertIf (r.fulfilled = true) .alreadyFulfilled
    revertIf (r.refunded = true) .requestRefunded
    revertIf (r.deadline < context.block.timestamp) .requestExpired
    let roundRand ← singleRound context r roundSignature
    fulfill context reenter sender requestId proof roundRand

/-- `_listed`: the index of a round in a batch's list. -/
def listed (rounds : List RoundSignature) (beaconId round : Nat) : Option Nat :=
  rounds.findIdx? fun entry => entry.beaconId = beaconId ∧ entry.round = round

/-- The loop of `_batchGas` over the members left: `need` is the gas counted so far and
`budgeted` the indices of the listed rounds whose verification is counted. -/
def batchGasLoop (block : Block) (store : RoundStore) (rounds : List RoundSignature) :
    List Nat → Nat → List Nat → Except (Fault Error) Nat
  | [], need, _ => .ok need
  | requestId :: rest, need, budgeted =>
    let r := store.requests requestId
    if r.consumer = 0 then .error (.revert .unknownRequest)
    else if r.fulfilled = true ∨ r.refunded = true ∨ r.deadline < block.timestamp then
      batchGasLoop block store rounds rest need budgeted
    else if store.ext.book.cachedRound r.binding.beaconId r.binding.round = 0 then
      match listed rounds r.binding.beaconId r.binding.round with
      | none => .error (.revert .roundUnavailable)
      | some index =>
        if index ∈ budgeted then
          batchGasLoop block store rounds rest (need + memberGas r.callbackGasLimit) budgeted
        else
          batchGasLoop block store rounds rest
            (need + memberGas r.callbackGasLimit + BeaconBook.roundVerifyGasNeeded)
            (index :: budgeted)
    else batchGasLoop block store rounds rest (need + memberGas r.callbackGasLimit) budgeted

/-- `_batchGas`: the gas a batch needs before it starts. -/
def batchGas (block : Block) (store : RoundStore) (rounds : List RoundSignature)
    (ids : List Nat) : Except (Fault Error) Nat :=
  batchGasLoop block store rounds ids callbackReserve []

/-- `_batchRound`: the round randomness of a served batch member, cached or verified now from the
round's listed signature. -/
def batchRound (context : RoundContext) (rounds : List RoundSignature)
    (r : StoredRequest RoundBinding) : RoundProgram Bytes32 := do
  let store ← Tx.storage
  let cached := store.ext.book.cachedRound r.binding.beaconId r.binding.round
  if cached = 0 then
    match (listed rounds r.binding.beaconId r.binding.round).bind (rounds[·]?) with
    | none => Tx.revert .roundUnavailable
    | some entry => verifyRound context r.binding.beaconId r.binding.round entry.signature
  else pure cached

/-- A batch member whose turn has come: skipped with its reason, or served. -/
def serveMember (context : RoundContext) (reenter : RoundMessage → RoundProgram Unit)
    (sender : Address) (rounds : List RoundSignature) (requestId : Nat) (proof : Proof) :
    RoundProgram Unit := do
  let r ← request requestId
  if skipReason context.block r ≠ 0 then
    emit (.fulfillmentSkipped requestId (skipReason context.block r))
  else do
    Tx.mark .member
    let roundRand ← batchRound context rounds r
    fulfill context reenter sender requestId proof roundRand

/-- The serving loop of `fulfillRandomnessBatch`. -/
def serveAll (context : RoundContext) (reenter : RoundMessage → RoundProgram Unit)
    (sender : Address) (rounds : List RoundSignature) : List (Nat × Proof) → RoundProgram Unit
  | [] => pure ()
  | (requestId, proof) :: rest => do
    serveMember context reenter sender rounds requestId proof
    serveAll context reenter sender rounds rest

/-- `fulfillRandomnessBatch`. -/
def fulfillRandomnessBatch (context : RoundContext) (reenter : RoundMessage → RoundProgram Unit)
    (sender : Address) (rounds : List RoundSignature) (ids : List Nat) (proofs : List Proof) :
    RoundProgram Unit :=
  nonReentrant do
    revertIf (ids.length = 0 ∨ maxFulfillBatch < ids.length ∨ ids.length ≠ proofs.length ∨
      ids.length < rounds.length) .invalidBatch
    let store ← Tx.storage
    let need ← Tx.attempt (batchGas context.block store rounds ids)
    Tx.requireGas need .insufficientCallbackGas
    serveAll context reenter sender rounds (ids.zip proofs)

/-! ### Beacons and keepers -/

/-- `registerBeacon`. -/
def registerBeacon (context : RoundContext) (sender : Address) (beacon : BeaconRegistration) :
    RoundProgram Unit :=
  onlyOwner sender do
    let store ← Tx.storage
    let registered ← store.ext.book.registerBeacon context.platform context.block beacon
    Tx.write fun store => withBook store registered.1

/-- `scheduleBeacon`. -/
def scheduleBeacon (context : RoundContext) (sender : Address) (beaconId fromTime : Nat) :
    RoundProgram Unit :=
  onlyOwner sender do
    let store ← Tx.storage
    let book ← Tx.attempt (store.ext.book.scheduleBeacon context.block beaconId fromTime)
    Tx.write fun store => withBook store book
    emit (.beaconScheduled beaconId fromTime)

/-- `cancelBeaconSchedule`. -/
def cancelBeaconSchedule (context : RoundContext) (sender : Address) : RoundProgram Unit :=
  onlyOwner sender do
    let store ← Tx.storage
    let cancelled ← Tx.attempt (store.ext.book.cancelSchedule context.block)
    Tx.write fun store => withBook store cancelled.1
    emit (.beaconScheduleCancelled cancelled.2.1 cancelled.2.2)

/-- `setKeeper`. -/
def setKeeper (sender next : Address) : RoundProgram Unit :=
  onlyOwner sender do
    revertIf (next = 0) .invalidConfig
    let store ← Tx.storage
    emit (.keeperChanged store.ext.keeper next)
    Tx.write fun store => { store with ext := { store.ext with keeper := next } }

/-- `setBackupKeeper`. -/
def setBackupKeeper (sender account : Address) (allowed : Bool) : RoundProgram Unit :=
  onlyOwner sender do
    let store ← Tx.storage
    revertIf (account = 0 ∨ (allowed = true ∧ account = store.ext.keeper) ∨
      store.ext.backupKeepers account = allowed) .invalidConfig
    revertIf (allowed = true ∧ store.ext.backupKeeperCount = maxBackupKeepers) .invalidConfig
    let count ← Tx.checked (if allowed = true then checkedAdd 256 store.ext.backupKeeperCount 1
      else checkedSub store.ext.backupKeeperCount 1)
    Tx.write fun store => { store with
      ext := { store.ext with
        backupKeeperCount := count
        backupKeepers := Function.update store.ext.backupKeepers account allowed } }
    emit (.backupKeeperSet account allowed)

/-! ### Dispatch -/

/-- Run an external function on a message. -/
def dispatch (context : RoundContext) (reenter : RoundMessage → RoundProgram Unit) (msg : Msg) :
    RoundCall → RoundProgram Unit
  | .requestRandomness clientSeed callbackGasLimit refundAddress =>
    nonReentrant (createRequest context msg clientSeed callbackGasLimit refundAddress .zero)
  | .requestMappedRandomness clientSeed callbackGasLimit refundAddress spec =>
    nonReentrant (createRequest context msg clientSeed callbackGasLimit refundAddress spec)
  | .fulfillRandomness requestId proof roundSignature => do
    revertIf (msg.value ≠ 0) .nonPayable
    fulfillRandomness context reenter msg.sender requestId proof roundSignature
  | .fulfillRandomnessBatch rounds ids proofs => do
    revertIf (msg.value ≠ 0) .nonPayable
    fulfillRandomnessBatch context reenter msg.sender rounds ids proofs
  | .registerBeacon beacon => do
    revertIf (msg.value ≠ 0) .nonPayable
    registerBeacon context msg.sender beacon
  | .scheduleBeacon beaconId fromTime => do
    revertIf (msg.value ≠ 0) .nonPayable
    scheduleBeacon context msg.sender beaconId fromTime
  | .cancelBeaconSchedule => do
    revertIf (msg.value ≠ 0) .nonPayable
    cancelBeaconSchedule context msg.sender
  | .setKeeper next => do
    revertIf (msg.value ≠ 0) .nonPayable
    setKeeper msg.sender next
  | .setBackupKeeper account allowed => do
    revertIf (msg.value ≠ 0) .nonPayable
    setBackupKeeper msg.sender account allowed
  | .shared call => do
    revertIf (msg.value ≠ 0) .nonPayable
    call.run context.toContext reenter msg.sender

/-- Run a message with at most `depth` calls nested in it. -/
def exec (context : RoundContext) : Nat → RoundMessage → RoundProgram Unit
  | 0, _ => Tx.fail .callDepth
  | depth + 1, message => do
    Tx.receive message.msg.value
    dispatch context (exec context depth) message.msg message.call

/-! ### Initialization -/

/-- `initialize`, run once by the constructor of the proxy: the storage it leaves. -/
def initializeProxy (context : RoundContext) (p : InitParams) (beacon : BeaconRegistration) :
    CoordinatorTx Unit RoundMessage RoundStore := do
  revertIf (p.owner = 0) .ownableInvalidOwner
  emit (.ownershipTransferred 0 p.owner)
  revertIf (p.feeRecipient = 0 ∨ p.keeper = 0) .invalidConfig
  match BasisPoints.of? p.keeperBps, Pricing.of? roundTerms p.minFee p.feeMultiplier
      p.fulfillGasOverhead with
  | none, _ => Tx.revert .invalidConfig
  | some _, none => do
    revertIf (context.platform.isOnCurve p.publicKey = false) .invalidPublicKey
    Tx.revert .invalidConfig
  | some keeperBps, some pricing => do
    revertIf (context.platform.isOnCurve p.publicKey = false) .invalidPublicKey
    revertIf (p.minFee = 0 ∧ p.feeMultiplier = 0) .invalidConfig
    emit (.pricingChanged p.minFee p.feeMultiplier p.fulfillGasOverhead)
    let registered ← BeaconBook.empty.registerBeacon context.platform context.block beacon
    let book ← Tx.attempt (registered.1.startWith context.block registered.2)
    emit (.beaconScheduled registered.2 (context.block.timestamp % 2 ^ 64))
    let identity ← Tx.attempt (book.beaconIdentity context.platform registered.2)
    emit (.initialized 1)
    return {
      entered := false
      owner := p.owner
      pendingOwner := 0
      protocolConfigurationHash := context.platform.hash
        [.bytes32 (context.platform.domain "D20_VRF_ROUND_CONFIG"),
          .static [p.publicKey.1, p.publicKey.2], .address p.feeRecipient, .uint p.minFee,
          .bytes32 identity]
      publicKeyX := p.publicKey.1
      publicKeyY := p.publicKey.2
      keyHash := context.platform.hash [.static [p.publicKey.1, p.publicKey.2]]
      initialFeeRecipient := p.feeRecipient
      feeRecipient := p.feeRecipient
      keeperFeeBps := keeperBps
      keeperCredits := fun _ => 0
      totalKeeperCredits := 0
      pricing := pricing
      refundBps := .whole
      nextRequestId := 1
      earnedFees := 0
      lastServedRequestId := 0
      lastServedIndex := 0
      servedRequestAt := fun _ => 0
      totalRefundCredits := 0
      refundCredits := fun _ => 0
      requests := fun _ => .blank
      mappingSpecs := fun _ => .zero
      refundCallbackDelivered := fun _ => false
      initialMinFee := p.minFee
      ext := ⟨p.keeper, fun _ => false, 0, book⟩ }

/-! ### Views -/

/-- `getProofContext`: the seed to prove, given the round's signature. -/
def getProofContext (context : RoundContext) (requestId : Nat) (roundSignature : Bytes) :
    RoundProgram (Nat × Nat × Bool × Bool) := do
  let r ← request requestId
  let store ← Tx.storage
  let roundRand ← store.ext.book.roundRandomnessView context.platform r.binding.beaconId
    r.binding.round roundSignature
  return (seed context.toContext store requestId roundRand, r.deadline, r.fulfilled, r.refunded)

end RoundCoordinator

end D20
