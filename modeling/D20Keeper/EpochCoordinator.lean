/-
This file models `D20VRFCoordinator`, whose requests are bound to an epoch of the
registry `EpochEntropy` and to the hash of a later block: creating a request,
resolving and storing its block hash, single and batch fulfillment,
initialization and the proof views. The functions it shares with the round
coordinator are in `Coordinator`.

The registry is part of the modelled state. A call from the coordinator to it is
an outgoing call that may fail for any reason; when it succeeds it does what the
registry does. The registry's own external functions can be called by anyone at
any time, also from inside a callback.
-/

import D20Keeper.Coordinator
import D20Keeper.EpochEntropy

namespace D20

open Evm
open Tx (revertIf)

/-! ### Storage -/

/-- What a request of the epoch coordinator is bound to. -/
structure EpochBinding where
  targetBlock : Nat
  blockHash : Bytes32
  epochId : Nat
  epochHash : Bytes32
deriving DecidableEq, Inhabited

/-- The storage of the epoch coordinator beyond the shared one, and the registry it reads. -/
structure EpochExtension where
  confirmationBlocks : Nat
  epochRegistry : Address
  registry : EpochEntropy

/-- The constants of the epoch coordinator: `MAX_MIN_FEE` is 10 whole tokens and a deadline is
eight bytes. -/
def epochTerms : Terms := ⟨10 ^ 19, 64, by norm_num⟩

/-- The storage of the epoch coordinator. -/
abbrev EpochStore := Coordinator epochTerms EpochBinding EpochExtension

/-- The external functions of the epoch coordinator. -/
inductive EpochCall where
  | requestRandomness (clientSeed : Bytes32) (callbackGasLimit : Nat) (refundAddress : Address)
  | requestMappedRandomness (clientSeed : Bytes32) (callbackGasLimit : Nat)
      (refundAddress : Address) (spec : RandomnessMapping.Spec)
  | storeBlockHash (requestId : Nat)
  | fulfillRandomness (requestId : Nat) (proof : Proof)
  | fulfillRandomnessBatch (ids : List Nat) (proofs : List Proof)
  | shared (call : SharedCall)

/-- A message to the epoch coordinator or to its registry. -/
inductive EpochMessage where
  | coordinator (msg : Msg) (call : EpochCall)
  | registry (sender : Address) (call : EpochEntropy.Call)

/-- A program of the epoch coordinator. -/
abbrev EpochProgram (α : Type) := Program epochTerms EpochBinding EpochExtension EpochMessage α

namespace EpochCoordinator

/-- Store the registry. -/
def withRegistry (store : EpochStore) (registry : EpochEntropy) : EpochStore :=
  { store with ext := { store.ext with registry := registry } }

/-- A call to a function of the registry that writes nothing: the registry that answers it. -/
def askRegistry : EpochProgram EpochEntropy := do
  let store ← Tx.storage
  let reply ← Tx.staticCall store.ext.epochRegistry none
  revertIf (reply.1 = false) .externalCall
  return store.ext.registry

/-- What a call to the registry leaves; its failure fails the caller. -/
def fromRegistry {α : Type} (result : Attempt α) : EpochProgram α :=
  match result with
  | .ok value => pure value
  | .error _ => Tx.revert .externalCall

/-! ### Requests -/

/-- `_target`. -/
def target (requestBlock committedBlock : Nat) : Except Panic Nat := do
  let future ← checkedAdd 64 committedBlock 1
  return if future < requestBlock then requestBlock else future

/-- The call to `checkpointEpoch` that creating a request makes. -/
def checkpointRegistry (context : Context) (epochId : Nat) : EpochProgram Unit := do
  let store ← Tx.storage
  let reply ← Tx.staticCall store.ext.epochRegistry none
  revertIf (reply.1 = false) .externalCall
  let checkpoint ← fromRegistry (store.ext.registry.checkpointEpoch
    ⟨context.platform, store.ext.epochRegistry, context.block, reply.2, true⟩ epochId)
  Tx.write fun store => withRegistry store checkpoint.1

/-- `_createRequest`: the request binds the epoch of this block, and its target when the epoch is
published already. -/
def createRequest (context : Context) (msg : Msg) (clientSeed : Bytes32) (callbackGasLimit : Nat)
    (refundAddress : Address) (spec : RandomnessMapping.Spec) : EpochProgram Unit := do
  let fee ← checkRequest context msg callbackGasLimit refundAddress spec
  let registry ← askRegistry
  let epochId := registry.epochForBlock context.block.number
  let registry ← askRegistry
  let epoch := registry.getEpoch epochId
  revertIf (epochId = 0) .epochUnavailable
  checkpointRegistry context epochId
  let requestBlock := context.block.number % 2 ^ 64
  let targetBlock ← Tx.checked (if epoch.epochHash = 0 then .ok 0
    else target requestBlock epoch.committedBlock)
  let _ ← D20.createRequest context msg clientSeed callbackGasLimit refundAddress spec (some spec)
    fee requestBlock fun fresh => { fresh with
      epochId := epochId
      epochHash := epoch.epochHash
      targetBlock := targetBlock }

/-! ### Block hashes and seeds -/

/-- `_resolvedEpoch`: the stored target and epoch hash of a request, or those its epoch's record
gives now. -/
def resolvedEpoch (r : StoredRequest EpochBinding) : EpochProgram (Nat × Bytes32) :=
  if r.binding.epochHash ≠ 0 then pure (r.binding.targetBlock, r.binding.epochHash)
  else do
    let registry ← askRegistry
    let epoch := registry.getEpoch r.binding.epochId
    if epoch.epochHash = 0 then pure (0, 0)
    else do
      let targetBlock ← Tx.checked (target r.requestBlock epoch.committedBlock)
      return (targetBlock, epoch.epochHash)

/-- `_resolvedBlockHash`. -/
def resolvedBlockHash (context : Context) (r : StoredRequest EpochBinding) :
    EpochProgram Bytes32 := do
  let resolved ← resolvedEpoch r
  let store ← Tx.storage
  revertIf (resolved.2 = 0 ∨
    context.block.number < resolved.1 + store.ext.confirmationBlocks) .notReady
  let value := if r.binding.blockHash = 0 then
    blockhash context.platform.canonical context.block resolved.1 else r.binding.blockHash
  revertIf (value = 0) .blockHashUnavailable
  return value

/-- `_storeBlockHash`. -/
def storeBlockHash (context : Context) (requestId : Nat) : EpochProgram Bytes32 := do
  let store ← Tx.storage
  let r := store.requests requestId
  let value ← resolvedBlockHash context r
  let resolved ← resolvedEpoch r
  Tx.write fun store => store.setRequest requestId fun r =>
    { r with binding := { r.binding with targetBlock := resolved.1, epochHash := resolved.2 } }
  if r.binding.blockHash = 0 then do
    Tx.write fun store => store.setRequest requestId fun r =>
      { r with binding := { r.binding with blockHash := value } }
    Tx.emit (.blockHashStored requestId resolved.1 value)
  return value

/-- The words that `_seed` hashes. -/
def seedOf (context : Context) (store : EpochStore) (requestId : Nat) (resolved : Nat × Bytes32)
    (blockHash : Bytes32) : Nat :=
  let r := store.requests requestId
  (context.platform.hash [.bytes32 (context.platform.domain "D20_VRF_SEED"),
    .uint context.platform.chainId, .address context.self, .bytes32 store.keyHash, .uint requestId,
    .address r.consumer, .bytes32 r.clientSeed, .bytes32 r.mappingHash, .uint r.requestBlock,
    .uint resolved.1, .bytes32 blockHash, .uint r.binding.epochId, .bytes32 resolved.2]).toNat

/-- `_seed`. -/
def seed (context : Context) (requestId : Nat) (blockHash : Bytes32) : EpochProgram Nat := do
  let store ← Tx.storage
  let resolved ← resolvedEpoch (store.requests requestId)
  return seedOf context store requestId resolved blockHash

/-- `_transcriptHash` of a request with this result. -/
def transcriptHash (context : Context) (store : EpochStore) (requestId : Nat)
    (anchor proofHash randomness : Bytes32) : Bytes32 :=
  let r := store.requests requestId
  context.platform.hash [.bytes32 (context.platform.domain "D20_VRF_TRANSCRIPT"),
    .uint context.platform.chainId, .address context.self, .uint requestId,
    .bytes32 store.protocolConfigurationHash, .bytes32 anchor, .bytes32 proofHash,
    .bytes32 randomness, .bytes32 r.mappingHash, .uint r.binding.epochId,
    .bytes32 r.binding.epochHash]

/-- `_verifyProof`. -/
def verifyProof (context : Context) (proof : Proof) (seed : Nat) : EpochProgram Bytes32 := do
  checkProof proof seed
  match context.platform.randomValue proof seed with
  | none => Tx.revert .invalidProof
  | some value => return BitVec.ofNat 256 value

/-! ### Fulfillment -/

/-- The wallet paid the keeper share of a request that a sender serves: the sender when the
registry authorizes it, and otherwise, also when that question fails, the committer. -/
def paidKeeper (sender : Address) : EpochProgram Address := do
  let registry ← askRegistry
  let keeper := registry.committer
  if sender ≠ keeper then do
    let store ← Tx.storage
    let reply ← Tx.staticCall store.ext.epochRegistry none
    if reply.1 = true ∧ store.ext.registry.isAuthorizedCommitter sender = true then pure sender
    else pure keeper
  else pure keeper

/-- `_fulfill`. -/
def fulfill (context : Context) (reenter : EpochMessage → EpochProgram Unit) (sender : Address)
    (requestId : Nat) (proof : Proof) : EpochProgram Unit := do
  let anchor ← storeBlockHash context requestId
  let seed ← seed context requestId anchor
  let randomness ← verifyProof context proof seed
  let store ← Tx.storage
  let proofHash := context.platform.keccak256 proof.encode
  let transcript := transcriptHash context store requestId anchor proofHash randomness
  Tx.write fun store => store.setRequest requestId fun r =>
    r.withResult randomness proofHash transcript
  let keeper ← paidKeeper sender
  settle reenter sender keeper requestId proof

/-- `fulfillRandomness`. -/
def fulfillRandomness (context : Context) (reenter : EpochMessage → EpochProgram Unit)
    (sender : Address) (requestId : Nat) (proof : Proof) : EpochProgram Unit :=
  nonReentrant do
    let r ← request requestId
    revertIf (r.fulfilled = true) .alreadyFulfilled
    revertIf (r.refunded = true) .requestRefunded
    revertIf (r.deadline < context.block.timestamp) .requestExpired
    fulfill context reenter sender requestId proof

/-- The first loop of `fulfillRandomnessBatch`: the gas the members left need. -/
def batchGasLoop (block : Block) (store : EpochStore) : List Nat → Nat → Except (Fault Error) Nat
  | [], need => .ok need
  | requestId :: rest, need =>
    let r := store.requests requestId
    if r.consumer = 0 then .error (.revert .unknownRequest)
    else if r.fulfilled = true ∨ r.refunded = true ∨ r.deadline < block.timestamp then
      batchGasLoop block store rest need
    else
      batchGasLoop block store rest
        (need + (r.callbackGasLimit + r.callbackGasLimit / 63 + batchMemberOverhead))

/-- A batch member whose turn has come: skipped with its reason, or served. -/
def serveMember (context : Context) (reenter : EpochMessage → EpochProgram Unit)
    (sender : Address) (requestId : Nat) (proof : Proof) : EpochProgram Unit := do
  let r ← request requestId
  if skipReason context.block r ≠ 0 then
    Tx.emit (.fulfillmentSkipped requestId (skipReason context.block r))
  else do
    Tx.mark .member
    fulfill context reenter sender requestId proof

/-- The serving loop of `fulfillRandomnessBatch`. -/
def serveAll (context : Context) (reenter : EpochMessage → EpochProgram Unit) (sender : Address) :
    List (Nat × Proof) → EpochProgram Unit
  | [] => pure ()
  | (requestId, proof) :: rest => do
    serveMember context reenter sender requestId proof
    serveAll context reenter sender rest

/-- `fulfillRandomnessBatch`. -/
def fulfillRandomnessBatch (context : Context) (reenter : EpochMessage → EpochProgram Unit)
    (sender : Address) (ids : List Nat) (proofs : List Proof) : EpochProgram Unit :=
  nonReentrant do
    revertIf (ids.length = 0 ∨ maxFulfillBatch < ids.length ∨ ids.length ≠ proofs.length)
      .invalidBatch
    let store ← Tx.storage
    let need ← Tx.attempt (batchGasLoop context.block store ids callbackReserve)
    Tx.requireGas need .insufficientCallbackGas
    serveAll context reenter sender (ids.zip proofs)

/-! ### Dispatch -/

/-- Run an external function of the coordinator on a message. -/
def dispatch (context : Context) (reenter : EpochMessage → EpochProgram Unit) (msg : Msg) :
    EpochCall → EpochProgram Unit
  | .requestRandomness clientSeed callbackGasLimit refundAddress =>
    nonReentrant (createRequest context msg clientSeed callbackGasLimit refundAddress .zero)
  | .requestMappedRandomness clientSeed callbackGasLimit refundAddress spec =>
    nonReentrant (createRequest context msg clientSeed callbackGasLimit refundAddress spec)
  | .storeBlockHash requestId => do
    revertIf (msg.value ≠ 0) .nonPayable
    nonReentrant do
      let _ ← request requestId
      let _ ← storeBlockHash context requestId
  | .fulfillRandomness requestId proof => do
    revertIf (msg.value ≠ 0) .nonPayable
    fulfillRandomness context reenter msg.sender requestId proof
  | .fulfillRandomnessBatch ids proofs => do
    revertIf (msg.value ≠ 0) .nonPayable
    fulfillRandomnessBatch context reenter msg.sender ids proofs
  | .shared call => do
    revertIf (msg.value ≠ 0) .nonPayable
    call.run context reenter msg.sender

/-- Run a function of the registry on the stored registry. A call without the gas for its
questions fails, and has no effect either way. -/
def runRegistry (context : Context) (sender : Address) (call : EpochEntropy.Call) :
    EpochProgram Unit := do
  let store ← Tx.storage
  let views ← Tx.observe fun views => views
  let done ← fromRegistry (EpochEntropy.run
    ⟨context.platform, store.ext.epochRegistry, context.block, views, true⟩ sender
    store.ext.registry call)
  Tx.write fun store => withRegistry store done.1

/-- Run a message with at most `depth` calls nested in it. -/
def exec (context : Context) : Nat → EpochMessage → EpochProgram Unit
  | 0, _ => Tx.fail .callDepth
  | depth + 1, .coordinator msg call => do
    Tx.receive msg.value
    dispatch context (exec context depth) msg call
  | _ + 1, .registry sender call => runRegistry context sender call

/-! ### Initialization -/

/-- `initialize`, run once by the constructor of the proxy, against a registry: the storage it
leaves. -/
def initializeProxy (context : Context) (registry : EpochEntropy) (registryAddress : Address)
    (publicKey : Nat × Nat) (initialOwner recipient : Address) (fee confirmations keeperBps : Nat) :
    CoordinatorTx Unit EpochMessage EpochStore := do
  revertIf (initialOwner = 0) .ownableInvalidOwner
  Tx.emit (.ownershipTransferred 0 initialOwner)
  revertIf (recipient = 0 ∨ confirmations = 0 ∨ 64 < confirmations) .invalidConfig
  match BasisPoints.of? keeperBps, Pricing.of? epochTerms fee 5 300000 with
  | some keeperFeeBps, some pricing => do
    let coded ← Tx.observe fun views => views.hasCode registryAddress
    revertIf (coded = false) .invalidConfig
    revertIf (context.platform.isOnCurve publicKey = false) .invalidPublicKey
    let catalogReply ← Tx.staticCall registryAddress none
    revertIf (catalogReply.1 = false) .externalCall
    let startReply ← Tx.staticCall registryAddress none
    revertIf (startReply.1 = false) .externalCall
    Tx.emit (.initialized 1)
    return {
      entered := false
      owner := initialOwner
      pendingOwner := 0
      protocolConfigurationHash := context.platform.hash
        [.bytes32 (context.platform.domain "D20_VRF_CONFIG"),
          .static [publicKey.1, publicKey.2], .address recipient, .uint fee, .uint confirmations,
          .address registryAddress, .bytes32 registry.catalogHash, .uint registry.firstEpochStart,
          .uint 200]
      publicKeyX := publicKey.1
      publicKeyY := publicKey.2
      keyHash := context.platform.hash [.static [publicKey.1, publicKey.2]]
      initialFeeRecipient := recipient
      feeRecipient := recipient
      keeperFeeBps := keeperFeeBps
      keeperCredits := fun _ => 0
      totalKeeperCredits := 0
      pricing := pricing
      refundBps := .whole
      nextRequestId := 1
      earnedFees := 0
      lastServedRequestId := 0
      lastServedIndex := 0
      servedRequestAt := fun _ => 0
      totalRefundCredits := 0
      refundCredits := fun _ => 0
      requests := fun _ => .blank
      mappingSpecs := fun _ => .zero
      refundCallbackDelivered := fun _ => false
      initialMinFee := fee
      ext := ⟨confirmations, registryAddress, registry⟩ }
  | _, _ => Tx.revert .invalidConfig

/-! ### Views -/

/-- `requestSeed`: the seed that the keeper must prove. -/
def requestSeed (context : Context) (requestId : Nat) : EpochProgram Nat := do
  let r ← request requestId
  let anchor ← resolvedBlockHash context r
  seed context requestId anchor

end EpochCoordinator

end D20
