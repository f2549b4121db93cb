/-
This file models `EpochEntropy`, the registry that the epoch coordinator reads:
recipes and beacons, catalogs scheduled ahead, anchors, and the one commitment of
each 200-block epoch.

The registry calls out only to beacon verifiers, by static calls. Its functions
are therefore functions of the registry, the block and what the verifiers answer,
and return the registry to store with the events of the call.
-/

import D20Keeper.DataTemplate
import D20Keeper.Interface

namespace D20

open Evm
open DataTemplate (literal decimalSegment integerSegment)

def EpochEntropy.maxSources : Nat := 10

/-! ### Storage -/

/-- `EpochEntropy.Attestation`. -/
structure Attestation where
  timestamp : Nat
  data : Bytes
  signature : Bytes

/-- `EpochEntropy.Epoch`, the record of a committed epoch. -/
structure Epoch where
  epochHash : Bytes32
  catalogHash : Bytes32
  anchorHash : Bytes32
  source : Nat
  queryHash : Bytes32
  dataHash : Bytes32
  attestationHash : Bytes32
  signedAt : Nat
  committedBlock : Nat
deriving DecidableEq

/-- The record of an epoch that is not committed. -/
def Epoch.blank : Epoch := ⟨0, 0, 0, 0, 0, 0, 0, 0, 0⟩

/-- `EpochEntropy.Catalog`: one to ten recipes, with one signer each. -/
structure Catalog where
  fromEpoch : Nat
  hash : Bytes32
  recipes : List Nat
  signers : List Address
  recipes_pos : 0 < recipes.length
  recipes_le : recipes.length ≤ EpochEntropy.maxSources
  signers_length : signers.length = recipes.length

/-- `EpochEntropy.Recipe`, with its texts as bytes. -/
structure Recipe where
  canonicalRequest : Bytes
  template : Bytes
  body : Bytes

/-- `EpochEntropy.Beacon`; a zero verifier marks a signed recipe. -/
structure EpochBeacon where
  verifier : Address
  genesis : Nat
  period : Nat
  chainHash : Bytes32
  publicKey : Bytes

/-- `EpochEntropy.Selection`. -/
structure Selection where
  source : Nat
  recipe : Nat
  airnode : Address
  selector : Bytes32
  queryHash : Bytes32
  canonicalRequest : Bytes

/-- The storage of the registry. -/
structure EpochEntropy where
  owner : Address
  pendingOwner : Address
  hyperliquidSigner : Address
  ethereumBlockSigner : Address
  btcTradeSigner : Address
  ethTradeSigner : Address
  committer : Address
  firstEpochStart : Nat
  catalogHash : Bytes32
  epochs : Nat → Epoch
  epochAnchors : Nat → Bytes32
  catalogs : List Catalog
  registeredRecipes : List Recipe
  backupCommitters : Address → Bool
  backupCommitterCount : Nat
  beacons : Nat → EpochBeacon

/-- The events of the registry. -/
inductive EpochEvent where
  | epochCommitted (epochId : Nat) (epochHash : Bytes32) (packet : Bytes)
  | committerChanged (previousCommitter newCommitter : Address)
  | catalogScheduled (fromEpoch : Nat) (catalogHash : Bytes32) (recipes : List Nat)
      (signers : List Address)
  | recipeRegistered (recipe : Nat) (queryHash : Bytes32) (canonicalRequest template body : Bytes)
  | backupCommitterSet (account : Address) (allowed : Bool)
  | beaconRegistered (recipe : Nat) (verifier : Address) (chainHash : Bytes32) (publicKey : Bytes)
      (genesis period : Nat)
  | ownershipTransferStarted (previousOwner newOwner : Address)
  | ownershipTransferred (previousOwner newOwner : Address)

/-- What a call to the registry reads: the platform, the registry's address, the block, what the
verifiers answer, and whether the gas of the call covers the questions it asks. -/
structure RegistryContext where
  platform : Platform
  self : Address
  block : Block
  views : Views
  enoughGas : Bool

/-- A function of the registry: it fails, or returns a value. -/
abbrev Attempt (α : Type) := Except (Fault Error) α

/-- Fail with an error when a condition holds. -/
def refuseIf (condition : Prop) [Decidable condition] (error : Error) : Attempt Unit :=
  if condition then .error (.revert error) else .ok ()

/-- Checked arithmetic in a function of the registry. -/
def arithmetic {α : Type} (value : Except Panic α) : Attempt α := value.mapError .panic

theorem refuseIf_eq_ok {condition : Prop} [Decidable condition] {error : Error} {done : Unit}
    (passed : refuseIf condition error = .ok done) : ¬ condition := by
  intro met
  unfold refuseIf at passed
  rw [if_pos met] at passed
  cases passed

theorem arithmetic_ok {α : Type} (value : α) : arithmetic (.ok value) = .ok value := rfl

theorem arithmetic_eq_ok {α : Type} {value : Except Panic α} {result : α}
    (passed : arithmetic value = .ok result) : value = .ok result := by
  cases value with
  | ok => exact congrArg Except.ok (Except.ok.inj passed)
  | error => cases passed

namespace EpochEntropy

def epochLength : Nat := 200

def maxAttestationAge : Nat := 240

def maxPacketBytes : Nat := 2048

def fallbackDelayBlocks : Nat := 20

def maxRecipes : Nat := 256

def maxRequestBytes : Nat := 1024

def maxBodyBytes : Nat := 2048

def maxBackupCommitters : Nat := 4

/-! ### Epochs and catalogs -/

variable (registry : EpochEntropy)

variable (epochId : Nat)

/-- `epochStart`. -/
def epochStart : Attempt Nat := do
  refuseIf (epochId = 0) .invalidEpoch
  let before ← arithmetic (checkedMul 64 (epochId - 1) epochLength)
  arithmetic (checkedAdd 64 registry.firstEpochStart before)

/-- `epochForBlock`. -/
def epochForBlock (number : Nat) : Nat :=
  if number < registry.firstEpochStart then 0
  else (1 + (number - registry.firstEpochStart) / epochLength) % 2 ^ 64

/-- `_versionAt`: the newest scheduled catalog that is in force for an epoch. -/
def versionAt : Option Catalog :=
  registry.catalogs.reverse.find? fun catalog => decide (catalog.fromEpoch ≤ epochId)

/-- `catalogAt`: the hash, the recipes and the signers of the catalog of an epoch. -/
def catalogAt : Bytes32 × List Nat × List Address :=
  match registry.versionAt epochId with
  | some catalog => (catalog.hash, catalog.recipes, catalog.signers)
  | none => (registry.catalogHash, [0, 1, 2, 3], [registry.hyperliquidSigner,
      registry.ethereumBlockSigner, registry.btcTradeSigner, registry.ethTradeSigner])

/-- `sourceCountAt`. -/
def sourceCountAt : Nat :=
  match registry.versionAt epochId with
  | some catalog => catalog.recipes.length
  | none => 4

variable (platform : Platform)

/-- `slotSigner`: the signer a catalog lists for a beacon recipe. -/
def slotSigner (registry : EpochEntropy) (recipe : Nat) : Address :=
  let b := registry.beacons recipe
  if b.verifier = 0 then 0
  else ⟨Fin.ofNat _ (platform.hash [.bytes32 (platform.domain "D20_EPOCH_BEACON"),
    .address b.verifier, .bytes32 b.chainHash, .bytes32 (platform.keccak256 b.publicKey),
    .uint b.genesis, .uint b.period]).toNat⟩

/-- The loop of `scheduleCatalog` over the slots, with the recipes seen before. -/
def checkSlots (platform : Platform) (registry : EpochEntropy) :
    List Nat → List Address → List Nat → Attempt Unit
  | recipe :: recipes, signer :: signers, seen => do
    refuseIf (registry.registeredRecipes.length ≤ recipe ∨ recipe ∈ seen ∨ signer = 0)
      .invalidConfig
    refuseIf ((registry.beacons recipe).verifier ≠ 0 ∧ signer ≠ registry.slotSigner platform recipe)
      .invalidConfig
    checkSlots platform registry recipes signers (recipe :: seen)
  | _, _, _ => .ok ()

/-- The scheduled catalogs without a pending one, which starts after the next epoch. -/
def withoutPending (catalogs : List Catalog) (current : Nat) : List Catalog :=
  match catalogs.getLast? with
  | none => catalogs
  | some last => if current + 1 < last.fromEpoch then catalogs.dropLast else catalogs

/-- The hash of a scheduled catalog. -/
def scheduledHash (recipes : List Nat) (signers : List Address) : Bytes32 :=
  platform.hash [.bytes32 (platform.domain "D20_EPOCH_RECIPES"), .array recipes,
    .array (signers.map fun signer => signer.word.val)]

/-- `scheduleCatalog`. -/
def scheduleCatalog (context : RegistryContext) (registry : EpochEntropy) (sender : Address)
    (recipes : List Nat) (signers : List Address) (fromEpoch : Nat) :
    Attempt (EpochEntropy × List EpochEvent) := do
  refuseIf (sender ≠ registry.owner) .ownableUnauthorizedAccount
  if sized : 0 < recipes.length ∧ recipes.length ≤ maxSources ∧
      signers.length = recipes.length then
    checkSlots context.platform registry recipes signers []
    let current := registry.epochForBlock context.block.number
    let soonest ← arithmetic (checkedAdd 64 current 2)
    refuseIf (fromEpoch < soonest) .invalidEpoch
    let hash := scheduledHash context.platform recipes signers
    let catalog : Catalog := ⟨fromEpoch, hash, recipes, signers, sized.1, sized.2.1, sized.2.2⟩
    return ({ registry with catalogs := withoutPending registry.catalogs current ++ [catalog] },
      [.catalogScheduled fromEpoch hash recipes signers])
  else .error (.revert .invalidConfig)

/-! ### Recipes, beacons and committers -/

/-- `_registerRecipe`. -/
def addRecipe (registry : EpochEntropy) (recipe : Recipe) :
    Attempt (EpochEntropy × Nat × EpochEvent) := do
  let id := registry.registeredRecipes.length
  refuseIf (maxRecipes ≤ id ∨ recipe.canonicalRequest.length = 0 ∨
    maxRequestBytes < recipe.canonicalRequest.length ∨ recipe.body.length = 0 ∨
    maxBodyBytes < recipe.body.length) .invalidRecipe
  refuseIf (DataTemplate.isValid recipe.template = false) .invalidTemplate
  return ({ registry with registeredRecipes := registry.registeredRecipes ++ [recipe] },
    id % 2 ^ 8, .recipeRegistered (id % 2 ^ 8) (platform.keccak256 recipe.canonicalRequest)
      recipe.canonicalRequest recipe.template recipe.body)

/-- `registerRecipe`. -/
def registerRecipe (context : RegistryContext) (registry : EpochEntropy) (sender : Address)
    (recipe : Recipe) : Attempt (EpochEntropy × List EpochEvent) := do
  refuseIf (sender ≠ registry.owner) .ownableUnauthorizedAccount
  let added ← addRecipe context.platform registry recipe
  return (added.1, [added.2.2])

/-- `_yes`: a question to a verifier, of which only the word 1 is a yes. -/
def yes (context : RegistryContext) (answer : Option Nat) : Attempt Bool := do
  refuseIf (context.enoughGas = false) .beaconGasTooLow
  return decide (answer = some 1)

/-- `_roundTime`. -/
def roundTime (genesis period round : Nat) : Attempt Nat := do
  let before ← arithmetic (checkedSub round 1)
  let elapsed ← arithmetic (checkedMul 256 before period)
  arithmetic (checkedAdd 256 genesis elapsed)

/-- A hexadecimal character. -/
def hexCharacter (digit : Nat) : UInt8 := UInt8.ofNat
    (if digit < 10 then 48 + digit else 87 + digit)

/-- A word in hexadecimal, with its mark. -/
def toHexString (word : Bytes32) : Bytes :=
  ascii "0x" ++ (List.range 64).map fun index => hexCharacter (word.toNat / 16 ^ (63 - index) % 16)

/-- The canonical request of a beacon recipe. -/
def beaconRequest (chainHash : Bytes32) : Bytes :=
  ascii "[\"drand\",\"" ++ toHexString chainHash ++ ascii "\"]"

/-- `registerBeacon`. -/
def registerBeacon (context : RegistryContext) (registry : EpochEntropy) (sender : Address)
    (beacon : EpochBeacon) (sampleRound : Nat) (sampleSignature : Bytes) :
    Attempt (EpochEntropy × List EpochEvent) := do
  refuseIf (sender ≠ registry.owner) .ownableUnauthorizedAccount
  refuseIf (context.views.hasCode beacon.verifier = false ∨ beacon.chainHash = 0 ∨
    beacon.genesis = 0 ∨ beacon.period = 0 ∨ sampleRound = 0) .invalidConfig
  let sampleTime ← roundTime beacon.genesis beacon.period sampleRound
  refuseIf (context.block.timestamp < sampleTime) .invalidConfig
  let keyValid ← yes context (context.views.isValidPublicKey beacon.verifier beacon.publicKey)
  refuseIf (keyValid = false) .invalidConfig
  let sampleValid ← yes context
    (context.views.verifyRound beacon.verifier beacon.publicKey sampleRound sampleSignature)
  refuseIf (sampleValid = false) .invalidConfig
  let request := beaconRequest beacon.chainHash
  let added ← addRecipe context.platform registry
    ⟨request, integerSegment 1 19, request⟩
  return ({ added.1 with beacons := Function.update added.1.beacons added.2.1 beacon },
    [added.2.2, .beaconRegistered added.2.1 beacon.verifier beacon.chainHash beacon.publicKey
      beacon.genesis beacon.period])

/-- `setCommitter`. -/
def setCommitter (sender next : Address) :
    Attempt (EpochEntropy × List EpochEvent) := do
  refuseIf (sender ≠ registry.owner) .ownableUnauthorizedAccount
  refuseIf (next = 0) .invalidConfig
  return ({ registry with committer := next }, [.committerChanged registry.committer next])

/-- `setBackupCommitter`. -/
def setBackupCommitter (sender account : Address) (allowed : Bool) :
    Attempt (EpochEntropy × List EpochEvent) := do
  refuseIf (sender ≠ registry.owner) .ownableUnauthorizedAccount
  refuseIf (account = 0 ∨ (allowed = true ∧ account = registry.committer) ∨
    registry.backupCommitters account = allowed) .invalidConfig
  refuseIf (allowed = true ∧ registry.backupCommitterCount = maxBackupCommitters) .invalidConfig
  let count ← arithmetic (if allowed = true then checkedAdd 256 registry.backupCommitterCount 1
    else checkedSub registry.backupCommitterCount 1)
  return ({ registry with
    backupCommitterCount := count
    backupCommitters := Function.update registry.backupCommitters account allowed },
    [.backupCommitterSet account allowed])

/-- `isAuthorizedCommitter`. -/
def isAuthorizedCommitter (account : Address) : Bool :=
  account = registry.committer || registry.backupCommitters account

/-- `transferOwnership` of the two-step ownership. -/
def transferOwnership (sender next : Address) :
    Attempt (EpochEntropy × List EpochEvent) := do
  refuseIf (sender ≠ registry.owner) .ownableUnauthorizedAccount
  return ({ registry with pendingOwner := next },
    [.ownershipTransferStarted registry.owner next])

/-- `acceptOwnership` of the two-step ownership. -/
def acceptOwnership (sender : Address) :
    Attempt (EpochEntropy × List EpochEvent) := do
  refuseIf (sender ≠ registry.pendingOwner) .ownableUnauthorizedAccount
  return ({ registry with pendingOwner := 0, owner := sender },
    [.ownershipTransferred registry.owner sender])

/-- `renounceOwnership`, which never succeeds. -/
def renounceOwnership (sender : Address) :
    Attempt (EpochEntropy × List EpochEvent) := do
  refuseIf (sender ≠ registry.owner) .ownableUnauthorizedAccount
  .error (.revert .renounceDisabled)

/-! ### Anchors and selection -/

/-- The stored anchor of an epoch, or the hash of the block before its start. -/
def anchorValue (context : RegistryContext) (registry : EpochEntropy) (epochId start : Nat) :
    Attempt Bytes32 :=
  if registry.epochAnchors epochId = 0 then do
    let before ← arithmetic (checkedSub start 1)
    return blockhash context.platform.canonical context.block before
  else return registry.epochAnchors epochId

/-- `_anchor`. -/
def anchor (context : RegistryContext) (registry : EpochEntropy) (epochId : Nat) :
    Attempt Bytes32 := do
  let start ← registry.epochStart epochId
  refuseIf (context.block.number < start) .preparationClosed
  let value ← registry.anchorValue context epochId start
  refuseIf (value = 0) .anchorUnavailable
  return value

/-- An anchor that is answered: the epoch has started, and the anchor is the stored one or the hash
of the block before the start. -/
structure Anchored (context : RegistryContext) (registry : EpochEntropy) (epochId : Nat)
    (anchor : Bytes32) (start : Nat) : Prop where
  starts : registry.epochStart epochId = .ok start
  started : start ≤ context.block.number
  nonzero : anchor ≠ 0
  stored : registry.epochAnchors epochId ≠ 0 → anchor = registry.epochAnchors epochId
  fresh : registry.epochAnchors epochId = 0 →
    1 ≤ start ∧ anchor = blockhash context.platform.canonical context.block (start - 1)

theorem anchor_eq_ok {context : RegistryContext} {registry : EpochEntropy} {epochId : Nat}
    {value : Bytes32} (done : registry.anchor context epochId = .ok value) :
    ∃ start, Anchored context registry epochId value start := by
  obtain ⟨start, starts, done⟩ := ok_of_bind done
  obtain ⟨_, open_, done⟩ := ok_of_bind done
  obtain ⟨other, valueIs, done⟩ := ok_of_bind done
  obtain ⟨_, available, done⟩ := ok_of_bind done
  obtain rfl := Except.ok.inj done
  refine ⟨start, starts, Nat.le_of_not_lt (refuseIf_eq_ok open_), refuseIf_eq_ok available,
    fun stored => ?_, fun fresh => ?_⟩
  · unfold anchorValue at valueIs
    rw [if_neg stored] at valueIs
    exact (Except.ok.inj valueIs).symm
  · unfold anchorValue at valueIs
    rw [if_pos fresh] at valueIs
    obtain ⟨before, subtracted, valueIs⟩ := ok_of_bind valueIs
    obtain ⟨rfl, positive⟩ := checkedSub_eq_ok (arithmetic_eq_ok subtracted)
    exact ⟨positive, (Except.ok.inj valueIs).symm⟩

/-- `checkpointEpoch`. -/
def checkpointEpoch (context : RegistryContext) (registry : EpochEntropy) (epochId : Nat) :
    Attempt (EpochEntropy × Bytes32) := do
  let value ← registry.anchor context epochId
  return (if registry.epochAnchors epochId = 0 then
    { registry with epochAnchors := Function.update registry.epochAnchors epochId value }
    else registry, value)

/-- A checkpoint stores the anchor and nothing else. -/
theorem checkpointEpoch_eq_ok {context : RegistryContext} {registry after : EpochEntropy}
    {epochId : Nat} {value : Bytes32}
    (done : registry.checkpointEpoch context epochId = .ok (after, value)) :
    registry.anchor context epochId = .ok value ∧
      after = { registry with
        epochAnchors := Function.update registry.epochAnchors epochId value } := by
  obtain ⟨other, anchored, done⟩ := ok_of_bind done
  obtain ⟨rfl, rfl⟩ := Prod.mk.inj (Except.ok.inj done)
  refine ⟨anchored, ?_⟩
  split
  · rfl
  · rename_i stored
    obtain ⟨start, facts⟩ := anchor_eq_ok anchored
    rw [facts.stored stored, Function.update_eq_self]

/-- `getEpoch`. -/
def getEpoch : Epoch := registry.epochs epochId

/-- `fallbackOpensAt`. -/
def fallbackOpensAt (epochId attempt : Nat) : Attempt Nat := do
  refuseIf (registry.sourceCountAt epochId ≤ attempt) .invalidFallback
  let start ← registry.epochStart epochId
  let delay ← arithmetic (checkedMul 64 attempt fallbackDelayBlocks)
  arithmetic (checkedAdd 64 start delay)

/-- The selector of an epoch. -/
def selector (catalog : Bytes32) (epochId : Nat) (anchor : Bytes32) :
    Bytes32 :=
  platform.hash [.bytes32 (platform.domain "D20_EPOCH_SELECT"), .bytes32 catalog, .uint epochId,
    .bytes32 anchor]

/-- The slot of an attempt among `count` sources. -/
def sourceOf (selector : Bytes32) (count attempt : Nat) : Nat :=
  (selector.toNat % count + attempt) % count

/-- `_select`. Returns the selection and the hash of the catalog. -/
def select (context : RegistryContext) (registry : EpochEntropy) (epochId attempt : Nat) :
    Attempt (Selection × Bytes32) := do
  let value ← registry.anchor context epochId
  let catalog := registry.catalogAt epochId
  refuseIf (catalog.2.1.length ≤ attempt) .invalidFallback
  let selected := selector context.platform catalog.1 epochId value
  let source := sourceOf selected catalog.2.1.length attempt % 2 ^ 8
  match catalog.2.1[source]?, catalog.2.2[source]? with
  | some recipe, some airnode =>
    match registry.registeredRecipes[recipe]? with
    | none => .error (.revert .invalidConfig)
    | some definition =>
      return (⟨source, recipe, airnode, selected,
        context.platform.keccak256 definition.canonicalRequest, definition.canonicalRequest⟩,
        catalog.1)
  | _, _ => .error (.panic .outOfBounds)

/-! ### Commitment -/

/-- `_decimal`: the number that digits denote, in checked eight-byte arithmetic. -/
def decimalFrom : Bytes → Nat → Except Panic Nat
  | [], value => .ok value
  | c :: rest, value => do
    let scaled ← checkedMul 64 value 10
    let added ← checkedAdd 64 scaled c.toNat
    let next ← checkedSub added 48
    decimalFrom rest next

/-- The text that a wallet signature covers, for a digest. -/
def ethSignedMessageHash (digest : Bytes32) : Bytes32 :=
  platform.keccak256 (0x19 :: ascii "Ethereum Signed Message:\n32" ++ wordBytes digest.toNat)

/-- The check of an attestation against its source: the signature of the recipe's signer, or the
scheduled time and the signature of a beacon round. -/
def checkAttestation (context : RegistryContext) (registry : EpochEntropy) (s : Selection)
    (a : Attestation) : Attempt Unit := do
  let beacon := registry.beacons s.recipe
  if beacon.verifier = 0 then
    let digest := context.platform.keccak256
      (wordBytes s.queryHash.toNat ++ wordBytes a.timestamp ++ a.data)
    match context.platform.recover (ethSignedMessageHash context.platform digest) a.signature with
    | none => .error (.revert .invalidSignature)
    | some signer => refuseIf (signer ≠ s.airnode) .invalidSigner
  else do
    let round ← arithmetic (decimalFrom a.data 0)
    let scheduled ← roundTime beacon.genesis beacon.period round
    refuseIf (a.timestamp ≠ scheduled) .invalidTime
    let valid ← yes context
      (context.views.verifyRound beacon.verifier beacon.publicKey round a.signature)
    refuseIf (valid = false) .invalidSigner

/-- The hash of an attestation to a query. -/
def attestationHash (queryHash : Bytes32) (a : Attestation) : Bytes32 :=
  platform.hash [.bytes32 queryHash, .uint a.timestamp, .bytes32 (platform.keccak256 a.data),
    .bytes32 (platform.keccak256 a.signature)]

/-- The commitment of an epoch. -/
def commitmentHash (self : Address) (catalog : Bytes32)
    (epochId start : Nat) (anchor : Bytes32) (source : Nat)
    (queryHash dataHash attestation : Bytes32) : Bytes32 :=
  platform.hash [.bytes32 (platform.domain "D20_EPOCH"), .uint platform.chainId, .address self,
    .bytes32 catalog, .uint epochId, .uint start, .bytes32 anchor, .uint source,
    .bytes32 queryHash, .bytes32 dataHash, .bytes32 attestation]

/-- The evidence packet of a commitment. -/
def evidencePacket (canonicalRequest : Bytes) (a : Attestation) : Bytes :=
  Abi.encode [.bytes canonicalRequest, .tuple [.uint a.timestamp, .bytes a.data,
    .bytes a.signature]]

/-- `_commit`. -/
def commit (context : RegistryContext) (registry : EpochEntropy) (sender : Address)
    (epochId attempt : Nat) (a : Attestation) : Attempt (EpochEntropy × List EpochEvent) := do
  refuseIf (registry.isAuthorizedCommitter sender = false) .onlyCommitter
  refuseIf ((registry.epochs epochId).epochHash ≠ 0) .alreadyCommitted
  let opens ← registry.fallbackOpensAt epochId attempt
  refuseIf (context.block.number < opens) .fallbackNotOpen
  let selected ← registry.select context epochId attempt
  let s := selected.1
  refuseIf (context.block.timestamp < a.timestamp ∨
    maxAttestationAge < context.block.timestamp - a.timestamp) .invalidTime
  match registry.registeredRecipes[s.recipe]? with
  | none => .error (.panic .outOfBounds)
  | some recipe => do
    let exact ← arithmetic (DataTemplate.matchesData recipe.template a.data)
    refuseIf (exact = false) .invalidData
    registry.checkAttestation context s a
    let checkpoint ← registry.checkpointEpoch context epochId
    let start ← registry.epochStart epochId
    let dataHash := context.platform.keccak256 a.data
    let attestation := attestationHash context.platform s.queryHash a
    let commitment := commitmentHash context.platform context.self selected.2 epochId start
      checkpoint.2 s.source s.queryHash dataHash attestation
    let record : Epoch := ⟨commitment, selected.2, checkpoint.2, s.source, s.queryHash, dataHash,
      attestation, a.timestamp, context.block.number % 2 ^ 64⟩
    let packet := evidencePacket s.canonicalRequest a
    refuseIf (maxPacketBytes < packet.length) .packetTooLarge
    return ({ checkpoint.1 with epochs := Function.update checkpoint.1.epochs epochId record },
      [.epochCommitted epochId commitment packet])

/-- `commitEpochFallback`. -/
def commitEpochFallback (context : RegistryContext) (registry : EpochEntropy) (sender : Address)
    (epochId attempt : Nat) (a : Attestation) : Attempt (EpochEntropy × List EpochEvent) := do
  refuseIf (attempt = 0) .invalidFallback
  registry.commit context sender epochId attempt a

/-! ### Initialization -/

/-- The recipe of the last block hash of a network, `_registerBlockHashRecipe`. -/
def blockHashRecipe (network : String) : Recipe where
  canonicalRequest := ascii "[\"jsonRpc\",[[\"method\",\"eth_call\"],[\"network\",\"" ++
    ascii network ++ ascii ("\"],[\"params\",[[[\"data\",\"0x27e86d6e\"]," ++
      "[\"to\",\"0xcA11bde05977b3631167028862bE2a173976CA11\"]],\"latest\"]]]]")
  template := literal "\x7b\"id\":null,\"jsonrpc\":\"2.0\",\"result\":\"0x" ++
    DataTemplate.hexChars 64 ++ literal "\"\x7d"
  body := ascii "\x7b\"operation\":\"jsonRpc\",\"parameters\":\x7b\"network\":\"" ++ ascii network ++
    ascii ("\",\"method\":\"eth_call\",\"params\":[\x7b\"to\":" ++
      "\"0xcA11bde05977b3631167028862bE2a173976CA11\",\"data\":\"0x27e86d6e\"\x7d,\"latest\"]\x7d\x7d")

/-- The recipe of the last trade of a pair, `_registerTradeRecipe`. -/
def tradeRecipe (symbol : String) : Recipe where
  canonicalRequest := ascii "[\"lastTrade\",[[\"assetClass\",\"crypto\"],[\"symbol\",\"" ++
    ascii symbol ++ ascii "\"]]]"
  template := literal ("\x7b\"symbol\":\"" ++ symbol ++ "\",\"price\":") ++
    decimalSegment true true ++ literal ",\"size\":" ++
    decimalSegment true true ++ literal ",\"timestamp\":" ++
    integerSegment 1 16 ++ literal "\x7d"
  body := ascii "\x7b\"operation\":\"lastTrade\",\"parameters\":\x7b\"assetClass\":\"crypto\",\"symbol\":\"" ++
    ascii symbol ++ ascii "\"\x7d\x7d"

/-- The recipes of `_registerBuiltinRecipes`, by their ids. -/
def builtinRecipes : List Recipe :=
  [⟨ascii ("[\"metaAndAssetCtxs\",[[\"dex\",\"\"]],[[\"symbol\",\"/0/universe/0/name\"]," ++
      "[\"value\",\"/1/0/dayNtlVlm\"]]]"),
    literal "\x7b\"symbol\":\"BTC\",\"value\":\"" ++
      decimalSegment true false ++ literal "\"\x7d",
    ascii ("\x7b\"operation\":\"metaAndAssetCtxs\",\"parameters\":\x7b\"dex\":\"\"\x7d," ++
      "\"responseProjection\":\x7b\"symbol\":\"/0/universe/0/name\",\"value\":\"/1/0/dayNtlVlm\"\x7d\x7d")⟩,
    blockHashRecipe "ethereum", tradeRecipe "BTCUSD", tradeRecipe "ETHUSD",
    ⟨ascii "[\"latestFeeds\",[[\"name\",\"ETH/USD\"]]]",
      literal "\x7b\"ETH/USD\":\x7b\"value\":" ++
        decimalSegment true true ++ literal ",\"timestamp\":" ++
        integerSegment 13 13 ++
        literal ",\"category\":\"crypto\"\x7d\x7d",
      ascii "\x7b\"operation\":\"latestFeeds\",\"parameters\":\x7b\"name\":\"ETH/USD\"\x7d\x7d"⟩,
    blockHashRecipe "base"]

/-- Append recipes one after the other. -/
def addRecipes (platform : Platform) : List Recipe → EpochEntropy → Attempt EpochEntropy
  | [], registry => .ok registry
  | recipe :: rest, registry => do
    let added ← addRecipe platform registry recipe
    addRecipes platform rest added.1

/-- What `initialize` stores before it registers its recipes. -/
def initialStorage (context : RegistryContext) (signers : Fin 4 → Address)
    (initialOwner initialCommitter : Address) (first : Nat) : EpochEntropy where
  owner := initialOwner
  pendingOwner := 0
  hyperliquidSigner := signers 0
  ethereumBlockSigner := signers 1
  btcTradeSigner := signers 2
  ethTradeSigner := signers 3
  committer := initialCommitter
  firstEpochStart := first
  catalogHash := context.platform.hash
    [.bytes32 (context.platform.domain "D20_EPOCH_RECIPES"),
      .static ((List.finRange 4).map fun slot => (signers slot).word.val)]
  epochs := fun _ => .blank
  epochAnchors := fun _ => 0
  catalogs := []
  registeredRecipes := []
  backupCommitters := fun _ => false
  backupCommitterCount := 0
  beacons := fun _ => ⟨0, 0, 0, 0, []⟩

/-- `initialize`, run once by the constructor of the proxy: the registry it leaves. -/
def initializeProxy (context : RegistryContext) (signers : Fin 4 → Address)
    (initialOwner initialCommitter : Address) : Attempt EpochEntropy := do
  refuseIf (initialOwner = 0) .ownableInvalidOwner
  refuseIf (signers 0 = 0 ∨ signers 1 = 0 ∨ signers 2 = 0 ∨ signers 3 = 0 ∨ initialCommitter = 0)
    .invalidConfig
  let first ← arithmetic (checkedAdd 64 (context.block.number % 2 ^ 64) epochLength)
  addRecipes context.platform builtinRecipes
    (initialStorage context signers initialOwner initialCommitter first)

/-! ### Dispatch -/

/-- The external functions of the registry that write. -/
inductive Call where
  | setCommitter (next : Address)
  | setBackupCommitter (account : Address) (allowed : Bool)
  | registerRecipe (recipe : Recipe)
  | registerBeacon (beacon : EpochBeacon) (sampleRound : Nat) (sampleSignature : Bytes)
  | scheduleCatalog (recipes : List Nat) (signers : List Address) (fromEpoch : Nat)
  | checkpointEpoch (epochId : Nat)
  | commitEpoch (epochId : Nat) (a : Attestation)
  | commitEpochFallback (epochId attempt : Nat) (a : Attestation)
  | transferOwnership (next : Address)
  | acceptOwnership
  | renounceOwnership

/-- Run an external function for a sender. -/
def run (context : RegistryContext) (sender : Address) (registry : EpochEntropy) :
    Call → Attempt (EpochEntropy × List EpochEvent)
  | .setCommitter next => registry.setCommitter sender next
  | .setBackupCommitter account allowed => registry.setBackupCommitter sender account allowed
  | .registerRecipe recipe => registry.registerRecipe context sender recipe
  | .registerBeacon beacon sampleRound sampleSignature =>
    registry.registerBeacon context sender beacon sampleRound sampleSignature
  | .scheduleCatalog recipes signers fromEpoch =>
    registry.scheduleCatalog context sender recipes signers fromEpoch
  | .checkpointEpoch epochId => do
    let checkpoint ← registry.checkpointEpoch context epochId
    return (checkpoint.1, [])
  | .commitEpoch epochId a => registry.commit context sender epochId 0 a
  | .commitEpochFallback epochId attempt a =>
    registry.commitEpochFallback context sender epochId attempt a
  | .transferOwnership next => registry.transferOwnership sender next
  | .acceptOwnership => registry.acceptOwnership sender
  | .renounceOwnership => registry.renounceOwnership sender

end EpochEntropy

end D20
