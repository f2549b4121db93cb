/-
This file says once what a call to the registry can do. `Moves` has one case for
each kind of change, with everything the code checked before it, and a call that
succeeds is one of them. `Grows` is what all of them have in common: recipes are
only appended, and an anchor or a record, once there, stays.
-/

import D20Keeper.EpochEntropy

namespace D20

open Evm

/-- The event of a commitment. -/
def EpochEvent.isCommit : EpochEvent → Bool
  | .epochCommitted .. => true
  | _ => false

namespace EpochEntropy

/-! ### Moves -/

/-- A commitment that goes through: everything `_commit` checks, and the record and the packet it
makes. -/
structure Commits (context : RegistryContext) (before : EpochEntropy) (epochId attempt : Nat)
    (a : Attestation) (s : Selection) (record : Epoch) (packet : Bytes) : Prop where
  unpublished : (before.epochs epochId).epochHash = 0
  opened : ∃ opens, before.fallbackOpensAt epochId attempt = .ok opens ∧
    opens ≤ context.block.number
  selected : before.select context epochId attempt = .ok (s, record.catalogHash)
  timely : a.timestamp ≤ context.block.timestamp ∧
    context.block.timestamp - a.timestamp ≤ maxAttestationAge
  exact : ∃ recipe, before.registeredRecipes[s.recipe]? = some recipe ∧
    DataTemplate.matchesData recipe.template a.data = .ok true
  attested : before.checkAttestation context s a = .ok ()
  anchored : before.anchor context epochId = .ok record.anchorHash
  recorded : ∃ start, before.epochStart epochId = .ok start ∧
    record = ⟨commitmentHash context.platform context.self record.catalogHash epochId start
        record.anchorHash s.source s.queryHash (context.platform.keccak256 a.data)
        (attestationHash context.platform s.queryHash a), record.catalogHash, record.anchorHash,
      s.source, s.queryHash, context.platform.keccak256 a.data,
      attestationHash context.platform s.queryHash a, a.timestamp, context.block.number % 2 ^ 64⟩
  packed : packet = evidencePacket s.canonicalRequest a
  small : packet.length ≤ maxPacketBytes

/-- What a recipe must satisfy to be registered. -/
structure Registrable (before : EpochEntropy) (recipe : Recipe) : Prop where
  room : before.registeredRecipes.length < maxRecipes
  request_pos : 0 < recipe.canonicalRequest.length
  request_le : recipe.canonicalRequest.length ≤ maxRequestBytes
  body_pos : 0 < recipe.body.length
  body_le : recipe.body.length ≤ maxBodyBytes
  template : DataTemplate.isValid recipe.template = true

/-- The recipe that registering a beacon appends. -/
def beaconRecipe (beacon : EpochBeacon) : Recipe :=
  ⟨beaconRequest beacon.chainHash, DataTemplate.integerSegment 1 19, beaconRequest beacon.chainHash⟩

/-- What a beacon must satisfy to be registered, beyond what its verifier says. -/
structure EligibleBeacon (context : RegistryContext) (beacon : EpochBeacon) : Prop where
  coded : context.views.hasCode beacon.verifier = true
  chainHash : beacon.chainHash ≠ 0
  genesis : beacon.genesis ≠ 0
  period : beacon.period ≠ 0
  key : context.views.isValidPublicKey beacon.verifier beacon.publicKey = some 1

/-- The changes that a call to the registry makes. -/
inductive Moves (context : RegistryContext) (before : EpochEntropy) :
    EpochEntropy → List EpochEvent → Prop where
  | settings (owner pendingOwner committer : Address) (backupCommitters : Address → Bool)
    (backupCommitterCount : Nat) (event : EpochEvent) (plain : event.isCommit = false) :
    Moves context before
      { before with
        owner := owner
        pendingOwner := pendingOwner
        committer := committer
        backupCommitters := backupCommitters
        backupCommitterCount := backupCommitterCount } [event]
  | recipe (recipe : Recipe) (event : EpochEvent) (plain : event.isCommit = false)
    (registrable : Registrable before recipe) :
    Moves context before
      { before with registeredRecipes := before.registeredRecipes ++ [recipe] } [event]
  | beacon (beacon : EpochBeacon) (events : List EpochEvent)
    (plain : ∀ event ∈ events, event.isCommit = false)
    (registrable : Registrable before (beaconRecipe beacon))
    (eligible : EligibleBeacon context beacon) :
    Moves context before
      { before with
        registeredRecipes := before.registeredRecipes ++ [beaconRecipe beacon]
        beacons := Function.update before.beacons before.registeredRecipes.length beacon } events
  | schedule (catalog : Catalog)
    (ahead : before.epochForBlock context.block.number + 2 ≤ catalog.fromEpoch)
    (hashed : catalog.hash = scheduledHash context.platform catalog.recipes catalog.signers)
    (slots : checkSlots context.platform before catalog.recipes catalog.signers [] = .ok ()) :
    Moves context before
      { before with
        catalogs := withoutPending before.catalogs (before.epochForBlock context.block.number) ++
          [catalog] }
      [.catalogScheduled catalog.fromEpoch catalog.hash catalog.recipes catalog.signers]
  | checkpoint (epochId : Nat) (value : Bytes32)
    (anchored : before.anchor context epochId = .ok value) :
    Moves context before
      { before with epochAnchors := Function.update before.epochAnchors epochId value } []
  | commit (epochId attempt : Nat) (a : Attestation) (s : Selection) (record : Epoch)
    (packet : Bytes) (commits : Commits context before epochId attempt a s record packet) :
    Moves context before
      { before with
        epochAnchors := Function.update before.epochAnchors epochId record.anchorHash
        epochs := Function.update before.epochs epochId record }
      [.epochCommitted epochId record.epochHash packet]

/-! ### Every call is a move -/

section Calls

variable {context : RegistryContext} {before after : EpochEntropy} {sender : Address}
  {events : List EpochEvent}

theorem setCommitter_moves {next : Address}
    (done : before.setCommitter sender next = .ok (after, events)) :
    Moves context before after events := by
  obtain ⟨_, -, done⟩ := ok_of_bind done
  obtain ⟨_, -, done⟩ := ok_of_bind done
  obtain ⟨rfl, rfl⟩ := Prod.mk.inj (Except.ok.inj done)
  exact .settings before.owner before.pendingOwner next before.backupCommitters
    before.backupCommitterCount _ rfl

theorem setBackupCommitter_moves {account : Address} {allowed : Bool}
    (done : before.setBackupCommitter sender account allowed = .ok (after, events)) :
    Moves context before after events := by
  obtain ⟨_, -, done⟩ := ok_of_bind done
  obtain ⟨_, -, done⟩ := ok_of_bind done
  obtain ⟨_, -, done⟩ := ok_of_bind done
  obtain ⟨count, -, done⟩ := ok_of_bind done
  obtain ⟨rfl, rfl⟩ := Prod.mk.inj (Except.ok.inj done)
  exact .settings before.owner before.pendingOwner before.committer _ count _ rfl

theorem transferOwnership_moves {next : Address}
    (done : before.transferOwnership sender next = .ok (after, events)) :
    Moves context before after events := by
  obtain ⟨_, -, done⟩ := ok_of_bind done
  obtain ⟨rfl, rfl⟩ := Prod.mk.inj (Except.ok.inj done)
  exact .settings before.owner next before.committer before.backupCommitters
    before.backupCommitterCount _ rfl

theorem acceptOwnership_moves (done : before.acceptOwnership sender = .ok (after, events)) :
    Moves context before after events := by
  obtain ⟨_, -, done⟩ := ok_of_bind done
  obtain ⟨rfl, rfl⟩ := Prod.mk.inj (Except.ok.inj done)
  exact .settings sender 0 before.committer before.backupCommitters before.backupCommitterCount _
    rfl

theorem addRecipe_eq_ok {platform : Platform} {recipe : Recipe}
    {added : EpochEntropy × Nat × EpochEvent}
    (done : before.addRecipe platform recipe = .ok added) :
    Registrable before recipe ∧
      added.1 = { before with registeredRecipes := before.registeredRecipes ++ [recipe] } ∧
      added.2.1 = before.registeredRecipes.length ∧ added.2.2.isCommit = false := by
  obtain ⟨_, sized, done⟩ := ok_of_bind done
  obtain ⟨_, wellFormed, done⟩ := ok_of_bind done
  have sizes := refuseIf_eq_ok sized
  rw [not_or, not_or, not_or, not_or] at sizes
  obtain ⟨room, request, request', body, body'⟩ := sizes
  have registrable : Registrable before recipe := ⟨Nat.lt_of_not_le room,
    Nat.pos_of_ne_zero request, Nat.le_of_not_lt request', Nat.pos_of_ne_zero body,
    Nat.le_of_not_lt body', Bool.ne_false_iff.mp (refuseIf_eq_ok wellFormed)⟩
  obtain rfl := Except.ok.inj done
  exact ⟨registrable, rfl, Nat.mod_eq_of_lt registrable.room, rfl⟩

/-- Appending recipes changes nothing but the list of them. -/
theorem addRecipes_eq_ok {platform : Platform} {recipes : List Recipe}
    (done : addRecipes platform recipes before = .ok after) :
    after = { before with registeredRecipes := before.registeredRecipes ++ recipes } := by
  induction recipes generalizing before with
  | nil =>
    rw [← Except.ok.inj done, List.append_nil]
  | cons recipe rest inductionHypothesis =>
    obtain ⟨added, adds, done⟩ := ok_of_bind done
    rw [inductionHypothesis done, (addRecipe_eq_ok adds).2.1, List.append_assoc]
    rfl

theorem registerRecipe_moves {recipe : Recipe}
    (done : before.registerRecipe context sender recipe = .ok (after, events)) :
    Moves context before after events := by
  obtain ⟨_, -, done⟩ := ok_of_bind done
  obtain ⟨added, adds, done⟩ := ok_of_bind done
  obtain ⟨registrable, registry, -, plain⟩ := addRecipe_eq_ok adds
  obtain ⟨rfl, rfl⟩ := Prod.mk.inj (Except.ok.inj done)
  rw [registry]
  exact .recipe recipe _ plain registrable

/-- A question to a verifier that was answered with a yes. -/
theorem yes_eq_ok {answer : Option Nat} {valid : Bool}
    (asked : yes context answer = .ok valid) (positive : ¬ valid = false) : answer = some 1 := by
  obtain ⟨_, -, asked⟩ := ok_of_bind asked
  obtain rfl := Except.ok.inj asked
  exact of_decide_eq_true (Bool.ne_false_iff.mp positive)

theorem registerBeacon_moves {beacon : EpochBeacon} {sampleRound : Nat} {sampleSignature : Bytes}
    (done : before.registerBeacon context sender beacon sampleRound sampleSignature =
      .ok (after, events)) : Moves context before after events := by
  obtain ⟨_, -, done⟩ := ok_of_bind done
  obtain ⟨_, configured, done⟩ := ok_of_bind done
  obtain ⟨_, -, done⟩ := ok_of_bind done
  obtain ⟨_, -, done⟩ := ok_of_bind done
  obtain ⟨_, keyAsked, done⟩ := ok_of_bind done
  obtain ⟨_, keyValid, done⟩ := ok_of_bind done
  obtain ⟨_, -, done⟩ := ok_of_bind done
  obtain ⟨_, -, done⟩ := ok_of_bind done
  obtain ⟨added, adds, done⟩ := ok_of_bind done
  obtain ⟨registrable, registry, index, plain⟩ := addRecipe_eq_ok adds
  have valid := refuseIf_eq_ok configured
  rw [not_or, not_or, not_or, not_or] at valid
  obtain ⟨coded, chainHash, genesis, period, -⟩ := valid
  obtain ⟨rfl, rfl⟩ := Prod.mk.inj (Except.ok.inj done)
  rw [registry, index]
  refine .beacon beacon _ (fun event member => ?_) registrable
    ⟨Bool.ne_false_iff.mp coded, chainHash, genesis, period,
      yes_eq_ok keyAsked (refuseIf_eq_ok keyValid)⟩
  rcases List.mem_cons.mp member with first | second
  · rw [first]
    exact plain
  · rw [List.mem_singleton.mp second]
    rfl

theorem scheduleCatalog_moves {recipes : List Nat} {signers : List Address} {fromEpoch : Nat}
    (done : before.scheduleCatalog context sender recipes signers fromEpoch =
      .ok (after, events)) : Moves context before after events := by
  obtain ⟨_, -, done⟩ := ok_of_bind done
  split at done
  · rename_i sized
    obtain ⟨_, slots, done⟩ := ok_of_bind done
    obtain ⟨soonest, sums, done⟩ := ok_of_bind done
    obtain ⟨_, late, done⟩ := ok_of_bind done
    obtain ⟨rfl, rfl⟩ := Prod.mk.inj (Except.ok.inj done)
    have ahead := Nat.le_of_not_lt (refuseIf_eq_ok late)
    rw [(checkedAdd_eq_ok (arithmetic_eq_ok sums)).1] at ahead
    exact .schedule ⟨fromEpoch, scheduledHash context.platform recipes signers, recipes, signers,
      sized.1, sized.2.1, sized.2.2⟩ ahead rfl slots
  · cases done

theorem commit_moves {epochId attempt : Nat} {a : Attestation}
    (done : before.commit context sender epochId attempt a = .ok (after, events)) :
    Moves context before after events := by
  obtain ⟨_, -, done⟩ := ok_of_bind done
  obtain ⟨_, unpublished, done⟩ := ok_of_bind done
  obtain ⟨opens, opensAt, done⟩ := ok_of_bind done
  obtain ⟨_, opened, done⟩ := ok_of_bind done
  obtain ⟨selected, selects, done⟩ := ok_of_bind done
  obtain ⟨_, timely, done⟩ := ok_of_bind done
  split at done
  · cases done
  · rename_i recipe found
    obtain ⟨exact, matched, done⟩ := ok_of_bind done
    obtain ⟨_, exactly, done⟩ := ok_of_bind done
    obtain ⟨_, attested, done⟩ := ok_of_bind done
    obtain ⟨⟨checkpointed, value⟩, checkpoints, done⟩ := ok_of_bind done
    obtain ⟨start, starts, done⟩ := ok_of_bind done
    obtain ⟨_, small, done⟩ := ok_of_bind done
    obtain ⟨anchored, rfl⟩ := checkpointEpoch_eq_ok checkpoints
    obtain ⟨rfl, rfl⟩ := Prod.mk.inj (Except.ok.inj done)
    have exactTrue : exact = true := Bool.ne_false_iff.mp (refuseIf_eq_ok exactly)
    have inTime := refuseIf_eq_ok timely
    rw [not_or] at inTime
    refine .commit epochId attempt a selected.1 ⟨_, selected.2, value, _, _, _, _, _, _⟩ _
      ⟨not_not.mp (refuseIf_eq_ok unpublished), ⟨opens, opensAt,
        Nat.le_of_not_lt (refuseIf_eq_ok opened)⟩, selects,
        ⟨Nat.le_of_not_lt inTime.1, Nat.le_of_not_lt inTime.2⟩,
        ⟨recipe, found, exactTrue ▸ arithmetic_eq_ok matched⟩, attested, anchored,
        ⟨start, starts, rfl⟩, rfl, Nat.le_of_not_lt (refuseIf_eq_ok small)⟩

/-- A call that succeeds is a move. -/
theorem run_moves {call : Call} (done : run context sender before call = .ok (after, events)) :
    Moves context before after events := by
  cases call with
  | setCommitter => exact setCommitter_moves done
  | setBackupCommitter => exact setBackupCommitter_moves done
  | registerRecipe => exact registerRecipe_moves done
  | registerBeacon => exact registerBeacon_moves done
  | scheduleCatalog => exact scheduleCatalog_moves done
  | checkpointEpoch epochId =>
    obtain ⟨⟨checkpointed, value⟩, checkpoints, done⟩ := ok_of_bind done
    obtain ⟨anchored, rfl⟩ := checkpointEpoch_eq_ok checkpoints
    obtain ⟨rfl, rfl⟩ := Prod.mk.inj (Except.ok.inj done)
    exact .checkpoint epochId value anchored
  | commitEpoch => exact commit_moves done
  | commitEpochFallback =>
    obtain ⟨_, -, done⟩ := ok_of_bind done
    exact commit_moves done
  | transferOwnership => exact transferOwnership_moves done
  | acceptOwnership => exact acceptOwnership_moves done
  | renounceOwnership =>
    obtain ⟨_, -, done⟩ := ok_of_bind done
    cases done

end Calls

/-! ### What stays -/

/-- What every move keeps: the start of the first epoch and the initial catalog, the anchors and the
records that are there, and the recipes with their beacons. -/
structure Grows (before after : EpochEntropy) : Prop where
  firstEpochStart : after.firstEpochStart = before.firstEpochStart
  catalogHash : after.catalogHash = before.catalogHash
  hyperliquidSigner : after.hyperliquidSigner = before.hyperliquidSigner
  ethereumBlockSigner : after.ethereumBlockSigner = before.ethereumBlockSigner
  btcTradeSigner : after.btcTradeSigner = before.btcTradeSigner
  ethTradeSigner : after.ethTradeSigner = before.ethTradeSigner
  epochs : ∀ epochId, (before.epochs epochId).epochHash ≠ 0 →
    after.epochs epochId = before.epochs epochId
  epochAnchors : ∀ epochId, before.epochAnchors epochId ≠ 0 →
    after.epochAnchors epochId = before.epochAnchors epochId
  registeredRecipes : before.registeredRecipes <+: after.registeredRecipes
  beacons : ∀ recipe < before.registeredRecipes.length,
    after.beacons recipe = before.beacons recipe

theorem Grows.refl (registry : EpochEntropy) : Grows registry registry :=
  ⟨rfl, rfl, rfl, rfl, rfl, rfl, fun _ _ => rfl, fun _ _ => rfl, List.prefix_refl _,
    fun _ _ => rfl⟩

theorem Grows.trans {first second third : EpochEntropy} (one : Grows first second)
    (two : Grows second third) : Grows first third where
  firstEpochStart := two.firstEpochStart.trans one.firstEpochStart
  catalogHash := two.catalogHash.trans one.catalogHash
  hyperliquidSigner := two.hyperliquidSigner.trans one.hyperliquidSigner
  ethereumBlockSigner := two.ethereumBlockSigner.trans one.ethereumBlockSigner
  btcTradeSigner := two.btcTradeSigner.trans one.btcTradeSigner
  ethTradeSigner := two.ethTradeSigner.trans one.ethTradeSigner
  epochs epochId published := by
    have kept := one.epochs epochId published
    exact (two.epochs epochId (kept ▸ published)).trans kept
  epochAnchors epochId anchored := by
    have kept := one.epochAnchors epochId anchored
    exact (two.epochAnchors epochId (kept ▸ anchored)).trans kept
  registeredRecipes := one.registeredRecipes.trans two.registeredRecipes
  beacons recipe known :=
    (two.beacons recipe (known.trans_le one.registeredRecipes.length_le)).trans
      (one.beacons recipe known)

section Moves

variable {context : RegistryContext} {before after : EpochEntropy} {events : List EpochEvent}

/-- Storing the anchor that `_anchor` answers changes no anchor that is there. -/
theorem epochAnchors_update {epochId : Nat} {value : Bytes32}
    (anchored : before.anchor context epochId = .ok value) (other : Nat)
    (there : before.epochAnchors other ≠ 0) :
    Function.update before.epochAnchors epochId value other = before.epochAnchors other := by
  by_cases same : other = epochId
  · obtain ⟨start, facts⟩ := anchor_eq_ok anchored
    rw [same, Function.update_self]
    exact facts.stored (same ▸ there)
  · rw [Function.update_of_ne same]

theorem Moves.grows (moves : Moves context before after events) : Grows before after := by
  cases moves with
  | settings => exact { Grows.refl before with }
  | recipe =>
    exact { Grows.refl before with registeredRecipes := List.prefix_append _ _ }
  | beacon =>
    exact { Grows.refl before with
      registeredRecipes := List.prefix_append _ _
      beacons := fun recipe known => Function.update_of_ne (Nat.ne_of_lt known) _ _ }
  | schedule => exact { Grows.refl before with }
  | checkpoint epochId value anchored =>
    exact { Grows.refl before with epochAnchors := epochAnchors_update anchored }
  | commit epochId attempt a s record packet commits =>
    refine { Grows.refl before with
      epochAnchors := epochAnchors_update commits.anchored
      epochs := fun other published => Function.update_of_ne ?_ _ _ }
    rintro rfl
    exact published commits.unpublished

/-- A record is written in the block that it names. -/
theorem Moves.published (moves : Moves context before after events) {epochId : Nat}
    (unpublished : (before.epochs epochId).epochHash = 0)
    (published : (after.epochs epochId).epochHash ≠ 0) :
    (after.epochs epochId).committedBlock = context.block.number := by
  cases moves with
  | commit other attempt a s record packet commits =>
    by_cases same : epochId = other
    · show (Function.update before.epochs other record epochId).committedBlock = _
      obtain ⟨start, -, recorded⟩ := commits.recorded
      rw [same, Function.update_self, recorded]
      exact Nat.mod_eq_of_lt context.block.number_lt
    · refine absurd ?_ published
      show (Function.update before.epochs other record epochId).epochHash = 0
      rw [Function.update_of_ne same]
      exact unpublished
  | _ => exact absurd unpublished published

end Moves

end EpochEntropy

end D20
