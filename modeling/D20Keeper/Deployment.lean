/-
This file carries the steps of the abstract machine over whole runs.

A `Contract` is a dispatcher that refines the machine. Its runs are sequences of
moves, steps in a block and advances to a later block, so what every move keeps
holds in every state between transactions, and what every step keeps holds at
every point inside one. The two coordinators are contracts, and a deployment of
one of them is an initialization that went through.
-/

import D20Keeper.EpochRefinement
import D20Keeper.RegistryRun
import D20Keeper.RoundRefinement

namespace D20

open Evm
open Tx (wp_bind wp_revertIf wp_emit wp_revert)

/-! ### Contracts -/

/-- A dispatcher that takes steps of the abstract machine in every environment it admits. -/
structure Contract (terms : Terms) (β χ κ : Type) [Inhabited β] where
  rules : Rules terms β χ
  platform : Platform
  self : Address
  exec : Block → Nat → κ → Program terms β χ κ Unit
  admits : Env κ Views → Prop
  refines : ∀ (block : Block) (depth : Nat) (message : κ) (env : Env κ Views) (gas : Nat)
    (start : Flow terms β χ) (account : Account (Coordinator terms β χ)) (logs : List Event),
    InOrder rules start.store → admits env →
    Reached rules ⟨platform, self, block⟩ start account logs 0 →
    Runs rules ⟨platform, self, block⟩ start env (exec block depth message)
      (fun _ account' _ logs' => Reached rules ⟨platform, self, block⟩ start account' logs' 0)
      account (some gas) logs

variable {terms : Terms} {β χ κ : Type} [Inhabited β]

/-- The flow of a state between transactions. -/
def flowOf (state : Committed (Coordinator terms β χ) Event) : Flow terms β χ :=
  ⟨state.account.storage, state.account.balance, state.logs, 0⟩

namespace Contract

variable (contract : Contract terms β χ κ)

/-- What a contract reads in a block besides its storage. -/
def context (block : Block) : Context := ⟨contract.platform, contract.self, block⟩

/-- What a transaction starts from is reached by the ether forced in before it. -/
theorem path_gifted (state : Committed (Coordinator terms β χ) Event)
    (submission : Submission κ Views) :
    Path contract.rules (contract.context submission.block) (flowOf state)
      { flowOf state with balance := state.account.balance + submission.gift } :=
  Relation.ReflTransGen.single (.quiet (.gift _ submission.gift))

variable {contract} {state : Committed (Coordinator terms β χ) Event}
  {submission : Submission κ Views}

theorem reached_gifted : Reached contract.rules (contract.context submission.block) (flowOf state)
    (submission.gifted state.account) [] 0 := by
  unfold Reached here
  rw [List.map_nil, List.append_nil]
  exact contract.path_gifted state submission

/-- The specification of a whole transaction. -/
theorem outcome_spec (order : InOrder contract.rules state.account.storage)
    (admitted : contract.admits submission.env) :
    (∀ point ∈ (submission.outcome contract.exec state).points,
      Seen contract.rules (contract.context submission.block) (flowOf state) point) ∧
    Tx.Settles Harmless (fun _ => Reached contract.rules (contract.context submission.block)
      (flowOf state) (submission.outcome contract.exec state).world.account
      (submission.outcome contract.exec state).events 0)
      (submission.outcome contract.exec state).result := by
  obtain ⟨points, -, settles⟩ := contract.refines submission.block submission.depth
    submission.message submission.env submission.gas (flowOf state)
    (submission.gifted state.account) [] order admitted reached_gifted
    ⟨submission.gifted state.account, some submission.gas, 0, 0⟩ rfl rfl
  exact ⟨points, settles⟩

/-- A transaction is a path of steps in its block, whether it succeeds or fails. -/
theorem path_commit (order : InOrder contract.rules state.account.storage)
    (admitted : contract.admits submission.env) :
    Path contract.rules (contract.context submission.block) (flowOf state)
      (flowOf (submission.commit contract.exec state)) := by
  obtain ⟨-, settles⟩ := outcome_spec order admitted
  unfold Submission.commit
  dsimp only
  split
  · rename_i succeeded
    rw [succeeded] at settles
    exact settles
  · exact contract.path_gifted state submission

/-! ### Invariants of runs -/

/-- What a step keeps and an advance to a related block keeps. -/
structure Keeps (contract : Contract terms β χ κ) (order : Block → Block → Prop)
    (holds : Block → Flow terms β χ → Prop) : Prop where
  step : ∀ {block flow next}, Step contract.rules (contract.context block) flow next →
    InOrder contract.rules flow.store → holds block flow → holds block next
  advance : ∀ {block later flow}, order block later → holds block flow → holds later flow

variable {order : Block → Block → Prop} {holds : Block → Flow terms β χ → Prop}

/-- What every step keeps holds along a path. -/
theorem Keeps.path (keeps : Keeps contract order holds) {block : Block} {flow next : Flow terms β χ}
    (inOrder : InOrder contract.rules flow.store)
    (path : Path contract.rules (contract.context block) flow next) (start : holds block flow) :
    holds block next := by
  have both := path.preserves
    (fun flow => InOrder contract.rules flow.store ∧ holds block flow)
    (fun _ _ step kept => ⟨kept.1.step step, keeps.step step kept.1 kept.2⟩) ⟨inOrder, start⟩
  exact both.2

/-- An invariant holds in every state of a run between transactions. -/
theorem Keeps.runAll (keeps : Keeps contract order holds) {submissions : List (Submission κ Views)}
    (follows : Follows order state submissions)
    (admitted : ∀ submission ∈ submissions, contract.admits submission.env)
    (inOrder : InOrder contract.rules state.account.storage)
    (start : holds state.block (flowOf state)) :
    InOrder contract.rules (Evm.runAll contract.exec state submissions).account.storage ∧
      holds (Evm.runAll contract.exec state submissions).block
        (flowOf (Evm.runAll contract.exec state submissions)) := by
  induction submissions generalizing state with
  | nil => exact ⟨inOrder, start⟩
  | cons submission rest inductionHypothesis =>
    obtain ⟨first, later⟩ := follows_cons contract.exec follows
    have path := path_commit inOrder (admitted submission List.mem_cons_self)
    have kept := keeps.path inOrder path (keeps.advance first start)
    refine inductionHypothesis later
      (fun other member => admitted other (List.mem_cons_of_mem _ member))
      (inOrder.path path) ?_
    rw [block_commit]
    exact kept

end Contract

/-! ### New coordinators -/

/-- The storage of a coordinator that was just initialized, but for its settings and the part of
its own. -/
structure Newborn (store : Coordinator terms β χ) : Prop where
  unlocked : store.entered = false
  nextRequestId : store.nextRequestId = 1
  requests : store.requests = fun _ => .blank
  refundCallbackDelivered : store.refundCallbackDelivered = fun _ => false
  servedRequestAt : store.servedRequestAt = fun _ => 0
  lastServedIndex : store.lastServedIndex = 0
  earnedFees : store.earnedFees = 0
  refundCredits : store.refundCredits = fun _ => 0
  totalRefundCredits : store.totalRefundCredits = 0
  keeperCredits : store.keeperCredits = fun _ => 0
  totalKeeperCredits : store.totalKeeperCredits = 0

theorem Newborn.inOrder {rules : Rules terms β χ} {store : Coordinator terms β χ}
    (newborn : Newborn store) (ext : rules.sound store.ext) : InOrder rules store := by
  refine ⟨?_, ?_, fun requestId _ => ⟨?_, ?_⟩, fun requestId delivered => ?_, ext⟩
  · rw [newborn.refundCredits, newborn.totalRefundCredits, Finset.sum_const_zero]
  · rw [newborn.keeperCredits, newborn.totalKeeperCredits, Finset.sum_const_zero]
  · rw [newborn.requests]
  · rw [newborn.refundCallbackDelivered]
  · rw [newborn.requests] at delivered
    exact absurd delivered Bool.false_ne_true

/-! ### The round coordinator -/

/-- A deployment of the round coordinator: its initialization went through and left `store`. -/
structure RoundDeployment where
  platform : Platform
  self : Address
  proofVerifier : Address
  block : Block
  params : InitParams
  beacon : BeaconRegistration
  env : Env RoundMessage Views
  gas : Nat
  balance : Nat
  store : RoundStore
  initialized : (RoundCoordinator.initializeProxy ⟨⟨platform, self, block⟩, proofVerifier⟩ params
    beacon env ⟨⟨(), balance⟩, some gas, 0, 0⟩).result = .ok store

namespace RoundDeployment

instance : Inhabited RoundDeployment where
  default := {
    platform := default
    self := ⟨1⟩
    proofVerifier := ⟨2⟩
    block := default
    params := ⟨(1, 2), ⟨3⟩, ⟨3⟩, ⟨3⟩, 5000, 1, 5, 300000⟩
    beacon := ⟨⟨4⟩, 1, [], 1, 3, 1, [0]⟩
    env := default
    gas := 10 ^ 7
    balance := 0
    store := _
    initialized := rfl }

variable (deployment : RoundDeployment)

/-- The context of the coordinator in a block. -/
def context (block : Block) : RoundContext :=
  ⟨⟨deployment.platform, deployment.self, block⟩, deployment.proofVerifier⟩

/-- The dispatcher of the coordinator. -/
def exec (block : Block) (depth : Nat) (message : RoundMessage) : RoundProgram Unit :=
  RoundCoordinator.exec (deployment.context block) depth message

/-- The events of the initialization. -/
def events : List Event :=
  (RoundCoordinator.initializeProxy (deployment.context deployment.block) deployment.params
    deployment.beacon deployment.env
    ⟨⟨(), deployment.balance⟩, some deployment.gas, 0, 0⟩).events

/-- The state after the initialization. -/
def initial : Committed RoundStore Event :=
  ⟨deployment.block, ⟨deployment.store, deployment.balance⟩,
    deployment.events.map fun event => (deployment.block, event)⟩

/-- The coordinator with the signatures that verifiers may accept. -/
def contract (accepts : StoredBeacon → Nat → Bytes → Prop) :
    Contract roundTerms RoundBinding RoundExtension RoundMessage where
  rules := roundRules accepts
  platform := deployment.platform
  self := deployment.self
  exec := deployment.exec
  admits := Hears accepts
  refines block depth message _ gas _ _ _ order hears reached :=
    RoundCoordinator.wp_exec (deployment.context block) depth message order hears reached ⟨gas, rfl⟩

/-- What the initialization of the round coordinator leaves. -/
structure Leaves (store : RoundStore) (events : List Event) : Prop where
  newborn : Newborn store
  backupKeepers : store.ext.backupKeepers = fun _ => false
  backupKeeperCount : store.ext.backupKeeperCount = 0
  admissible : deployment.beacon.Admissible deployment.platform .empty
  started : (BeaconBook.empty.enlist deployment.platform deployment.beacon).startWith
    deployment.block 0 = .ok store.ext.book
  logged : events = [.ownershipTransferred 0 deployment.params.owner,
    .pricingChanged deployment.params.minFee deployment.params.feeMultiplier
      deployment.params.fulfillGasOverhead,
    deployment.beacon.event deployment.platform .empty,
    .beaconScheduled 0 (deployment.block.timestamp % 2 ^ 64), .initialized 1]

/-- The initialization of the round coordinator. -/
theorem wp_initializeProxy :
    Tx.wp deployment.env (fun _ => True) (fun _ => True)
      (RoundCoordinator.initializeProxy (deployment.context deployment.block) deployment.params
        deployment.beacon)
      (fun store _ _ events => deployment.Leaves store events)
      ⟨(), deployment.balance⟩ (some deployment.gas) [] := by
  refine wp_bind (wp_revertIf (fun _ => trivial) fun _ => ?_)
  refine wp_bind (wp_emit (wp_bind (wp_revertIf (fun _ => trivial) fun _ => ?_)))
  split
  · exact wp_revert trivial
  · exact wp_bind (wp_revertIf (fun _ => trivial) fun _ => wp_revert trivial)
  · refine wp_bind (wp_revertIf (fun _ => trivial) fun _ => ?_)
    refine wp_bind (wp_revertIf (fun _ => trivial) fun _ => ?_)
    refine wp_bind (wp_emit (wp_bind ?_))
    refine BeaconBook.wp_registerBeacon
      ⟨fun _ => trivial, trivial, fun _ _ _ => trivial, fun _ _ _ _ => trivial⟩
      (fun _ _ _ _ _ _ _ => trivial) fun gas admissible => ?_
    refine wp_bind (Tx.wp_attempt (fun book started => ?_) fun _ _ => trivial)
    refine wp_bind (wp_emit (wp_bind ?_))
    refine Tx.wp_attempt (fun _ _ => ?_) fun _ _ => trivial
    refine wp_bind (wp_emit (Tx.wp_pure ?_))
    exact ⟨⟨rfl, rfl, rfl, rfl, rfl, rfl, rfl, rfl, rfl, rfl, rfl⟩, rfl, rfl, admissible, started,
      rfl⟩

theorem leaves : deployment.Leaves deployment.store deployment.events :=
  Tx.wp_of_ok deployment.wp_initializeProxy rfl rfl deployment.initialized

theorem inOrder (accepts : StoredBeacon → Nat → Bytes → Prop) :
    InOrder (roundRules accepts) deployment.store := by
  have leaves := deployment.leaves
  refine leaves.newborn.inOrder ?_
  show ∑ account, (deployment.store.ext.backupKeepers account).toNat = _
  rw [leaves.backupKeepers, leaves.backupKeeperCount]
  exact Finset.sum_const_zero

end RoundDeployment

/-! ### The epoch coordinator -/

/-- A deployment of the epoch coordinator against a registry that was deployed before and may have
been called since: its initialization went through and left `store`. -/
structure EpochDeployment where
  registry : RegistryDeployment
  earlier : List RegistrySubmission
  ordered : RegistryDeployment.Ordered registry.initial earlier
  block : Block
  later : (registry.runFrom registry.initial earlier).block.before block
  self : Address
  publicKey : Nat × Nat
  owner : Address
  recipient : Address
  fee : Nat
  confirmations : Nat
  keeperBps : Nat
  env : Env EpochMessage Views
  gas : Nat
  balance : Nat
  store : EpochStore
  initialized : (EpochCoordinator.initializeProxy ⟨registry.platform, self, block⟩
    (registry.runFrom registry.initial earlier).registry registry.self publicKey owner recipient fee
    confirmations keeperBps env ⟨⟨(), balance⟩, some gas, 0, 0⟩).result = .ok store

namespace EpochDeployment

instance : Inhabited EpochDeployment where
  default :=
    { registry := default
      earlier := []
      ordered := List.isChain_singleton _
      block := default
      later := ⟨Nat.le_refl _, Nat.le_refl _⟩
      self := ⟨2⟩
      publicKey := (1, 2)
      owner := ⟨3⟩
      recipient := ⟨3⟩
      fee := 1
      confirmations := 1
      keeperBps := 5000
      env := default
      gas := 1
      balance := 0
      store := _
      initialized := rfl }

variable (deployment : EpochDeployment)

/-- The registry when the coordinator is deployed. -/
def registryThen : EpochEntropy :=
  (deployment.registry.runFrom deployment.registry.initial deployment.earlier).registry

/-- The context of the coordinator in a block. -/
def context (block : Block) : Context := ⟨deployment.registry.platform, deployment.self, block⟩

/-- The dispatcher of the coordinator and of its registry. -/
def exec (block : Block) (depth : Nat) (message : EpochMessage) : EpochProgram Unit :=
  EpochCoordinator.exec (deployment.context block) depth message

/-- The events of the initialization. -/
def events : List Event :=
  (EpochCoordinator.initializeProxy (deployment.context deployment.block) deployment.registryThen
    deployment.registry.self deployment.publicKey deployment.owner deployment.recipient
    deployment.fee deployment.confirmations deployment.keeperBps deployment.env
    ⟨⟨(), deployment.balance⟩, some deployment.gas, 0, 0⟩).events

/-- The state after the initialization. -/
def initial : Committed EpochStore Event :=
  ⟨deployment.block, ⟨deployment.store, deployment.balance⟩,
    deployment.events.map fun event => (deployment.block, event)⟩

/-- The coordinator with its registry. -/
def contract : Contract epochTerms EpochBinding EpochExtension EpochMessage where
  rules := epochRules
  platform := deployment.registry.platform
  self := deployment.self
  exec := deployment.exec
  admits _ := True
  refines _ depth message _ gas _ _ _ order _ reached :=
    EpochCoordinator.wp_exec depth message order reached ⟨gas, rfl⟩

/-- What the initialization of the epoch coordinator leaves. -/
structure Leaves (store : EpochStore) (events : List Event) : Prop where
  newborn : Newborn store
  registry : store.ext.registry = deployment.registryThen
  epochRegistry : store.ext.epochRegistry = deployment.registry.self
  confirmations : store.ext.confirmationBlocks = deployment.confirmations
  confirmations_pos : 0 < deployment.confirmations
  logged : events = [.ownershipTransferred 0 deployment.owner, .initialized 1]

/-- The initialization of the epoch coordinator. -/
theorem wp_initializeProxy :
    Tx.wp deployment.env (fun _ => True) (fun _ => True)
      (EpochCoordinator.initializeProxy (deployment.context deployment.block)
        deployment.registryThen deployment.registry.self deployment.publicKey deployment.owner
        deployment.recipient deployment.fee deployment.confirmations deployment.keeperBps)
      (fun store _ _ events => deployment.Leaves store events)
      ⟨(), deployment.balance⟩ (some deployment.gas) [] := by
  refine wp_bind (wp_revertIf (fun _ => trivial) fun _ => ?_)
  refine wp_bind (wp_emit (wp_bind (wp_revertIf (fun _ => trivial) fun valid => ?_)))
  rw [not_or, not_or] at valid
  split
  · refine wp_bind (Tx.wp_observe fun _ => ?_)
    refine wp_bind (wp_revertIf (fun _ => trivial) fun _ => ?_)
    refine wp_bind (wp_revertIf (fun _ => trivial) fun _ => ?_)
    refine wp_bind (Tx.wp_staticCall (fun _ => trivial) fun _ _ _ => ?_)
    refine wp_bind (wp_revertIf (fun _ => trivial) fun _ => ?_)
    refine wp_bind (Tx.wp_staticCall (fun _ => trivial) fun _ _ _ => ?_)
    refine wp_bind (wp_revertIf (fun _ => trivial) fun _ => ?_)
    refine wp_bind (wp_emit (Tx.wp_pure ?_))
    exact ⟨⟨rfl, rfl, rfl, rfl, rfl, rfl, rfl, rfl, rfl, rfl, rfl⟩, rfl, rfl, rfl,
      Nat.pos_of_ne_zero valid.2.1, rfl⟩
  · exact wp_revert trivial

theorem leaves : deployment.Leaves deployment.store deployment.events :=
  Tx.wp_of_ok deployment.wp_initializeProxy rfl rfl deployment.initialized

theorem inOrder : InOrder epochRules deployment.store :=
  deployment.leaves.newborn.inOrder trivial

end EpochDeployment

end D20
