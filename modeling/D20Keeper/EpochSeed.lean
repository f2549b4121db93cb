/-
This file is about the seeds of the requests of the epoch coordinator.

A seed hashes the target block of its request and the hash of that block. The
target is found on three paths: at the request when the epoch is published
already, from the registry when it is published later, and from the storage once
someone stored the block hash. `Bound` says that all of them agree with the record
of the epoch, which the registry never changes, so a seed that can be computed is
the same ever after.
-/

import D20Keeper.Requests

namespace D20

open Evm

namespace EpochCoordinator

/-! ### Targets -/

/-- A target is at or after the request and after the commitment. -/
theorem target_eq_ok {requestBlock committedBlock targetBlock : Nat}
    (targets : target requestBlock committedBlock = .ok targetBlock) :
    requestBlock ≤ targetBlock ∧ committedBlock < targetBlock := by
  obtain ⟨future, sums, chosen⟩ := ok_of_bind targets
  obtain ⟨rfl, -⟩ := checkedAdd_eq_ok sums
  rw [← Except.ok.inj chosen]
  split <;> omega

/-- The target and the epoch hash that the record of its epoch gives a request. -/
structure Resolves (registry : EpochEntropy) (r : StoredRequest EpochBinding)
    (resolved : Nat × Bytes32) : Prop where
  published : resolved.2 ≠ 0
  epochHash : (registry.getEpoch r.binding.epochId).epochHash = resolved.2
  targets : target r.requestBlock (registry.getEpoch r.binding.epochId).committedBlock =
    .ok resolved.1

theorem Resolves.unique {registry : EpochEntropy} {r : StoredRequest EpochBinding}
    {first second : Nat × Bytes32} (one : Resolves registry r first)
    (two : Resolves registry r second) : first = second :=
  Prod.ext (Except.ok.inj (one.targets.symm.trans two.targets))
    (one.epochHash.symm.trans two.epochHash)

/-- A record that resolves a request does so ever after. -/
theorem Resolves.grows {before after : EpochEntropy} {r later : StoredRequest EpochBinding}
    {resolved : Nat × Bytes32} (resolves : Resolves before r resolved)
    (grows : EpochEntropy.Grows before after)
    (epochId : later.binding.epochId = r.binding.epochId)
    (requestBlock : later.requestBlock = r.requestBlock) : Resolves after later resolved := by
  have record : after.getEpoch later.binding.epochId = before.getEpoch r.binding.epochId := by
    rw [epochId]
    refine grows.epochs r.binding.epochId ?_
    show (before.getEpoch r.binding.epochId).epochHash ≠ 0
    rw [resolves.epochHash]
    exact resolves.published
  refine ⟨resolves.published, ?_, ?_⟩
  · rw [record]
    exact resolves.epochHash
  · rw [record, requestBlock]
    exact resolves.targets

/-! ### Bindings agree with the registry and the chain -/

/-- What a binding holds agrees with the record of its epoch and with the chain. -/
structure Bound (canonical : Nat → Bytes32) (registry : EpochEntropy)
    (r : StoredRequest EpochBinding) : Prop where
  resolves : r.binding.epochHash ≠ 0 →
    Resolves registry r (r.binding.targetBlock, r.binding.epochHash)
  hashed : r.binding.blockHash ≠ 0 →
    r.binding.epochHash ≠ 0 ∧ r.binding.blockHash = canonical r.binding.targetBlock

variable {canonical : Nat → Bytes32} {registry : EpochEntropy} {r : StoredRequest EpochBinding}
  {resolved : Nat × Bytes32}

/-- Whatever path resolves a request, its epoch's record gives the same. -/
theorem Bound.resolves_of_resolution (bound : Bound canonical registry r)
    (resolves : resolution registry r = .ok resolved) (published : resolved.2 ≠ 0) :
    Resolves registry r resolved := by
  unfold resolution at resolves
  split at resolves
  · rename_i stored
    rw [← Except.ok.inj resolves]
    exact bound.resolves stored
  · split at resolves
    · rw [← Except.ok.inj resolves] at published
      exact absurd rfl published
    · obtain ⟨targetBlock, targets, done⟩ := ok_of_bind resolves
      rw [← Except.ok.inj done] at published ⊢
      exact ⟨published, rfl, targets⟩

/-- What the record of its epoch gives a request is what it is resolved to. -/
theorem Bound.resolution_eq (bound : Bound canonical registry r)
    (resolves : Resolves registry r resolved) : resolution registry r = .ok resolved := by
  unfold resolution
  split
  · rename_i stored
    rw [(bound.resolves stored).unique resolves]
  · rw [if_neg (resolves.epochHash ▸ resolves.published), resolves.targets, resolves.epochHash]
    rfl

/-- The block hash of a request, stored or read now, is the chain's. -/
theorem Bound.hashOf_eq {context : Context} (bound : Bound context.platform.canonical registry r)
    (resolves : resolution registry r = .ok resolved)
    (available : hashOf context r.binding resolved.1 ≠ 0) :
    hashOf context r.binding resolved.1 = context.platform.canonical resolved.1 := by
  unfold hashOf at available ⊢
  split
  · rename_i unstored
    rw [if_pos unstored] at available
    exact blockhash_eq_canonical available
  · rename_i stored
    obtain ⟨epochHash, hash⟩ := bound.hashed stored
    rw [resolution_of_stored epochHash] at resolves
    rw [← Except.ok.inj resolves]
    exact hash

theorem Bound.grows {later : EpochEntropy} (bound : Bound canonical registry r)
    (grows : EpochEntropy.Grows registry later) : Bound canonical later r :=
  ⟨fun stored => (bound.resolves stored).grows grows rfl rfl, bound.hashed⟩

/-- Agreement is about the binding and the block of the request only. -/
theorem Bound.of_same {later : StoredRequest EpochBinding} (bound : Bound canonical registry r)
    (binding : later.binding = r.binding) (requestBlock : later.requestBlock = r.requestBlock) :
    Bound canonical registry later := by
  refine ⟨fun stored => ?_, fun stored => ?_⟩
  · rw [binding] at stored ⊢
    exact (bound.resolves stored).grows (.refl registry) (by rw [binding]) requestBlock
  · rw [binding] at stored ⊢
    exact bound.hashed stored

/-- A completed binding agrees. -/
theorem Bound.completed {context : Context} {store : EpochStore} {requestId : Nat}
    {binding : EpochBinding} {events : List Event}
    (bound : Bound context.platform.canonical store.ext.registry (store.requests requestId))
    (completed : Completed context store requestId binding events)
    (later : StoredRequest EpochBinding) (bindingIs : later.binding = binding)
    (requestBlock : later.requestBlock = (store.requests requestId).requestBlock) :
    Bound context.platform.canonical store.ext.registry later := by
  have resolves := bound.resolves_of_resolution completed.resolved completed.epochHash_ne
  have hash : binding.blockHash = context.platform.canonical binding.targetBlock := by
    rw [completed.blockHash]
    exact bound.hashOf_eq completed.resolved (completed.blockHash ▸ completed.blockHash_ne)
  refine ⟨fun _ => ?_, fun _ => ?_⟩
  · rw [bindingIs]
    exact resolves.grows (.refl _) (by rw [bindingIs, completed.epochId]) requestBlock
  · rw [bindingIs]
    exact ⟨completed.epochHash_ne, hash⟩

/-- The binding of a new request agrees. -/
theorem Bound.assigned {context : Context} {before : EpochBinding}
    (fresh : before.blockHash = 0) (assigned : Assigned context registry before r.binding)
    (requestBlock : r.requestBlock = context.block.number % 2 ^ 64) :
    Bound canonical registry r := by
  refine ⟨fun stored => ⟨stored, assigned.epochHash.symm, ?_⟩, fun stored => ?_⟩
  · have targets := assigned.targetBlock
    rw [if_neg (assigned.epochHash ▸ stored)] at targets
    rw [requestBlock]
    exact targets
  · exact absurd (assigned.blockHash.trans fresh) stored

/-! ### Steps -/

section Steps

variable {context : Context} {flow next : Flow epochTerms EpochBinding EpochExtension}

/-- The registry only grows. -/
theorem registry_grows (step : Step epochRules context flow next) :
    EpochEntropy.Grows flow.store.ext.registry next.store.ext.registry := by
  rcases step.ext_cases with same | ⟨⟨events, ⟨views, sender, call, calls, ran, -⟩, -⟩, -⟩
  · rw [same]
    exact .refl _
  · exact (EpochEntropy.run_moves ran).grows

/-- A request stays in its epoch. -/
theorem epochId_eq (step : Step epochRules context flow next) {requestId : Nat}
    (made : requestId < flow.store.nextRequestId) :
    (next.store.requests requestId).binding.epochId =
      (flow.store.requests requestId).binding.epochId := by
  rcases step.binding_cases made with same | ⟨events, completed⟩
  · rw [same]
  · exact completed.epochId

/-- Every step keeps bindings in agreement. -/
theorem bound_step (order : InOrder epochRules flow.store)
    (step : Step epochRules context flow next)
    (bound : ∀ requestId, Bound context.platform.canonical flow.store.ext.registry
      (flow.store.requests requestId)) (requestId : Nat) :
    Bound context.platform.canonical next.store.ext.registry (next.store.requests requestId) := by
  rcases step.ext_cases with same | ⟨-, requests, -⟩
  · rw [same]
    by_cases earlier : requestId < flow.store.nextRequestId
    · have requestBlock := (step.ages earlier).requestBlock
      rcases step.binding_cases earlier with binding | ⟨events, completed⟩
      · exact (bound requestId).of_same binding requestBlock
      · exact (bound requestId).completed completed _ rfl requestBlock
    · by_cases made : requestId < next.store.nextRequestId
      · rcases step.made_cases made with before | ⟨rfl, creation, events, record, assigned, -⟩
        · exact absurd before earlier
        · rw [record]
          refine Bound.assigned ?_ assigned rfl
          rw [(order.fresh _ (Nat.le_of_not_lt earlier)).1]
          rfl
      · rw [((order.step step).fresh requestId (Nat.le_of_not_lt made)).1]
        exact ⟨fun stored => absurd rfl stored, fun stored => absurd rfl stored⟩
  · rw [requests]
    exact (bound requestId).grows (registry_grows step)

/-- The record of an epoch that a block publishes names its number. -/
theorem committedBlock_of_path (path : Path epochRules context flow next) {epochId : Nat}
    (unpublished : (flow.store.ext.registry.getEpoch epochId).epochHash = 0)
    (published : (next.store.ext.registry.getEpoch epochId).epochHash ≠ 0) :
    (next.store.ext.registry.getEpoch epochId).committedBlock = context.block.number := by
  refine path.preserves (fun later =>
      (later.store.ext.registry.getEpoch epochId).epochHash ≠ 0 →
      (later.store.ext.registry.getEpoch epochId).committedBlock = context.block.number)
    (fun middle later step named there => ?_) (fun there => absurd unpublished there) published
  by_cases before : (middle.store.ext.registry.getEpoch epochId).epochHash = 0
  · rcases step.ext_cases with same | ⟨⟨events, ⟨views, sender, call, calls, ran, -⟩, -⟩, -⟩
    · rw [same] at there
      exact absurd before there
    · exact (EpochEntropy.run_moves ran).published before there
  · have kept : later.store.ext.registry.getEpoch epochId =
        middle.store.ext.registry.getEpoch epochId := (registry_grows step).epochs epochId before
    rw [kept]
    exact named before

/-! ### Seeds -/

/-- The seed that a request has, by the record of its epoch and by the chain. -/
def Seeded (context : Context) (store : EpochStore) (requestId seed : Nat) : Prop :=
  ∃ resolved, Resolves store.ext.registry (store.requests requestId) resolved ∧
    seed = seedOf context store requestId resolved (context.platform.canonical resolved.1)

theorem Seeded.unique {store : EpochStore} {requestId first second : Nat}
    (one : Seeded context store requestId first) (two : Seeded context store requestId second) :
    first = second := by
  obtain ⟨resolved, resolves, rfl⟩ := one
  obtain ⟨resolved', resolves', rfl⟩ := two
  rw [resolves.unique resolves']

/-- A request keeps its seed. -/
theorem Seeded.step {requestId seed : Nat} (made : requestId < flow.store.nextRequestId)
    (step : Step epochRules context flow next)
    (seeded : Seeded context flow.store requestId seed) :
    Seeded context next.store requestId seed := by
  obtain ⟨resolved, resolves, rfl⟩ := seeded
  have ages := step.ages made
  have epochId := epochId_eq step made
  refine ⟨resolved, resolves.grows (registry_grows step) epochId ages.requestBlock, ?_⟩
  unfold seedOf
  dsimp only
  rw [step.keyHash_eq, ages.consumer, ages.clientSeed, ages.mappingHash, ages.requestBlock,
    epochId]

/-- A fulfillment accepts a proof of the seed of its request only. -/
theorem seeded_of_accepts {store : EpochStore} {requestId : Nat} {proof : Proof}
    {randomness transcript : Bytes32}
    (bound : Bound context.platform.canonical store.ext.registry (store.requests requestId))
    (accepts : Accepts context store requestId proof randomness transcript) :
    Seeded context store requestId proof.seed := by
  refine ⟨_, bound.resolves accepts.epochHash_ne, ?_⟩
  rw [accepts.seed, (bound.hashed accepts.blockHash_ne).2]

/-- What `requestSeed` returns is the seed of the request. -/
theorem seeded_of_requestSeed {requestId seed : Nat} {env : Env EpochMessage Views}
    {world : World EpochStore}
    (bound : Bound context.platform.canonical world.account.storage.ext.registry
      (world.account.storage.requests requestId))
    (returned : (requestSeed context requestId env world).result = .ok seed) :
    (world.account.storage.requests requestId).consumer ≠ 0 ∧
      Seeded context world.account.storage requestId seed := by
  have spec : Tx.wp env (fun _ => True) (fun _ => True) (requestSeed context requestId)
      (fun seed _ _ _ => (world.account.storage.requests requestId).consumer ≠ 0 ∧
        Seeded context world.account.storage requestId seed) world.account world.gas [] := by
    refine Tx.wp_bind (Tx.wp_bind (Tx.wp_storage ?_))
    refine Tx.wp_bind (Tx.wp_revertIf (fun _ => trivial) fun known => Tx.wp_pure (Tx.wp_bind ?_))
    refine wp_resolvedBlockHash (fun _ _ _ _ => trivial) (fun _ _ => trivial)
      fun resolved gas spent resolves published confirmed available => ?_
    refine wp_seed (fun _ _ _ _ => trivial) (fun _ _ => trivial) fun again gas' resolves' => ?_
    obtain rfl : resolved = again := Except.ok.inj (resolves.symm.trans resolves')
    rw [bound.hashOf_eq resolves available]
    exact ⟨known, resolved, bound.resolves_of_resolution resolves published, rfl⟩
  exact Tx.wp_of_ok spec rfl rfl returned

end Steps

end EpochCoordinator

/-! ### Runs -/

namespace EpochDeployment

variable (deployment : EpochDeployment)

variable (submissions : List (Submission EpochMessage Views))

/-- The state after transactions. -/
def stateAfter :
    Committed EpochStore Event :=
  runAll deployment.exec deployment.initial submissions

/-- The registry after transactions. -/
def registryAfter : EpochEntropy :=
  (deployment.stateAfter submissions).account.storage.ext.registry

/-- The seed of a request as `requestSeed` returns it after transactions, in some block. -/
def SeedAfter (requestId seed : Nat) : Prop :=
  ∃ block env gas, (EpochCoordinator.requestSeed (deployment.context block) requestId env
    ⟨(deployment.stateAfter submissions).account, gas, 0, 0⟩).result = .ok seed

/-- A transaction in a block makes a request. -/
def RequestedIn (requestId : Nat) (block : Block) : Prop :=
  ∃ before submission after, submissions = before ++ submission :: after ∧
    submission.block = block ∧
    (deployment.stateAfter before).account.storage.nextRequestId ≤ requestId ∧
    requestId < (deployment.stateAfter (before ++ [submission])).account.storage.nextRequestId

/-- A transaction in a block, before or after the deployment of the coordinator, writes the record
of an epoch. -/
def CommittedIn (submissions : List (Submission EpochMessage Views)) (epochId : Nat)
    (block : Block) : Prop :=
  deployment.registry.CommittedIn deployment.earlier epochId block ∨
  ∃ before submission after, submissions = before ++ submission :: after ∧
    submission.block = block ∧
    ((deployment.registryAfter before).getEpoch epochId).epochHash = 0 ∧
    ((deployment.registryAfter (before ++ [submission])).getEpoch epochId).epochHash ≠ 0

/-- The seed of a request, with the context of the deployment; a seed does not depend on the
block. -/
def HasSeed (store : EpochStore) (requestId seed : Nat) : Prop :=
  EpochCoordinator.Seeded (deployment.context deployment.block) store requestId seed

/-- Bindings agree with the registry and the chain, and every proof that was verified was one of the
seed of its request. -/
structure SeedsKept (flow : Flow epochTerms EpochBinding EpochExtension) : Prop where
  bound : ∀ requestId, EpochCoordinator.Bound deployment.registry.platform.canonical
    flow.store.ext.registry (flow.store.requests requestId)
  verified : ∀ block requestId keyHash seed proofHash,
    (block, Event.proofVerified requestId keyHash seed proofHash) ∈ flow.logs →
    requestId < flow.store.nextRequestId ∧ deployment.HasSeed flow.store requestId seed

/-- What a state fixes for later ones: the requests with their epochs and seeds, and the records of
the registry. -/
structure Fixes (before after : EpochStore) : Prop where
  nextRequestId : before.nextRequestId ≤ after.nextRequestId
  grows : EpochEntropy.Grows before.ext.registry after.ext.registry
  ages : ∀ requestId < before.nextRequestId,
    Ages (before.requests requestId) (after.requests requestId)
  epochId : ∀ requestId < before.nextRequestId,
    (after.requests requestId).binding.epochId = (before.requests requestId).binding.epochId
  seeds : ∀ requestId < before.nextRequestId, ∀ seed, deployment.HasSeed before requestId seed →
    deployment.HasSeed after requestId seed

variable {deployment} {block : Block} {flow next : Flow epochTerms EpochBinding EpochExtension}
  {requestId seed : Nat}

theorem HasSeed.of_seeded {store : EpochStore}
    (seeded : EpochCoordinator.Seeded (deployment.context block) store requestId seed) :
    deployment.HasSeed store requestId seed := seeded

theorem HasSeed.step (made : requestId < flow.store.nextRequestId)
    (step : Step epochRules (deployment.context block) flow next)
    (seeded : deployment.HasSeed flow.store requestId seed) :
    deployment.HasSeed next.store requestId seed := by
  have here : EpochCoordinator.Seeded (deployment.context block) flow.store requestId seed := seeded
  exact .of_seeded (here.step made step)

theorem keeps_seedsKept :
    deployment.contract.Keeps (fun _ _ => True) fun _ flow => deployment.SeedsKept flow where
  step := by
    intro block flow next step order kept
    refine ⟨EpochCoordinator.bound_step order step kept.bound, ?_⟩
    intro block' requestId keyHash seed proofHash member
    rcases step.verified_cases member with old | ⟨outturn, fulfills, rfl⟩
    · obtain ⟨made, seeded⟩ := kept.verified _ _ _ _ _ old
      exact ⟨made.trans_le step.nextRequestId_le, seeded.step made step⟩
    · have made := order.lt_of_known fulfills.known
      have seeded : deployment.HasSeed flow.store requestId outturn.proof.seed := .of_seeded
        (EpochCoordinator.seeded_of_accepts (kept.bound requestId) fulfills.accepted)
      exact ⟨made.trans_le step.nextRequestId_le, seeded.step made step⟩
  advance _ kept := kept

theorem Fixes.refl (store : EpochStore) : deployment.Fixes store store :=
  ⟨Nat.le_refl _, .refl _, fun _ _ => .refl _, fun _ _ => rfl, fun _ _ _ => id⟩

theorem keeps_fixes (start : EpochStore) :
    deployment.contract.Keeps (fun _ _ => True) fun _ flow => deployment.Fixes start flow.store where
  step := by
    intro block flow next step order fixes
    have still : ∀ {requestId}, requestId < start.nextRequestId →
        requestId < flow.store.nextRequestId := fun made => made.trans_le fixes.nextRequestId
    exact ⟨fixes.nextRequestId.trans step.nextRequestId_le,
      fixes.grows.trans (EpochCoordinator.registry_grows step),
      fun requestId made => (fixes.ages requestId made).trans (step.ages (still made)),
      fun requestId made => (EpochCoordinator.epochId_eq step (still made)).trans
        (fixes.epochId requestId made),
      fun requestId made seed seeded =>
        (fixes.seeds requestId made seed seeded).step (still made) step⟩
  advance _ fixes := fixes

variable {submissions : List (Submission EpochMessage Views)}

variable (deployment) in
theorem inOrder_stateAfter (submissions : List (Submission EpochMessage Views)) :
    InOrder epochRules (deployment.stateAfter submissions).account.storage :=
  ((keeps_fixes _).runAll (follows_true deployment.initial submissions) (fun _ _ => trivial)
    deployment.inOrder (Fixes.refl _)).1

variable (deployment) in
/-- A state fixes these for every state after it. -/
theorem fixes_append (submissions more : List (Submission EpochMessage Views)) :
    deployment.Fixes (deployment.stateAfter submissions).account.storage
      (deployment.stateAfter (submissions ++ more)).account.storage := by
  unfold stateAfter
  rw [runAll_append]
  exact ((keeps_fixes _).runAll (follows_true _ more) (fun _ _ => trivial)
    (deployment.inOrder_stateAfter submissions) (Fixes.refl _)).2

variable (deployment) in
/-- Whatever is sent later to the coordinator or to its registry, what the registry has registered,
anchored or recorded stays, and a request keeps its epoch and what it was made with. -/
theorem epochs_and_requests_kept (sent more : List (Submission EpochMessage Views)) :
    EpochEntropy.Grows (deployment.stateAfter sent).account.storage.ext.registry
      (deployment.stateAfter (sent ++ more)).account.storage.ext.registry ∧
    ∀ requestId < (deployment.stateAfter sent).account.storage.nextRequestId,
      ((deployment.stateAfter (sent ++ more)).account.storage.requests requestId).binding.epochId =
        ((deployment.stateAfter sent).account.storage.requests requestId).binding.epochId ∧
      Ages ((deployment.stateAfter sent).account.storage.requests requestId)
        ((deployment.stateAfter (sent ++ more)).account.storage.requests requestId) := by
  have fixes := deployment.fixes_append sent more
  exact ⟨fixes.grows, fun requestId made =>
    ⟨fixes.epochId requestId made, fixes.ages requestId made⟩⟩

theorem seedsKept_initial : deployment.SeedsKept (flowOf deployment.initial) := by
  have leaves := deployment.leaves
  refine ⟨fun requestId => ?_, fun block requestId keyHash seed proofHash member => ?_⟩
  · show EpochCoordinator.Bound _ _ (deployment.store.requests requestId)
    rw [leaves.newborn.requests]
    exact ⟨fun stored => absurd rfl stored, fun stored => absurd rfl stored⟩
  · have among : (block, Event.proofVerified requestId keyHash seed proofHash) ∈
        deployment.events.map fun event => (deployment.block, event) := member
    rw [leaves.logged] at among
    simp at among

variable (deployment) in
theorem seedsKept_stateAfter (submissions : List (Submission EpochMessage Views)) :
    deployment.SeedsKept (flowOf (deployment.stateAfter submissions)) :=
  (keeps_seedsKept.runAll (follows_true deployment.initial submissions) (fun _ _ => trivial)
    deployment.inOrder seedsKept_initial).2

/-- What `requestSeed` returns after transactions is the seed of a request that was made. -/
theorem hasSeed_of_seedAfter (after : deployment.SeedAfter submissions requestId seed) :
    ((deployment.stateAfter submissions).account.storage.requests requestId).consumer ≠ 0 ∧
      deployment.HasSeed (deployment.stateAfter submissions).account.storage requestId seed := by
  obtain ⟨block, env, gas, returned⟩ := after
  obtain ⟨known, seeded⟩ := EpochCoordinator.seeded_of_requestSeed
    ((deployment.seedsKept_stateAfter submissions).bound requestId) returned
  exact ⟨known, .of_seeded seeded⟩

theorem made_of_seedAfter (after : deployment.SeedAfter submissions requestId seed) :
    requestId < (deployment.stateAfter submissions).account.storage.nextRequestId :=
  (deployment.inOrder_stateAfter submissions).lt_of_known (hasSeed_of_seedAfter after).1

/-! ### The blocks of requests and of commitments -/

theorem stateAfter_concat (before : List (Submission EpochMessage Views))
    (submission : Submission EpochMessage Views) :
    deployment.stateAfter (before ++ [submission]) =
      submission.commit deployment.exec (deployment.stateAfter before) :=
  runAll_append deployment.exec before [submission]

/-- A transaction is a path in its block. -/
theorem path_stateAfter (before : List (Submission EpochMessage Views))
    (submission : Submission EpochMessage Views) :
    Path epochRules (deployment.context submission.block) (flowOf (deployment.stateAfter before))
      (flowOf (deployment.stateAfter (before ++ [submission]))) := by
  have path : Path deployment.contract.rules (deployment.contract.context submission.block) _
      (flowOf (submission.commit deployment.contract.exec _)) :=
    Contract.path_commit (deployment.inOrder_stateAfter before) trivial
  rw [stateAfter_concat]
  exact path

theorem requestBlock_of_requestedIn
    (requested : deployment.RequestedIn submissions requestId block) :
    ((deployment.stateAfter submissions).account.storage.requests requestId).requestBlock =
      block.number := by
  obtain ⟨before, submission, after, rfl, rfl, unmade, made⟩ := requested
  have named := requestBlock_of_path (path_stateAfter before submission) unmade made
  rw [List.append_cons, ((deployment.fixes_append (before ++ [submission]) after).ages requestId
    made).requestBlock]
  exact named

/-- A request that can be used was made by a transaction of the run. -/
theorem exists_requestedIn (known :
    ((deployment.stateAfter submissions).account.storage.requests requestId).consumer ≠ 0) :
    ∃ block, deployment.RequestedIn submissions requestId block := by
  have made := (deployment.inOrder_stateAfter submissions).lt_of_known known
  have unmade : ¬ requestId < deployment.initial.account.storage.nextRequestId := by
    intro early
    have kept := (deployment.fixes_append [] submissions).ages requestId early
    have blank : (deployment.initial.account.storage.requests requestId).consumer = 0 :=
      congrArg (fun requests => (requests requestId).consumer) deployment.leaves.newborn.requests
    exact known (kept.consumer.trans blank)
  obtain ⟨before, submission, after, split, earlier, later⟩ :=
    exists_turn (fun state : Committed EpochStore Event =>
      requestId < state.account.storage.nextRequestId) unmade made
  refine ⟨submission.block, before, submission, after, split, rfl, Nat.le_of_not_lt earlier, ?_⟩
  rw [stateAfter_concat]
  exact later

theorem registryAfter_nil : deployment.registryAfter [] =
    (deployment.registry.runFrom deployment.registry.initial deployment.earlier).registry :=
  deployment.leaves.registry

theorem committedBlock_of_committedIn {epochId : Nat}
    (committed : deployment.CommittedIn submissions epochId block) :
    ((deployment.registryAfter submissions).getEpoch epochId).committedBlock = block.number := by
  rcases committed with earlier | ⟨before, submission, after, rfl, rfl, unpublished, published⟩
  · obtain ⟨published, named⟩ := RegistryDeployment.committedBlock_of_committedIn earlier
    rw [← registryAfter_nil] at published named
    have kept : (deployment.registryAfter submissions).getEpoch epochId =
        (deployment.registryAfter []).getEpoch epochId :=
      (deployment.fixes_append [] submissions).grows.epochs epochId published
    rw [kept]
    exact named
  · have named := EpochCoordinator.committedBlock_of_path (path_stateAfter before submission)
      unpublished published
    have kept : (deployment.registryAfter ((before ++ [submission]) ++ after)).getEpoch epochId =
        (deployment.registryAfter (before ++ [submission])).getEpoch epochId :=
      (deployment.fixes_append (before ++ [submission]) after).grows.epochs epochId published
    rw [List.append_cons, kept]
    exact named

/-- A record that the registry holds was written by a transaction. -/
theorem exists_committedIn {epochId : Nat}
    (published : ((deployment.registryAfter submissions).getEpoch epochId).epochHash ≠ 0) :
    ∃ block, deployment.CommittedIn submissions epochId block := by
  by_cases earlier : ((deployment.registryAfter []).getEpoch epochId).epochHash = 0
  · obtain ⟨before, submission, after, split, unpublished, there⟩ := exists_turn
      (fun state : Committed EpochStore Event =>
        (state.account.storage.ext.registry.getEpoch epochId).epochHash ≠ 0)
      (not_not.mpr earlier) published
    refine ⟨submission.block, .inr ⟨before, submission, after, split, rfl, not_not.mp unpublished,
      ?_⟩⟩
    unfold registryAfter
    rw [stateAfter_concat]
    exact there
  · rw [registryAfter_nil] at earlier
    obtain ⟨block, committed⟩ := RegistryDeployment.exists_committedIn earlier
    exact ⟨block, .inl committed⟩

/-! ### Seeds are fixed and fresh -/

variable (deployment) in
/-- The seed of a request is the same in all states of a run in which it can be computed, and the
block whose hash enters it is at or after the request's block and after that of the commitment of
its epoch. -/
structure SeedFixed (submissions : List (Submission EpochMessage Views)) (requestId : Nat) :
    Prop where
  fixed : ∀ {first second seed seed'}, first <+: submissions → second <+: submissions →
    deployment.SeedAfter first requestId seed → deployment.SeedAfter second requestId seed' →
    seed = seed'
  verified : ∀ {done seed block keyHash seed' proofHash}, done <+: submissions →
    deployment.SeedAfter done requestId seed →
    (block, Event.proofVerified requestId keyHash seed' proofHash) ∈
      (deployment.stateAfter submissions).logs → seed = seed'
  fresh : ∀ {done seed}, done <+: submissions → deployment.SeedAfter done requestId seed →
    ∃ targetBlock epochHash,
      EpochCoordinator.resolution (deployment.registryAfter done)
        ((deployment.stateAfter done).account.storage.requests requestId) =
          .ok (targetBlock, epochHash) ∧
      seed = EpochCoordinator.seedOf (deployment.context deployment.block)
        (deployment.stateAfter done).account.storage requestId (targetBlock, epochHash)
        (deployment.registry.platform.canonical targetBlock) ∧
      (∃ block, deployment.RequestedIn done requestId block) ∧
      (∀ block, deployment.RequestedIn done requestId block → block.number ≤ targetBlock) ∧
      (∃ block, deployment.CommittedIn done ((deployment.stateAfter
        done).account.storage.requests requestId).binding.epochId block) ∧
      ∀ block, deployment.CommittedIn done ((deployment.stateAfter
        done).account.storage.requests requestId).binding.epochId block → block.number < targetBlock

/-- The seed of a request after some transactions is its seed after more of them. -/
theorem hasSeed_of_prefix {done : List (Submission EpochMessage Views)}
    (earlier : done <+: submissions) (after : deployment.SeedAfter done requestId seed) :
    deployment.HasSeed (deployment.stateAfter submissions).account.storage requestId seed := by
  obtain ⟨more, rfl⟩ := earlier
  exact (deployment.fixes_append done more).seeds requestId (made_of_seedAfter after) seed
    (hasSeed_of_seedAfter after).2

end EpochDeployment

/-- The seed of every request of the epoch coordinator is fixed and fresh in every run. -/
theorem epoch_seed_fixed (deployment : EpochDeployment)
    (submissions : List (Submission EpochMessage Views)) (requestId : Nat) :
    deployment.SeedFixed submissions requestId := by
  refine ⟨fun earlier earlier' after after' => ?_, fun earlier after member => ?_,
    fun {done seed} earlier after => ?_⟩
  · exact (EpochDeployment.hasSeed_of_prefix earlier after).unique
      (EpochDeployment.hasSeed_of_prefix earlier' after')
  · exact (EpochDeployment.hasSeed_of_prefix earlier after).unique
      ((deployment.seedsKept_stateAfter submissions).verified _ _ _ _ _ member).2
  · obtain ⟨known, ⟨targetBlock, epochHash⟩, resolves, seedIs⟩ :=
      EpochDeployment.hasSeed_of_seedAfter after
    have bound := (deployment.seedsKept_stateAfter done).bound requestId
    obtain ⟨atRequest, afterCommit⟩ := EpochCoordinator.target_eq_ok resolves.targets
    have published : ((deployment.registryAfter done).getEpoch ((deployment.stateAfter
        done).account.storage.requests requestId).binding.epochId).epochHash ≠ 0 :=
      resolves.epochHash ▸ resolves.published
    refine ⟨targetBlock, epochHash, bound.resolution_eq resolves, seedIs,
      EpochDeployment.exists_requestedIn known, fun block requested => ?_,
      EpochDeployment.exists_committedIn published, fun block committed => ?_⟩
    · rw [← EpochDeployment.requestBlock_of_requestedIn requested]
      exact atRequest
    · rw [← EpochDeployment.committedBlock_of_committedIn committed]
      exact afterCommit

/-- A request and the commitment of its epoch, in the first block of the epoch. -/
def sampleRequested : List (Submission EpochMessage Views) :=
  [⟨RegistryDeployment.sampleBlock, default, 1, 1, 0,
      .coordinator ⟨⟨5⟩, 1⟩ (.requestRandomness 0 50000 ⟨4⟩)⟩,
    ⟨RegistryDeployment.sampleBlock, default, 1, 1, 0,
      .registry ⟨3⟩ RegistryDeployment.sampleCommit⟩]

/-- The seed of the request can be computed once its target, the block after the commitment, has a
hash. -/
theorem epoch_seed_fixed_sample :
    (default : EpochDeployment).SeedAfter sampleRequested 1 1 ∧
      EpochCoordinator.resolution (EpochDeployment.registryAfter default sampleRequested)
        ((EpochDeployment.stateAfter default sampleRequested).account.storage.requests 1) =
          .ok (202, 1) ∧
      EpochDeployment.SeedFixed default sampleRequested 1 := by
  refine ⟨⟨⟨203, 1, 0, by decide, by decide⟩, default, none, ?_⟩, ?_, epoch_seed_fixed default _ 1⟩
  · decide +kernel
  · decide +kernel

end D20
