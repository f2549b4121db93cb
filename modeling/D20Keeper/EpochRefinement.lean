/-
This file shows that the epoch coordinator takes only steps of the abstract
machine. The registry is part of its state, so a call to the registry, by anyone
and at any time, is a step of the part of the storage that is its own.

A request's binding is completed once, when its block hash is stored. Which
target and which epoch record that uses is a function of the registry and of the
stored binding, `resolution`.
-/

import D20Keeper.EpochCoordinator
import D20Keeper.Refinement

namespace D20

open Evm
open Tx (wp_bind wp_pure wp_storage wp_write wp_ite wp_revertIf wp_mono wp_staticCall)

/-! ### Rules -/

namespace EpochCoordinator

/-- What `_resolvedEpoch` computes: the stored target and epoch hash of a request, or those its
epoch's record gives now, or zeros while there is no record. -/
def resolution (registry : EpochEntropy) (r : StoredRequest EpochBinding) :
    Except Panic (Nat × Bytes32) :=
  if r.binding.epochHash ≠ 0 then .ok (r.binding.targetBlock, r.binding.epochHash)
  else if (registry.getEpoch r.binding.epochId).epochHash = 0 then .ok (0, 0)
  else do
    let targetBlock ← target r.requestBlock (registry.getEpoch r.binding.epochId).committedBlock
    return (targetBlock, (registry.getEpoch r.binding.epochId).epochHash)

/-- The binding of a new request: the epoch of the block, its record's hash, and the target when
there is a record. -/
structure Assigned (context : Context) (registry : EpochEntropy) (before after : EpochBinding) :
    Prop where
  blockHash : after.blockHash = before.blockHash
  epochId : after.epochId = registry.epochForBlock context.block.number
  epochId_ne : after.epochId ≠ 0
  anchored : registry.epochAnchors after.epochId ≠ 0
  epochHash : after.epochHash = (registry.getEpoch after.epochId).epochHash
  targetBlock : (if (registry.getEpoch after.epochId).epochHash = 0 then Except.ok 0
    else target (context.block.number % 2 ^ 64) (registry.getEpoch after.epochId).committedBlock) =
      .ok after.targetBlock

/-- The block hash of a request: the stored one, or the chain's for its target. -/
def hashOf (context : Context) (binding : EpochBinding) (targetBlock : Nat) : Bytes32 :=
  if binding.blockHash = 0 then blockhash context.platform.canonical context.block targetBlock
  else binding.blockHash

/-- The binding that `_storeBlockHash` writes for a request. -/
structure Completed (context : Context) (store : EpochStore) (requestId : Nat)
    (binding : EpochBinding) (events : List Event) : Prop where
  known : (store.requests requestId).consumer ≠ 0
  resolved : resolution store.ext.registry (store.requests requestId) =
    .ok (binding.targetBlock, binding.epochHash)
  epochHash_ne : binding.epochHash ≠ 0
  confirmed : binding.targetBlock + store.ext.confirmationBlocks ≤ context.block.number
  blockHash : binding.blockHash =
    hashOf context (store.requests requestId).binding binding.targetBlock
  blockHash_ne : binding.blockHash ≠ 0
  epochId : binding.epochId = (store.requests requestId).binding.epochId
  events : events = if (store.requests requestId).binding.blockHash = 0 then
    [.blockHashStored requestId binding.targetBlock binding.blockHash] else []

/-- Which proof a fulfillment accepts and what it makes of it: the binding is complete, and the
proof is for the coordinator's key and for the seed of the request. -/
structure Accepts (context : Context) (store : EpochStore) (requestId : Nat) (proof : Proof)
    (randomness transcript : Bytes32) : Prop where
  epochHash_ne : (store.requests requestId).binding.epochHash ≠ 0
  blockHash_ne : (store.requests requestId).binding.blockHash ≠ 0
  key : proof.pk.1 = store.publicKeyX ∧ proof.pk.2 = store.publicKeyY
  seed : proof.seed = seedOf context store requestId
    ((store.requests requestId).binding.targetBlock,
      (store.requests requestId).binding.epochHash) (store.requests requestId).binding.blockHash
  output : ∃ value, context.platform.randomValue proof proof.seed = some value ∧
    randomness = BitVec.ofNat 256 value
  transcript : transcript = transcriptHash context store requestId
    (store.requests requestId).binding.blockHash (context.platform.keccak256 proof.encode)
    randomness

/-- A call to the registry that succeeds. -/
def RegistryStep (context : Context) (before after : EpochExtension) : Prop :=
  ∃ views sender call events, EpochEntropy.run
      ⟨context.platform, before.epochRegistry, context.block, views, true⟩ sender before.registry
      call = .ok (after.registry, events) ∧
    after.epochRegistry = before.epochRegistry ∧
    after.confirmationBlocks = before.confirmationBlocks

end EpochCoordinator

/-- The rules of the epoch coordinator. -/
def epochRules : Rules epochTerms EpochBinding EpochExtension where
  evolve context before after events :=
    EpochCoordinator.RegistryStep context before after ∧ events = []
  assign context ext _ before after events :=
    EpochCoordinator.Assigned context ext.registry before after ∧ events = []
  rebind := EpochCoordinator.Completed
  accept := EpochCoordinator.Accepts
  sound _ := True
  sound_evolve _ _ := trivial
  known_rebind completed := completed.known
  plain_evolve evolves event member := by
    rw [evolves.2] at member
    exact absurd member List.not_mem_nil
  plain_assign assigned event member := by
    rw [assigned.2] at member
    exact absurd member List.not_mem_nil
  plain_rebind completed event member := by
    rw [completed.events] at member
    split at member
    · rw [List.mem_singleton.mp member]
      rfl
    · exact absurd member List.not_mem_nil

namespace EpochCoordinator

variable {context : Context} {start base : Flow epochTerms EpochBinding EpochExtension}
  {env : Env EpochMessage Views} {reenter : EpochMessage → EpochProgram Unit}
  {account : Account EpochStore} {gas : Option Nat} {logs : List Event} {surplus : Int}

/-! ### Calls to the registry -/

theorem wp_fromRegistry {α : Type} {result : Attempt α}
    {post : Tx.Post EpochStore Event α}
    (holds : ∀ value, result = .ok value → post value account gas logs) :
    Runs epochRules context start env (fromRegistry result) post account gas logs := by
  cases result with
  | ok value => exact wp_pure (holds value rfl)
  | error => exact Tx.wp_revert (harmless_revert _)

theorem wp_askRegistry {O : Point EpochStore Error Mark → Prop} {E : Fault Error → Prop}
    {post : Tx.Post EpochStore Event EpochEntropy}
    (asks : ∀ gas target limit forwarded, O ⟨.ask target limit forwarded, account, gas, 0⟩)
    (fails : ∀ fault, Harmless fault → E fault)
    (holds : ∀ gas', Spends gas gas' → post account.storage.ext.registry account gas' logs) :
    Tx.wp env O E askRegistry post account gas logs := by
  refine wp_bind (wp_storage ?_)
  refine wp_bind (wp_staticCall (asks _ _ _) fun position gas' spent => ?_)
  exact wp_bind (wp_revertIf (fun _ => fails _ (harmless_revert _)) fun _ =>
    wp_pure (holds gas' spent))

/-- At a place between two lines of a guarded function the registry may be asked. -/
theorem seen_ask (inside : Inside epochRules context start surplus account logs)
    (covered : 0 ≤ surplus) (gas : Option Nat) (target : Address) (limit forwarded : Option Nat) :
    Seen epochRules context start ⟨.ask target limit forwarded, account, gas, 0⟩ :=
  ⟨account.storage, logs, surplus, inside.1, covered, .inl rfl⟩

variable {sender : Address} {requestId : Nat} {proof : Proof} {msg : Msg}

theorem wp_runRegistry {call : EpochEntropy.Call}
    (stays : Stays epochRules context start base account logs) :
    RunsStays epochRules context start env (runRegistry context sender call) base account gas logs := by
  refine wp_bind (wp_storage (wp_bind (Tx.wp_observe fun position => ?_)))
  refine wp_bind (wp_fromRegistry fun done ran => wp_write ?_)
  have evolved := stays.evolve { account.storage.ext with registry := done.1 }
    ⟨⟨_, _, _, _, ran, rfl, rfl⟩, rfl⟩
  rwa [List.append_nil] at evolved

/-! ### Block hashes and seeds -/

theorem harmless_target {requestBlock committedBlock : Nat} {code : Panic}
    (failed : target requestBlock committedBlock = .error code) : Harmless (.panic code) := by
  rcases error_of_bind failed with overflow | ⟨_, -, failed⟩
  · exact harmless_checkedAdd overflow
  · cases failed

section Resolving

variable {O : Point EpochStore Error Mark → Prop} {E : Fault Error → Prop}

section

variable (asks : ∀ gas target limit forwarded, O ⟨.ask target limit forwarded, account, gas, 0⟩)

include asks

section

variable (fails : ∀ fault, Harmless fault → E fault)

include fails

theorem wp_resolvedEpoch {r : StoredRequest EpochBinding}
    {post : Tx.Post EpochStore Event (Nat × Bytes32)}
    (holds : ∀ resolved gas', Spends gas gas' →
      resolution account.storage.ext.registry r = .ok resolved →
      post resolved account gas' logs) :
    Tx.wp env O E (resolvedEpoch r) post account gas logs := by
  unfold resolvedEpoch
  unfold resolution at holds
  split
  · rename_i stored
    rw [if_pos stored] at holds
    exact wp_pure (holds _ _ (Spends.refl _) rfl)
  · rename_i unstored
    rw [if_neg unstored] at holds
    refine wp_bind (wp_askRegistry asks fails fun gas' spent => ?_)
    refine wp_ite (fun unpublished => ?_) fun published => ?_
    · rw [if_pos unpublished] at holds
      exact wp_pure (holds _ _ spent rfl)
    · rw [if_neg published] at holds
      refine wp_bind (Tx.wp_checked (fun targetBlock targets => ?_) fun _ failed =>
        fails _ (harmless_target failed))
      rw [targets] at holds
      exact wp_pure (holds _ _ spent rfl)

theorem wp_resolvedBlockHash {r : StoredRequest EpochBinding}
    {post : Tx.Post EpochStore Event Bytes32}
    (holds : ∀ resolved gas', Spends gas gas' →
      resolution account.storage.ext.registry r = .ok resolved → resolved.2 ≠ 0 →
      resolved.1 + account.storage.ext.confirmationBlocks ≤ context.block.number →
      hashOf context r.binding resolved.1 ≠ 0 →
      post (hashOf context r.binding resolved.1) account gas' logs) :
    Tx.wp env O E (resolvedBlockHash context r) post account gas logs := by
  refine wp_bind (wp_resolvedEpoch asks fails fun resolved gas' spent resolves => ?_)
  refine wp_bind (wp_storage ?_)
  refine wp_bind (wp_revertIf (fun _ => fails _ (harmless_revert _)) fun ready => ?_)
  rw [not_or] at ready
  refine wp_bind (wp_revertIf (fun _ => fails _ (harmless_revert _)) fun available => ?_)
  exact wp_pure (holds resolved gas' spent resolves ready.1 (Nat.le_of_not_lt ready.2)
    available)

theorem wp_seed {requestId : Nat} {anchor : Bytes32}
    {post : Tx.Post EpochStore Event Nat}
    (holds : ∀ resolved gas', resolution account.storage.ext.registry
        (account.storage.requests requestId) = .ok resolved →
      post (seedOf context account.storage requestId resolved anchor) account gas' logs) :
    Tx.wp env O E (seed context requestId anchor) post account gas logs := by
  refine wp_bind (wp_storage (wp_bind ?_))
  exact wp_resolvedEpoch asks fails fun resolved gas' _ resolves =>
    wp_pure (holds resolved gas' resolves)

end

end

end Resolving

/-- A request whose record has an epoch hash resolves to what it stores. -/
theorem resolution_of_stored {registry : EpochEntropy} {r : StoredRequest EpochBinding}
    (stored : r.binding.epochHash ≠ 0) :
    resolution registry r = .ok (r.binding.targetBlock, r.binding.epochHash) := if_pos stored

/-- Storing the block hash of a request completes its binding. -/
theorem wp_storeBlockHash {post : Tx.Post EpochStore Event Bytes32}
    (inside : Inside epochRules context start surplus account logs) (covered : 0 ≤ surplus)
    (known : (account.storage.requests requestId).consumer ≠ 0)
    (holds : ∀ binding events gas', Spends gas gas' →
      Completed context account.storage requestId binding events →
      post binding.blockHash
        { account with storage := account.storage.setRequest requestId fun r =>
          { r with binding := binding } } gas' (logs ++ events)) :
    Runs epochRules context start env (storeBlockHash context requestId) post account gas logs := by
  refine wp_bind (wp_storage (wp_bind ?_))
  refine wp_resolvedBlockHash (seen_ask inside covered) (fun _ => id) fun resolved gas' spent
    resolves hashed confirmed available => ?_
  refine wp_bind (wp_resolvedEpoch (seen_ask inside covered) (fun _ => id)
    fun again gas'' spent' resolves' => ?_)
  obtain rfl : resolved = again := Except.ok.inj (resolves.symm.trans resolves')
  have completed := holds ⟨resolved.1, hashOf context (account.storage.requests requestId).binding
    resolved.1, (account.storage.requests requestId).binding.epochId, resolved.2⟩ _ gas''
    (spent.trans spent') ⟨known, resolves, hashed, confirmed, rfl, available, rfl, rfl⟩
  refine wp_bind (wp_write (wp_ite (fun unstored => ?_) fun stored => ?_))
  · rw [if_pos unstored] at completed
    refine wp_bind (wp_write (wp_bind (Tx.wp_emit (wp_pure ?_))))
    rw [Coordinator.setRequest_setRequest]
    exact completed
  · rw [if_neg stored, List.append_nil] at completed
    refine wp_pure ?_
    have kept : hashOf context (account.storage.requests requestId).binding resolved.1 =
        (account.storage.requests requestId).binding.blockHash := if_neg stored
    rw [kept] at completed
    rw [kept]
    exact completed

/-! ### Fulfillment -/

theorem wp_paidKeeper {post : Tx.Post EpochStore Event Address}
    (passes : ∀ gas target limit forwarded, Seen epochRules context start
      ⟨.ask target limit forwarded, account, gas, 0⟩)
    (holds : ∀ keeper gas', post keeper account gas' logs) :
    Runs epochRules context start env (paidKeeper sender) post account gas logs := by
  refine wp_bind (wp_askRegistry passes (fun _ => id) fun gas' _ => ?_)
  refine wp_ite (fun _ => ?_) fun _ => wp_pure (holds _ _)
  refine wp_bind (wp_storage (wp_bind ?_))
  refine wp_staticCall (passes _ _ _) fun position gas'' _ => ?_
  exact wp_ite (fun _ => wp_pure (holds _ _)) fun _ => wp_pure (holds _ _)

theorem batchGasLoop_harmless {block : Block} {store : EpochStore} {ids : List Nat} {need : Nat}
    {fault : Fault Error} (failed : batchGasLoop block store ids need = .error fault) :
    Harmless fault := by
  induction ids generalizing need with
  | nil => cases failed
  | cons requestId rest inductionHypothesis =>
    unfold batchGasLoop at failed
    dsimp only at failed
    split at failed
    · cases failed
      exact harmless_revert _
    · split at failed
      · exact inductionHypothesis failed
      · exact inductionHypothesis failed

section

variable (yields : Yields epochRules context start env reenter)
  (order : InOrder epochRules start.store)

include yields order

/-- `_fulfill` on an open request in time. -/
theorem wp_fulfill (inside : Inside epochRules context start surplus account logs)
    (covered : 0 ≤ surplus)
    (known : (account.storage.requests requestId).consumer ≠ 0)
    (pending : (account.storage.requests requestId).isOpen = true)
    (inTime : context.block.timestamp ≤ (account.storage.requests requestId).deadline) :
    RunsInside epochRules context start env (fulfill context reenter sender requestId proof)
      surplus account gas logs := by
  refine wp_bind (wp_storeBlockHash inside covered known
    fun binding events gas' _ completed => ?_)
  have bound : Inside epochRules context start surplus _ _ :=
    ⟨inside.1.rebind completed, inside.2⟩
  have record : (account.storage.setRequest requestId fun r =>
      { r with binding := binding }).requests requestId =
        { account.storage.requests requestId with binding := binding } :=
    Function.update_self _ _ _
  generalize account.storage.setRequest requestId (fun r => { r with binding := binding }) =
    store at bound record ⊢
  have bindingIs : (store.requests requestId).binding = binding := by rw [record]
  refine wp_bind (wp_seed (seen_ask bound covered) (fun _ => id)
    fun resolved gas'' resolves => ?_)
  have stored : (store.requests requestId).binding.epochHash ≠ 0 := by
    rw [bindingIs]
    exact completed.epochHash_ne
  rw [resolution_of_stored stored] at resolves
  obtain rfl := Except.ok.inj resolves
  refine wp_bind (wp_bind (wp_bind (wp_storage ?_)))
  refine wp_check fun key => ?_
  refine wp_revertIf (fun _ => harmless_revert _) fun sameSeed => ?_
  rw [not_or, not_not, not_not] at key
  rw [not_not] at sameSeed
  rw [← sameSeed]
  cases output : context.platform.randomValue proof proof.seed with
  | none => exact Tx.wp_revert (harmless_revert _)
  | some value =>
    refine wp_pure (wp_bind (wp_storage (wp_bind (wp_write (wp_bind ?_)))))
    have pendingNow : (store.requests requestId).isOpen = true := by
      rw [record]
      exact pending
    refine wp_paidKeeper (fun _ _ _ _ => ⟨store, _, surplus, bound.1, covered,
      .inr ⟨requestId, ⟨proof, _, _, _, sender⟩, pendingNow, rfl⟩⟩) fun keeper gas''' => ?_
    refine wp_settle yields ⟨proof, BitVec.ofNat 256 value, context.platform.keccak256 proof.encode,
        transcriptHash context store requestId binding.blockHash
          (context.platform.keccak256 proof.encode) (BitVec.ofNat 256 value), sender⟩
      order bound.1 rfl bound.2 covered ?_ pendingNow ?_ ?_ rfl rfl rfl
    · rw [record]
      exact known
    · rw [record]
      exact inTime
    · refine ⟨bindingIs ▸ completed.epochHash_ne, bindingIs ▸ completed.blockHash_ne, key, ?_,
        ⟨value, output, rfl⟩, ?_⟩
      · rw [sameSeed, bindingIs]
      · rw [bindingIs]

theorem wp_fulfillRandomness (reached : Reached epochRules context start account logs 0) :
    RunsReached epochRules context start env
      (fulfillRandomness context reenter sender requestId proof) account gas logs := by
  refine wp_nonReentrant reached fun inside => ?_
  refine wp_bind (wp_request fun known => ?_)
  refine wp_check fun unfulfilled => ?_
  refine wp_check fun unrefunded => ?_
  refine wp_check fun inTime => ?_
  exact wp_fulfill yields order inside (Int.le_refl 0) known
    (isOpen_of_pending unfulfilled unrefunded) (Nat.le_of_not_lt inTime)

/-- A batch member is skipped, or served when it is open and in time. -/
theorem wp_serveMember (inside : Inside epochRules context start 0 account logs) :
    RunsInside epochRules context start env (serveMember context reenter sender requestId proof) 0
      account gas logs := by
  refine wp_bind (wp_request fun known => wp_ite (fun _ => ?_) fun served => ?_)
  · exact Tx.wp_emit ⟨inside.1.report _ rfl, inside.2⟩
  obtain ⟨pending, inTime⟩ := of_skipReason_eq_zero (not_not.mp served)
  refine wp_bind (Tx.wp_mark (fun _ _ => trivial) ?_)
  exact wp_fulfill yields order inside (Int.le_refl 0) known pending inTime

theorem wp_serveAll (members : List (Nat × Proof))
    (inside : Inside epochRules context start 0 account logs) :
    RunsInside epochRules context start env (serveAll context reenter sender members) 0 account
      gas logs := by
  induction members generalizing account gas logs with
  | nil => exact wp_pure inside
  | cons member rest inductionHypothesis =>
    refine wp_bind (wp_mono (wp_serveMember yields order inside) ?_)
    intro _ account' gas' logs' _ inside'
    exact inductionHypothesis inside'

theorem wp_fulfillRandomnessBatch {ids : List Nat} {proofs : List Proof}
    (reached : Reached epochRules context start account logs 0) :
    RunsReached epochRules context start env
      (fulfillRandomnessBatch context reenter sender ids proofs) account gas logs := by
  refine wp_nonReentrant reached fun inside => ?_
  refine wp_check fun _ => ?_
  refine wp_bind (wp_storage (wp_bind ?_))
  refine Tx.wp_attempt (fun need _ => ?_) fun _ => batchGasLoop_harmless
  refine wp_bind (Tx.wp_requireGas harmless_outOfGas (harmless_revert _)
    (fun _ _ => trivial) fun gas' _ _ => ?_)
  exact wp_serveAll yields order _ inside

/-! ### Requests -/

omit yields order in
theorem wp_createRequest {clientSeed : Bytes32} {callbackGasLimit : Nat} {refundAddress : Address}
    {spec : RandomnessMapping.Spec}
    (inside : Inside epochRules context start msg.value account logs) :
    RunsInside epochRules context start env
      (createRequest context msg clientSeed callbackGasLimit refundAddress spec) 0 account gas
      logs := by
  have covered : (0 : Int) ≤ msg.value := Int.natCast_nonneg _
  refine wp_bind (wp_checkRequest fun fee paid small => ?_)
  refine wp_bind (wp_askRegistry (seen_ask inside covered) (fun _ => id) fun gas' _ => ?_)
  refine wp_bind (wp_askRegistry (seen_ask inside covered) (fun _ => id) fun gas'' _ => ?_)
  refine wp_check fun epochId_ne => ?_
  generalize same : account.storage.ext.registry.epochForBlock context.block.number = epochId at *
  refine wp_bind (wp_bind (wp_storage (wp_bind ?_)))
  refine wp_staticCall (fun _ => seen_ask inside covered _ _ _ _) fun position gas''' _ => ?_
  refine wp_check fun _ => ?_
  refine wp_bind (wp_fromRegistry fun checkpoint checkpoints => wp_write ?_)
  obtain ⟨after, anchor⟩ := checkpoint
  have ran : EpochEntropy.run ⟨context.platform, account.storage.ext.epochRegistry, context.block,
      (env.answer position).view, true⟩ 0 account.storage.ext.registry
      (.checkpointEpoch epochId) = .ok (after, []) := by
    show (EpochEntropy.checkpointEpoch _ _ _ >>= _) = _
    rw [show EpochEntropy.checkpointEpoch _ _ _ = _ from checkpoints]
    rfl
  have evolved := inside.1.evolve { account.storage.ext with registry := after }
    ⟨⟨_, _, _, _, ran, rfl, rfl⟩, rfl⟩
  rw [List.append_nil] at evolved
  obtain ⟨anchored, rfl⟩ := EpochEntropy.checkpointEpoch_eq_ok checkpoints
  obtain ⟨_, facts⟩ := EpochEntropy.anchor_eq_ok anchored
  refine wp_bind (Tx.wp_checked (fun targetBlock targets => ?_) fun code failed => ?_)
  · have assigned : ∀ fresh : EpochBinding, Assigned context
        { account.storage.ext.registry with
          epochAnchors := Function.update account.storage.ext.registry.epochAnchors epochId anchor }
        fresh
        { fresh with
          epochId := epochId
          epochHash := (account.storage.ext.registry.getEpoch epochId).epochHash
          targetBlock := targetBlock } := by
      refine fun fresh => ⟨rfl, same.symm, epochId_ne, ?_, rfl, targets⟩
      exact ne_of_eq_of_ne (Function.update_self _ _ _) facts.nonzero
    have created : Runs epochRules context start env _ _ _ gas''' logs :=
      D20.wp_createRequest ⟨msg, clientSeed, callbackGasLimit, refundAddress, spec, some spec, fee,
        fun fresh => { fresh with
          epochId := epochId
          epochHash := (account.storage.ext.registry.getEpoch epochId).epochHash
          targetBlock := targetBlock }⟩ [] ⟨evolved, inside.2⟩ paid small ⟨assigned _, rfl⟩
    refine wp_bind (wp_mono created ?_)
    rintro _ account' gas' logs' _ ⟨-, inside'⟩
    rw [List.append_nil] at inside'
    exact wp_pure inside'
  · split at failed
    · cases failed
    · exact harmless_target failed

/-! ### Messages -/

/-- A message to the unlocked contract, whose value was taken and is not booked yet. -/
theorem wp_dispatch (call : EpochCall)
    (reached : Reached epochRules context start account logs msg.value)
    (metered : ∃ amount, gas = some amount) :
    RunsReached epochRules context start env (dispatch context reenter msg call) account gas logs := by
  cases call with
  | requestRandomness | requestMappedRandomness =>
    exact wp_nonReentrant reached wp_createRequest
  | storeBlockHash =>
    refine wp_check fun zero => ?_
    refine wp_nonReentrant (reached.unpaid zero) fun inside => ?_
    refine wp_bind (wp_request fun known => wp_bind ?_)
    refine wp_storeBlockHash inside (Int.le_refl 0) known fun binding events gas' _ completed => ?_
    exact wp_pure ⟨inside.1.rebind completed, inside.2⟩
  | fulfillRandomness =>
    refine wp_check fun zero => ?_
    exact wp_fulfillRandomness yields order (reached.unpaid zero)
  | fulfillRandomnessBatch =>
    refine wp_check fun zero => ?_
    exact wp_fulfillRandomnessBatch yields order (reached.unpaid zero)
  | shared call =>
    refine wp_check fun zero => ?_
    exact wp_run call yields order (reached.unpaid zero) metered

end

/-- A message to the locked contract. -/
theorem wp_dispatch_locked (call : EpochCall)
    (stays : Stays epochRules context start base account logs)
    (entered : account.storage.entered = true) :
    RunsStays epochRules context start env (dispatch context reenter msg call) base account gas
      logs := by
  cases call with
  | requestRandomness | requestMappedRandomness => exact wp_nonReentrant_locked entered
  | storeBlockHash | fulfillRandomness | fulfillRandomnessBatch =>
    refine wp_check fun _ => ?_
    exact wp_nonReentrant_locked entered
  | shared call =>
    refine wp_check fun _ => ?_
    exact wp_run_locked stays call entered

/-- Whatever is called back while the contract is locked takes quiet steps. -/
theorem yields_exec (depth : Nat) :
    Yields epochRules context start env (exec context depth) := by
  intro base path entered
  refine ⟨?_, fun _ _ _ fault _ harmless => harmless,
    fun _ _ _ _ kept spent => ⟨kept.1, kept.2.spends spent⟩⟩
  rintro message account gas logs ⟨stays, lenient⟩
  cases depth with
  | zero => exact Tx.wp_fail harmless_callDepth
  | succ =>
    cases message with
    | coordinator msg call =>
      refine wp_bind (Tx.wp_receive ?_)
      have locked := stays.undisturbed.entered.trans entered
      refine wp_mono (wp_dispatch_locked call (stays.gift msg.value) locked) ?_
      intro _ account' gas' logs' spent stays'
      exact ⟨stays', lenient.spends spent⟩
    | registry =>
      refine wp_mono (wp_runRegistry stays) ?_
      intro _ account' gas' logs' spent stays'
      exact ⟨stays', lenient.spends spent⟩

/-- A transaction of the epoch coordinator or of its registry takes steps of the abstract machine,
whatever the outside world answers and however deep its calls nest. -/
theorem wp_exec (depth : Nat) (message : EpochMessage) (order : InOrder epochRules start.store)
    (reached : Reached epochRules context start account logs 0)
    (metered : ∃ amount, gas = some amount) :
    RunsReached epochRules context start env (exec context depth message) account gas logs := by
  cases depth with
  | zero => exact Tx.wp_fail harmless_callDepth
  | succ depth =>
    cases message with
    | coordinator msg call =>
      refine wp_bind (Tx.wp_receive ?_)
      have received := reached.receive msg.value
      rw [Int.zero_add] at received
      exact wp_dispatch (yields_exec depth) order call received metered
    | registry => exact wp_of_stays reached (wp_runRegistry Stays.refl)

end EpochCoordinator

end D20
