/-
This file proves that both coordinators can always pay what they owe.

What a coordinator owes is the earned fees, the two totals of credits and the
fees in escrow, one for each open request. Along every step of the abstract
machine that amount, together with the surplus, stays within the balance. Between
transactions the surplus is zero; at an outgoing call it is made up for by the
value of the call.

The runs are over the functions that write. A view writes nothing and is not a
call of a run.
-/

import D20Keeper.Requests

namespace D20

open Evm

variable {terms : Terms} {β χ κ : Type}

/-! ### What a coordinator owes -/

variable (r : StoredRequest β)

/-- The part of a request's fee that is in escrow: all of it while the request is open. -/
def StoredRequest.escrowed : Nat := if r.isOpen then r.feePaid else 0

/-- The fees in escrow, over all requests made. -/
def escrow (store : Coordinator terms β χ) : Nat :=
  ∑ requestId ∈ Finset.range store.nextRequestId, (store.requests requestId).escrowed

/-- What a coordinator owes. -/
def owed (store : Coordinator terms β χ) : Nat :=
  store.earnedFees + store.totalRefundCredits + store.totalKeeperCredits + escrow store

variable {store : Coordinator terms β χ} {requestId : Nat}

variable (store)

/-- Writing a request changes the escrow by the change of its part. -/
theorem escrow_setRequest (made : requestId < store.nextRequestId)
    (update : StoredRequest β → StoredRequest β) :
    escrow (store.setRequest requestId update) + (store.requests requestId).escrowed =
      escrow store + (update (store.requests requestId)).escrowed := by
  have moved := Ledger.sum_update (Finset.range store.nextRequestId)
    (StoredRequest.escrowed ∘ store.requests) (Finset.mem_range.mpr made)
    (update (store.requests requestId)).escrowed
  rw [← Function.comp_update] at moved
  exact moved

/-- Writing something else of a request leaves the escrow alone. -/
theorem escrow_setRequest_of_eq (requestId : Nat) {update : StoredRequest β → StoredRequest β}
    (same : (update (store.requests requestId)).escrowed =
      (store.requests requestId).escrowed) :
    escrow (store.setRequest requestId update) = escrow store := by
  refine Finset.sum_congr rfl fun other _ => ?_
  show (Function.update store.requests requestId _ other).escrowed = _
  by_cases at_ : other = requestId
  · rw [at_, Function.update_self, same]
  · rw [Function.update_of_ne at_]

/-- A new request adds its part to the escrow. -/
theorem escrow_enroll (r : StoredRequest β) (spec : Option RandomnessMapping.Spec) :
    escrow (store.enroll r spec) = escrow store + r.escrowed := by
  show ∑ requestId ∈ Finset.range (store.nextRequestId + 1),
    (Function.update store.requests store.nextRequestId r requestId).escrowed = _
  rw [Finset.sum_range_succ, Function.update_self]
  refine congrArg (· + r.escrowed) (Finset.sum_congr rfl fun requestId member => ?_)
  rw [Function.update_of_ne (Nat.ne_of_lt (Finset.mem_range.mp member))]

theorem escrowed_of_isOpen {r : StoredRequest β} (isOpen : r.isOpen = true) :
    r.escrowed = r.feePaid := if_pos isOpen

theorem escrowed_withResult (randomness proofHash transcript : Bytes32) :
    (r.withResult randomness proofHash transcript).escrowed = 0 :=
  if_neg (isOpen_of_fulfilled rfl)

theorem escrowed_refunded :
    StoredRequest.escrowed { r with refunded := true } = 0 := by
  refine if_neg ?_
  unfold StoredRequest.isOpen
  rw [Bool.not_true, Bool.and_false]
  exact Bool.false_ne_true

/-- Storage that differs in other fields only owes the same. -/
theorem owed_of_undisturbed {before after : Coordinator terms β χ}
    (undisturbed : Undisturbed before after) : owed after = owed before := by
  unfold owed escrow
  rw [undisturbed.earnedFees, undisturbed.totalRefundCredits, undisturbed.totalKeeperCredits,
    undisturbed.nextRequestId, undisturbed.requests]

theorem owed_earn (amount : Nat) :
    owed (store.earn amount) = owed store + amount := by
  show store.earnedFees + amount + store.totalRefundCredits + store.totalKeeperCredits +
    escrow store = _
  unfold owed
  omega

theorem owed_serve (requestId : Nat) :
    owed (store.serve requestId) = owed store := rfl

theorem owed_addRefundCredit (account : Address) (amount : Nat) :
    owed (store.addRefundCredit account amount) = owed store + amount := by
  show store.earnedFees + (store.totalRefundCredits + amount) + store.totalKeeperCredits +
    escrow store = _
  unfold owed
  omega

variable {store}

theorem owed_subRefundCredit {amount : Nat} (credited : amount ≤ store.totalRefundCredits)
    (account : Address) : owed (store.subRefundCredit account amount) + amount = owed store := by
  show store.earnedFees + (store.totalRefundCredits - amount) + store.totalKeeperCredits +
    escrow store + amount = _
  unfold owed
  omega

theorem owed_addKeeperCredit (store : Coordinator terms β χ) (account : Address) (amount : Nat) :
    owed (store.addKeeperCredit account amount) = owed store + amount := by
  show store.earnedFees + store.totalRefundCredits + (store.totalKeeperCredits + amount) +
    escrow store = _
  unfold owed
  omega

theorem owed_subKeeperCredit {amount : Nat} (credited : amount ≤ store.totalKeeperCredits)
    (account : Address) : owed (store.subKeeperCredit account amount) + amount = owed store := by
  show store.earnedFees + store.totalRefundCredits + (store.totalKeeperCredits - amount) +
    escrow store + amount = _
  unfold owed
  omega

variable (store)

theorem owed_takeFees :
    owed { store with earnedFees := 0 } + store.earnedFees = owed store := by
  show 0 + store.totalRefundCredits + store.totalKeeperCredits + escrow store + _ = _
  unfold owed
  omega

theorem owed_setRequest (made : requestId < store.nextRequestId)
    (update : StoredRequest β → StoredRequest β) :
    owed (store.setRequest requestId update) + (store.requests requestId).escrowed =
      owed store + (update (store.requests requestId)).escrowed := by
  have moved := escrow_setRequest store made update
  show store.earnedFees + store.totalRefundCredits + store.totalKeeperCredits +
    escrow (store.setRequest requestId update) + _ = _
  unfold owed
  omega

theorem owed_setRequest_of_eq (requestId : Nat) (update : StoredRequest β → StoredRequest β)
    (same : (update (store.requests requestId)).escrowed =
      (store.requests requestId).escrowed) :
    owed (store.setRequest requestId update) = owed store :=
  congrArg (store.earnedFees + store.totalRefundCredits + store.totalKeeperCredits + ·)
    (escrow_setRequest_of_eq store requestId same)

variable {store}

/-- A recorded result takes the fee of its request out of the escrow. -/
theorem owed_record (outturn : Outturn) (made : requestId < store.nextRequestId)
    (isOpen : (store.requests requestId).isOpen = true) :
    owed (outturn.record store requestId) + (store.requests requestId).feePaid = owed store := by
  have moved := owed_setRequest store made
    fun r => r.withResult outturn.randomness outturn.proofHash outturn.transcriptHash
  rw [escrowed_of_isOpen isOpen, escrowed_withResult] at moved
  exact moved

theorem owed_record_le (store : Coordinator terms β χ) (requestId : Nat) (outturn : Outturn) :
    owed (outturn.record store requestId) ≤ owed store := by
  refine Nat.add_le_add_left (Finset.sum_le_sum fun other _ => ?_) _
  show (Function.update store.requests requestId _ other).escrowed ≤ _
  by_cases same : other = requestId
  · rw [same, Function.update_self, escrowed_withResult]
    exact Nat.zero_le _
  · rw [Function.update_of_ne same]

/-- A fulfillment moves the fee of its request to the earned fees, but for the keeper's part. -/
theorem owed_apply (outturn : Outturn) (made : requestId < store.nextRequestId)
    (isOpen : (store.requests requestId).isOpen = true) :
    owed (outturn.apply store requestId) + Outturn.keeperAmount store requestId = owed store := by
  have recorded := owed_record outturn made isOpen
  have small : Outturn.keeperAmount store requestId ≤ (store.requests requestId).feePaid :=
    BasisPoints.keeperShare_le _ _
  unfold Outturn.apply
  rw [owed_serve, owed_earn]
  omega

/-- A refund moves the fee of its request to the earned fees and to a refund credit. -/
theorem owed_refunded (made : requestId < store.nextRequestId)
    (isOpen : (store.requests requestId).isOpen = true) :
    owed (refunded store requestId) = owed store := by
  have moved := owed_setRequest store made fun r => { r with refunded := true }
  have small : (store.requests requestId).refundBps.refundShare
      (store.requests requestId).feePaid ≤ (store.requests requestId).feePaid :=
    BasisPoints.refundShare_le _ _
  rw [escrowed_of_isOpen isOpen, escrowed_refunded] at moved
  unfold refunded
  rw [owed_addRefundCredit, owed_earn]
  omega

/-- A new request adds what was paid for it. -/
theorem owed_create [Inhabited β] {rules : Rules terms β χ} (context : Context)
    {creation : Creation β} (order : InOrder rules store)
    (paid : creation.fee ≤ creation.msg.value) (small : creation.fee < 2 ^ 96) :
    owed (creation.apply context store) = owed store + creation.msg.value := by
  have fresh := (order.fresh store.nextRequestId (Nat.le_refl _)).1
  have isOpen : (creation.record context store).isOpen = true := by
    show (!(store.requests store.nextRequestId).fulfilled &&
      !(store.requests store.nextRequestId).refunded) = true
    rw [fresh]
    rfl
  have escrowed : (creation.record context store).escrowed = creation.fee :=
    (escrowed_of_isOpen isOpen).trans (Nat.mod_eq_of_lt small)
  have enrolled : owed (store.enroll (creation.record context store) creation.stored) =
      owed store + creation.fee := by
    show store.earnedFees + store.totalRefundCredits + store.totalKeeperCredits +
      escrow (store.enroll _ _) = _
    rw [escrow_enroll, escrowed]
    unfold owed
    omega
  unfold Creation.apply
  dsimp only
  split
  · rename_i exactly
    unfold Creation.excess at exactly
    omega
  · rw [owed_addRefundCredit]
    unfold Creation.excess
    omega

/-! ### Solvency along steps -/

/-- A flow whose balance covers what is owed and the surplus. -/
def Solvent (flow : Flow terms β χ) : Prop := owed flow.store + flow.surplus ≤ flow.balance

section Steps

variable [Inhabited β] {rules : Rules terms β χ} {context : Context} {flow next : Flow terms β χ}

/-- Every step keeps a coordinator solvent. -/
theorem Solvent.step (solvent : Solvent flow) (order : InOrder rules flow.store)
    (step : Step rules context flow next) : Solvent next := by
  unfold Solvent at solvent ⊢
  cases step with
  | quiet quiet =>
    obtain ⟨undisturbed, surplus⟩ := quiet.undisturbed
    rw [owed_of_undisturbed undisturbed, surplus]
    cases quiet with
    | gift amount =>
      show _ ≤ ((flow.balance + amount : Nat) : Int)
      omega
    | configure => exact solvent
    | evolve => exact solvent
  | guard => exact solvent
  | receive amount =>
    show (owed flow.store : Int) + (flow.surplus + amount) ≤ ((flow.balance + amount : Nat) : Int)
    omega
  | create creation events paid small =>
    have created := owed_create context order paid small
    show (owed (creation.apply context flow.store) : Int) + (flow.surplus + -creation.msg.value) ≤
      flow.balance
    omega
  | rebind requestId binding =>
    have same := owed_setRequest_of_eq flow.store requestId
      (fun r => { r with binding := binding }) rfl
    show (owed (flow.store.setRequest requestId _) : Int) + flow.surplus ≤ flow.balance
    omega
  | fulfill requestId outturn known pending =>
    have applied := owed_apply outturn (order.lt_of_known known) pending
    show (owed (outturn.apply flow.store requestId) : Int) +
      (flow.surplus + Outturn.keeperAmount flow.store requestId) ≤ flow.balance
    omega
  | deliver requestId success =>
    have same := owed_setRequest_of_eq flow.store requestId
      (fun r => { r with delivered := success }) rfl
    show (owed (flow.store.setRequest requestId _) : Int) + flow.surplus ≤ flow.balance
    omega
  | report => exact solvent
  | creditKeeper keeper amount =>
    have credited := owed_addKeeperCredit flow.store keeper amount
    show (owed (flow.store.addKeeperCredit keeper amount) : Int) + (flow.surplus + -amount) ≤
      flow.balance
    omega
  | refund requestId known pending =>
    have same := owed_refunded (order.lt_of_known known) pending
    show (owed (refunded flow.store requestId) : Int) + flow.surplus ≤ flow.balance
    omega
  | takeRefundCredit account amount credited =>
    have taken := owed_subRefundCredit (credited.trans (order.refundCredit_le account)) account
    show (owed (flow.store.subRefundCredit account amount) : Int) + (flow.surplus + amount) ≤
      flow.balance
    omega
  | takeKeeperCredit account amount credited =>
    have taken := owed_subKeeperCredit (credited.trans (order.keeperCredit_le account)) account
    show (owed (flow.store.subKeeperCredit account amount) : Int) + (flow.surplus + amount) ≤
      flow.balance
    omega
  | takeFees =>
    have taken := owed_takeFees flow.store
    dsimp only [Flow.put, Flow.owe]
    omega
  | refundDelivered => exact solvent
  | send amount =>
    show (owed flow.store : Int) + (flow.surplus + -amount) ≤ ((flow.balance - amount : Nat) : Int)
    omega

end Steps

/-! ### Fees are stored in full -/

section Fees

variable {rules : Rules terms β χ} {context : Context} {flow next : Flow terms β χ}

/-- Every request that was announced stores the fee it was announced with. -/
def FeesKept (store : Coordinator terms β χ) (logs : List (Block × Event)) : Prop :=
  ∀ block requestId consumer keyHash clientSeed requestBlock callbackGasLimit fee refundAddress
    deadline, (block, Event.randomnessRequested requestId consumer keyHash clientSeed requestBlock
      callbackGasLimit fee refundAddress deadline) ∈ logs →
    requestId < store.nextRequestId ∧ (store.requests requestId).feePaid = fee

/-- The announcement of a new request names the next identifier and the fee. -/
theorem announced_of_mem {store : Coordinator terms β χ} {creation : Creation β}
    {requestId : Nat} {consumer : Address} {keyHash clientSeed : Bytes32}
    {requestBlock callbackGasLimit fee : Nat} {refundAddress : Address} {deadline : Nat}
    (member : Event.randomnessRequested requestId consumer keyHash clientSeed requestBlock
      callbackGasLimit fee refundAddress deadline ∈ creation.events context store) :
    requestId = store.nextRequestId ∧ fee = creation.fee := by
  unfold Creation.events at member
  split at member <;> simp at member <;> exact ⟨member.1, member.2.2.2.2.2.2.1⟩

theorem FeesKept.step (kept : FeesKept flow.store flow.logs) (step : Step rules context flow next) :
    FeesKept next.store next.logs := by
  intro block requestId consumer keyHash clientSeed requestBlock callbackGasLimit fee refundAddress
    deadline member
  obtain ⟨events, emits⟩ := step.emits
  rw [emits.logs] at member
  rcases List.mem_append.mp member with old | new
  · obtain ⟨made, same⟩ := kept _ _ _ _ _ _ _ _ _ _ old
    exact ⟨made.trans_le step.nextRequestId_le, (step.ages made).feePaid.trans same⟩
  · obtain ⟨event, among, pair⟩ := List.mem_map.mp new
    obtain ⟨-, rfl⟩ := Prod.mk.inj pair
    rcases emits.core _ among rfl with ⟨creation, creates, own⟩ | ⟨_, outturn, -, own⟩
    · obtain ⟨rfl, rfl⟩ := announced_of_mem own
      rw [creates.store, nextRequestId_create, requests_create, Function.update_self]
      exact ⟨Nat.lt_succ_self _, Nat.mod_eq_of_lt creates.small⟩
    · unfold Outturn.events at own
      simp at own

end Fees

/-! ### Solvency of runs -/

/-- What holds at a point of a run: at a call the balance and the value that the call carries cover
what is owed, and a nested call does not fail by a subtraction below zero. -/
def Covered (point : Point (Coordinator terms β χ) Error Mark) : Prop :=
  match point.happening with
  | .call _ value _ _ => owed point.account.storage ≤ point.account.balance + value
  | .ask .. => owed point.account.storage ≤ point.account.balance
  | .failed fault => fault ≠ .panic .underflow
  | _ => True

/-- What holds in a state between transactions, and throughout any transaction sent next. -/
structure EscrowSolvent (exec : Block → Nat → κ → Program terms β χ κ Unit)
    (state : Committed (Coordinator terms β χ) Event) : Prop where
  solvent : owed state.account.storage ≤ state.account.balance
  refundTotal : ∑ account, state.account.storage.refundCredits account =
    state.account.storage.totalRefundCredits
  keeperTotal : ∑ account, state.account.storage.keeperCredits account =
    state.account.storage.totalKeeperCredits
  feesKept : FeesKept state.account.storage state.logs
  covered : ∀ (submission : Submission κ Views),
    ∀ point ∈ (submission.outcome exec state).points, Covered point
  noUnderflow : ∀ (submission : Submission κ Views) fault,
    (submission.outcome exec state).result = .error fault → fault ≠ .panic .underflow

section Runs

variable [Inhabited β] {contract : Contract terms β χ κ}

theorem keeps_solvent : contract.Keeps (fun _ _ => True) fun _ flow =>
    Solvent flow ∧ FeesKept flow.store flow.logs :=
  ⟨fun step order holds => ⟨holds.1.step order step, holds.2.step step⟩, fun _ holds => holds⟩

/-- A point that a run passes is covered. -/
theorem covered_of_seen {context : Context} {start : Flow terms β χ}
    {point : Point (Coordinator terms β χ) Error Mark}
    (order : InOrder contract.rules start.store) (solvent : Solvent start)
    (seen : Seen contract.rules context start point) : Covered point := by
  have along : ∀ {flow}, Path contract.rules context start flow →
      InOrder contract.rules flow.store ∧ Solvent flow := fun path =>
    path.preserves (fun flow => InOrder contract.rules flow.store ∧ Solvent flow)
      (fun _ _ step kept => ⟨kept.1.step step, kept.2.step kept.1 step⟩) ⟨order, solvent⟩
  unfold Covered
  unfold Seen at seen
  split
  · rename_i call
    rw [call] at seen
    obtain ⟨logs, surplus, reached, covers⟩ := seen
    have holds : (owed point.account.storage : Int) + surplus ≤ point.account.balance :=
      (along reached).2
    omega
  · rename_i ask
    rw [ask] at seen
    obtain ⟨store, logs, surplus, reached, covers, same | ⟨requestId, outturn, isOpen, recorded⟩⟩ :=
      seen
    · have holds : (owed store : Int) + surplus ≤ point.account.balance := (along reached).2
      rw [same]
      omega
    · have holds : (owed store : Int) + surplus ≤ point.account.balance := (along reached).2
      have less := owed_record_le store requestId outturn
      rw [recorded]
      omega
  · rename_i failed
    rw [failed] at seen
    exact seen
  · trivial

variable (contract) in
/-- A contract that starts solvent stays so. -/
theorem escrowSolvent_runAll (state : Committed (Coordinator terms β χ) Event)
    (admits : ∀ env, contract.admits env) (order : InOrder contract.rules state.account.storage)
    (solvent : Solvent (flowOf state)) (fees : FeesKept state.account.storage state.logs)
    (submissions : List (Submission κ Views)) :
    EscrowSolvent contract.exec (runAll contract.exec state submissions) := by
  obtain ⟨order', solvent', fees'⟩ := keeps_solvent.runAll (follows_true state submissions)
    (fun submission _ => admits submission.env) order ⟨solvent, fees⟩
  generalize runAll contract.exec state submissions = later at order' solvent' fees'
  refine ⟨?_, order'.refundTotal, order'.keeperTotal, fees', fun submission point member => ?_,
    fun submission fault failed => ?_⟩
  · have holds : (owed later.account.storage : Int) + 0 ≤ later.account.balance := solvent'
    omega
  · obtain ⟨points, -⟩ := Contract.outcome_spec order' (admits submission.env)
    exact covered_of_seen order' solvent' (points point member)
  · obtain ⟨-, settles⟩ := Contract.outcome_spec order' (admits submission.env)
    rw [failed] at settles
    exact settles

end Runs

/-- A new coordinator owes nothing. -/
theorem Newborn.owed_eq_zero [Inhabited β] (newborn : Newborn store) : owed store = 0 := by
  unfold owed escrow
  rw [newborn.earnedFees, newborn.totalRefundCredits, newborn.totalKeeperCredits,
    newborn.nextRequestId, newborn.requests]
  rfl

theorem RoundDeployment.solvent_initial (deployment : RoundDeployment) :
    Solvent (flowOf deployment.initial) := by
  have nothing := deployment.leaves.newborn.owed_eq_zero
  show (owed deployment.store : Int) + 0 ≤ deployment.balance
  omega

theorem RoundDeployment.feesKept_initial (deployment : RoundDeployment) :
    FeesKept deployment.store deployment.initial.logs := by
  intro block requestId consumer keyHash clientSeed requestBlock callbackGasLimit fee refundAddress
    deadline member
  unfold initial at member
  rw [deployment.leaves.logged] at member
  simp [BeaconRegistration.event] at member

theorem EpochDeployment.solvent_initial (deployment : EpochDeployment) :
    Solvent (flowOf deployment.initial) := by
  have nothing := deployment.leaves.newborn.owed_eq_zero
  show (owed deployment.store : Int) + 0 ≤ deployment.balance
  omega

theorem EpochDeployment.feesKept_initial (deployment : EpochDeployment) :
    FeesKept deployment.store deployment.initial.logs := by
  intro block requestId consumer keyHash clientSeed requestBlock callbackGasLimit fee refundAddress
    deadline member
  unfold initial at member
  rw [deployment.leaves.logged] at member
  simp at member

/-- Both coordinators are solvent in every state of every run and throughout every transaction,
whatever their callees do. -/
theorem escrow_solvent :
    (∀ (deployment : RoundDeployment) (submissions : List (Submission RoundMessage Views)),
      EscrowSolvent deployment.exec
        (runAll deployment.exec deployment.initial submissions)) ∧
    ∀ (deployment : EpochDeployment) (submissions : List (Submission EpochMessage Views)),
      EscrowSolvent deployment.exec
        (runAll deployment.exec deployment.initial submissions) := by
  refine ⟨fun deployment submissions => ?_, fun deployment submissions => ?_⟩
  · exact escrowSolvent_runAll (deployment.contract fun _ _ _ => True) deployment.initial
      (fun env _ _ _ _ _ _ => trivial) (deployment.inOrder _) deployment.solvent_initial
      deployment.feesKept_initial submissions
  · exact escrowSolvent_runAll deployment.contract deployment.initial (fun _ => trivial)
      deployment.inOrder deployment.solvent_initial deployment.feesKept_initial submissions

end D20
