/-
This file is the abstract machine of a coordinator: what the contract does
between two places where the outside world can act, one step at a time.

A `Flow` is the storage and the balance with the events so far and one number
more, the surplus: how much of the balance the code in progress has set aside
from what the contract owes (a keeper share not paid yet, a withdrawal not sent
yet) or, when it is negative, how much a payment in progress has taken out that
is still booked. Between transactions it is zero.

Everything that both contracts do is a sequence of steps, and every property of
their runs is proved of single steps. What a step may do to the part of the
storage in which the two contracts differ is a parameter, `Rules`. A quiet step
is one that a call made back into a locked contract can take.
-/

import D20Keeper.Coordinator
import D20Keeper.Ledger

namespace D20

open Evm

/-! ### Flows -/

/-- A state of a coordinator in the middle of its work. -/
structure Flow (terms : Terms) (β χ : Type) where
  store : Coordinator terms β χ
  balance : Nat
  logs : List (Block × Event)
  surplus : Int

variable {terms : Terms} {β χ : Type}

/-- Append events of a block. -/
def Flow.emit (context : Context) (events : List Event) (flow : Flow terms β χ) :
    Flow terms β χ :=
  { flow with logs := flow.logs ++ events.map fun event => (context.block, event) }

variable (store : Coordinator terms β χ)

/-- Replace the storage. -/
def Flow.put (flow : Flow terms β χ) : Flow terms β χ :=
  { flow with store := store }

/-- Change the surplus. -/
def Flow.owe (amount : Int) (flow : Flow terms β χ) : Flow terms β χ :=
  { flow with surplus := flow.surplus + amount }

/-! ### Rules -/

/-- The events of creating and of fulfilling a request. -/
def Event.isCore : Event → Bool
  | .randomnessRequested .. | .mappingRequested .. | .feeOverpaymentCredited .. => true
  | .requestServed .. | .proofVerified .. | .randomnessFulfilled .. => true
  | .fulfillmentEvidence .. => true
  | _ => false

/-- What the two coordinators do each in its own way: how the rest of the storage may change at
any time (`evolve`), how a new request is bound (`assign`), how a binding is completed later
(`rebind`), and which proof is accepted with which result (`accept`); and an invariant of the
rest of the storage. Only the binding of a request that was made is completed, and none of this
emits an event of creating or of fulfilling a request. -/
structure Rules (terms : Terms) (β χ : Type) where
  evolve : Context → χ → χ → List Event → Prop
  assign : Context → χ → Nat → β → β → List Event → Prop
  rebind : Context → Coordinator terms β χ → Nat → β → List Event → Prop
  accept : Context → Coordinator terms β χ → Nat → Proof → Bytes32 → Bytes32 → Prop
  sound : χ → Prop
  sound_evolve : ∀ {context before after events}, evolve context before after events →
    sound before → sound after
  known_rebind : ∀ {context store requestId binding events},
    rebind context store requestId binding events → (store.requests requestId).consumer ≠ 0
  plain_evolve : ∀ {context before after events}, evolve context before after events →
    ∀ event ∈ events, event.isCore = false
  plain_assign : ∀ {context ext requestId before after events},
    assign context ext requestId before after events → ∀ event ∈ events, event.isCore = false
  plain_rebind : ∀ {context store requestId binding events},
    rebind context store requestId binding events → ∀ event ∈ events, event.isCore = false

/-- A setting that the owner or the pending owner changes. -/
inductive Setting (terms : Terms) where
  | feeRecipient (next : Address)
  | keeperFeeBps (next : BasisPoints)
  | pricing (next : Pricing terms)
  | refundBps (next : BasisPoints)
  | pendingOwner (next : Address)
  | owner (next : Address)

/-- Write a setting. -/
def Setting.apply : Setting terms → Coordinator terms β χ
  | .feeRecipient next => { store with feeRecipient := next }
  | .keeperFeeBps next => { store with keeperFeeBps := next }
  | .pricing next => { store with pricing := next }
  | .refundBps next => { store with refundBps := next }
  | .pendingOwner next => { store with pendingOwner := next }
  | .owner next => { store with pendingOwner := 0, owner := next }

/-- The event of a setting. -/
def Setting.event : Setting terms → Event
  | .feeRecipient next => .feeRecipientChanged store.feeRecipient next
  | .keeperFeeBps next => .keeperFeeBpsChanged store.keeperFeeBps.value next.value
  | .pricing next => .pricingChanged next.minFee next.feeMultiplier next.fulfillGasOverhead
  | .refundBps next => .refundBpsChanged store.refundBps.value next.value
  | .pendingOwner next => .ownershipTransferStarted store.owner next
  | .owner next => .ownershipTransferred store.owner next

/-- The events that report an attempt or a payment and change nothing themselves. -/
def Event.reports : Event → Bool
  | .callbackAttempted .. | .refundCallbackAttempted .. | .keeperFeePaid .. => true
  | .requestRefundedTo .. | .fulfillmentSkipped .. | .feesWithdrawn .. => true
  | .refundCreditWithdrawn .. | .keeperCreditWithdrawn .. => true
  | _ => false

/-- The arguments of a request that passed its checks, with its fee and its binding. -/
structure Creation (β : Type) where
  msg : Msg
  clientSeed : Bytes32
  callbackGasLimit : Nat
  refundAddress : Address
  spec : RandomnessMapping.Spec
  stored : Option RandomnessMapping.Spec
  fee : Nat
  bind : β → β

namespace Creation

/-- The record of a new request. -/
def record (context : Context) (store : Coordinator terms β χ) (creation : Creation β) :
    StoredRequest β :=
  newRequest context store creation.msg creation.clientSeed creation.callbackGasLimit
    creation.refundAddress creation.spec creation.fee (context.block.number % 2 ^ 64)
    creation.bind

/-- What was paid beyond the fee. -/
def excess (creation : Creation β) : Nat := creation.msg.value - creation.fee

/-- The storage with a new request and with what was paid beyond its fee as a credit. -/
def apply (context : Context) (store : Coordinator terms β χ) (creation : Creation β) :
    Coordinator terms β χ :=
  let enrolled := store.enroll (creation.record context store) creation.stored
  if creation.excess = 0 then enrolled
  else enrolled.addRefundCredit creation.refundAddress creation.excess

/-- The events of a new request. -/
def events (context : Context) (store : Coordinator terms β χ) (creation : Creation β) :
    List Event :=
  (if creation.excess = 0 then []
    else [.feeOverpaymentCredited store.nextRequestId creation.refundAddress creation.excess]) ++
  [.randomnessRequested store.nextRequestId creation.msg.sender store.keyHash creation.clientSeed
      (context.block.number % 2 ^ 64) creation.callbackGasLimit creation.fee
      creation.refundAddress (creation.record context store).deadline,
    .mappingRequested store.nextRequestId (creation.record context store).mappingHash
      creation.spec]

end Creation

/-- The result of a fulfillment. -/
structure Outturn where
  proof : Proof
  randomness : Bytes32
  proofHash : Bytes32
  transcriptHash : Bytes32
  sender : Address

namespace Outturn

/-- The storage with the result of a request in its record. -/
def record (store : Coordinator terms β χ) (requestId : Nat) (outturn : Outturn) :
    Coordinator terms β χ :=
  store.setRequest requestId fun r =>
    r.withResult outturn.randomness outturn.proofHash outturn.transcriptHash

/-- The keeper's part of the fee of a request. -/
def keeperAmount (store : Coordinator terms β χ) (requestId : Nat) : Nat :=
  store.keeperFeeBps.keeperShare (store.requests requestId).feePaid

/-- The storage with the result recorded, the fee split and the request listed as served. -/
def apply (store : Coordinator terms β χ) (requestId : Nat) (outturn : Outturn) :
    Coordinator terms β χ :=
  ((outturn.record store requestId).earn
    ((store.requests requestId).feePaid - keeperAmount store requestId)).serve requestId

/-- The events of a fulfillment. -/
def events (store : Coordinator terms β χ) (requestId : Nat) (outturn : Outturn) : List Event :=
  [.requestServed requestId (store.lastServedIndex + 1),
    .proofVerified requestId store.keyHash outturn.proof.seed outturn.proofHash,
    .randomnessFulfilled requestId outturn.randomness outturn.sender,
    .fulfillmentEvidence requestId outturn.transcriptHash outturn.proof.encode]

end Outturn

/-- A request that is fulfilled is not open. -/
theorem isOpen_of_fulfilled {r : StoredRequest β} (fulfilled : r.fulfilled = true) :
    r.isOpen ≠ true := by
  unfold StoredRequest.isOpen
  rw [fulfilled]
  exact Bool.false_ne_true

/-- The storage with a request marked as refunded and its fee split into what is kept and a
refund credit. -/
def refunded (store : Coordinator terms β χ) (requestId : Nat) : Coordinator terms β χ :=
  let r := store.requests requestId
  ((store.setRequest requestId fun r => { r with refunded := true }).earn
    (r.feePaid - r.refundBps.refundShare r.feePaid)).addRefundCredit r.refundAddress
      (r.refundBps.refundShare r.feePaid)

/-! ### Steps -/

/-- The steps that a call made back into a locked contract can take. -/
inductive Quiet (rules : Rules terms β χ) (context : Context) :
    Flow terms β χ → Flow terms β χ → Prop where
  | gift (flow : Flow terms β χ) (amount : Nat) :
    Quiet rules context flow { flow with balance := flow.balance + amount }
  | configure (flow : Flow terms β χ) (setting : Setting terms) :
    Quiet rules context flow
      ((flow.put (setting.apply flow.store)).emit context [setting.event flow.store])
  | evolve (flow : Flow terms β χ) (ext : χ) (events : List Event)
    (allowed : rules.evolve context flow.store.ext ext events) :
    Quiet rules context flow ((flow.put { flow.store with ext := ext }).emit context events)

/-- The steps of a coordinator in one block. -/
inductive Step (rules : Rules terms β χ) (context : Context) :
    Flow terms β χ → Flow terms β χ → Prop where
  | quiet {flow next : Flow terms β χ} (quiet : Quiet rules context flow next) :
    Step rules context flow next
  | guard (flow : Flow terms β χ) (entered : Bool) :
    Step rules context flow (flow.put { flow.store with entered := entered })
  | receive (flow : Flow terms β χ) (amount : Nat) :
    Step rules context flow ({ flow with balance := flow.balance + amount }.owe amount)
  | create (flow : Flow terms β χ) (creation : Creation β) (events : List Event)
    (paid : creation.fee ≤ creation.msg.value) (small : creation.fee < 2 ^ 96)
    (assigned : rules.assign context flow.store.ext flow.store.nextRequestId
      (flow.store.requests flow.store.nextRequestId).binding
      (creation.bind (flow.store.requests flow.store.nextRequestId).binding) events) :
    Step rules context flow
      (((flow.put (creation.apply context flow.store)).emit context
        (creation.events context flow.store ++ events)).owe (-creation.msg.value))
  | rebind (flow : Flow terms β χ) (requestId : Nat) (binding : β) (events : List Event)
    (allowed : rules.rebind context flow.store requestId binding events) :
    Step rules context flow
      ((flow.put (flow.store.setRequest requestId fun r => { r with binding := binding })).emit
        context events)
  | fulfill (flow : Flow terms β χ) (requestId : Nat) (outturn : Outturn)
    (known : (flow.store.requests requestId).consumer ≠ 0)
    (pending : (flow.store.requests requestId).isOpen = true)
    (inTime : context.block.timestamp ≤ (flow.store.requests requestId).deadline)
    (accepted : rules.accept context flow.store requestId outturn.proof outturn.randomness
      outturn.transcriptHash)
    (hashed : outturn.proofHash = context.platform.keccak256 outturn.proof.encode) :
    Step rules context flow
      (((flow.put (outturn.apply flow.store requestId)).emit context
        (outturn.events flow.store requestId)).owe (Outturn.keeperAmount flow.store requestId))
  | deliver (flow : Flow terms β χ) (requestId : Nat) (success : Bool)
    (fulfilled : (flow.store.requests requestId).fulfilled = true)
    (undelivered : (flow.store.requests requestId).delivered = false) :
    Step rules context flow
      (flow.put (flow.store.setRequest requestId fun r => { r with delivered := success }))
  | report (flow : Flow terms β χ) (event : Event) (reports : event.reports = true) :
    Step rules context flow (flow.emit context [event])
  | creditKeeper (flow : Flow terms β χ) (keeper : Address) (amount : Nat) :
    Step rules context flow ((flow.put (flow.store.addKeeperCredit keeper amount)).owe (-amount))
  | refund (flow : Flow terms β χ) (requestId : Nat)
    (known : (flow.store.requests requestId).consumer ≠ 0)
    (pending : (flow.store.requests requestId).isOpen = true)
    (late : (flow.store.requests requestId).deadline < context.block.timestamp) :
    Step rules context flow (flow.put (refunded flow.store requestId))
  | takeRefundCredit (flow : Flow terms β χ) (account : Address) (amount : Nat)
    (credited : amount ≤ flow.store.refundCredits account) :
    Step rules context flow ((flow.put (flow.store.subRefundCredit account amount)).owe amount)
  | takeKeeperCredit (flow : Flow terms β χ) (account : Address) (amount : Nat)
    (credited : amount ≤ flow.store.keeperCredits account) :
    Step rules context flow ((flow.put (flow.store.subKeeperCredit account amount)).owe amount)
  | takeFees (flow : Flow terms β χ) :
    Step rules context flow
      ((flow.put { flow.store with earnedFees := 0 }).owe flow.store.earnedFees)
  | refundDelivered (flow : Flow terms β χ) (requestId : Nat)
    (refunded : (flow.store.requests requestId).refunded = true) :
    Step rules context flow
      (flow.put { flow.store with
        refundCallbackDelivered :=
          Function.update flow.store.refundCallbackDelivered requestId true })
  | send (flow : Flow terms β χ) (amount : Nat) (funded : amount ≤ flow.balance) :
    Step rules context flow ({ flow with balance := flow.balance - amount }.owe (-amount))

/-- The steps of a coordinator in one block, any number of them. -/
def Path (rules : Rules terms β χ) (context : Context) :
    Flow terms β χ → Flow terms β χ → Prop :=
  Relation.ReflTransGen (Step rules context)

/-- The quiet steps in one block, any number of them. -/
def QuietPath (rules : Rules terms β χ) (context : Context) :
    Flow terms β χ → Flow terms β χ → Prop :=
  Relation.ReflTransGen (Quiet rules context)

variable {rules : Rules terms β χ} {context : Context} {flow next : Flow terms β χ}

theorem QuietPath.path (quiet : QuietPath rules context flow next) : Path rules context flow next :=
  Relation.ReflTransGen.mono (fun _ _ => Step.quiet) _ _ quiet

/-- What every step keeps, a path keeps. -/
theorem Path.preserves (holds : Flow terms β χ → Prop)
    (step : ∀ flow next, Step rules context flow next → holds flow → holds next)
    (path : Path rules context flow next) (start : holds flow) : holds next := by
  induction path with
  | refl => exact start
  | tail _ last inductionHypothesis => exact step _ _ last inductionHypothesis

/-! ### What quiet steps leave alone -/

/-- The storage before and after quiet steps: settings and the rest of the storage may change,
and nothing else. -/
structure Undisturbed (before after : Coordinator terms β χ) : Prop where
  entered : after.entered = before.entered
  keeperCredits : after.keeperCredits = before.keeperCredits
  totalKeeperCredits : after.totalKeeperCredits = before.totalKeeperCredits
  nextRequestId : after.nextRequestId = before.nextRequestId
  earnedFees : after.earnedFees = before.earnedFees
  lastServedIndex : after.lastServedIndex = before.lastServedIndex
  servedRequestAt : after.servedRequestAt = before.servedRequestAt
  totalRefundCredits : after.totalRefundCredits = before.totalRefundCredits
  refundCredits : after.refundCredits = before.refundCredits
  requests : after.requests = before.requests
  refundCallbackDelivered : after.refundCallbackDelivered = before.refundCallbackDelivered
  keyHash : after.keyHash = before.keyHash

theorem Undisturbed.refl : Undisturbed store store :=
  ⟨rfl, rfl, rfl, rfl, rfl, rfl, rfl, rfl, rfl, rfl, rfl, rfl⟩

theorem Undisturbed.trans {first second third : Coordinator terms β χ}
    (one : Undisturbed first second) (two : Undisturbed second third) :
    Undisturbed first third :=
  ⟨two.entered.trans one.entered, two.keeperCredits.trans one.keeperCredits,
    two.totalKeeperCredits.trans one.totalKeeperCredits,
    two.nextRequestId.trans one.nextRequestId, two.earnedFees.trans one.earnedFees,
    two.lastServedIndex.trans one.lastServedIndex,
    two.servedRequestAt.trans one.servedRequestAt,
    two.totalRefundCredits.trans one.totalRefundCredits,
    two.refundCredits.trans one.refundCredits, two.requests.trans one.requests,
    two.refundCallbackDelivered.trans one.refundCallbackDelivered,
    two.keyHash.trans one.keyHash⟩

theorem Setting.undisturbed (setting : Setting terms) :
    Undisturbed store (setting.apply store) := by
  cases setting <;> exact ⟨rfl, rfl, rfl, rfl, rfl, rfl, rfl, rfl, rfl, rfl, rfl, rfl⟩

theorem Quiet.undisturbed (quiet : Quiet rules context flow next) :
    Undisturbed flow.store next.store ∧ next.surplus = flow.surplus := by
  cases quiet with
  | gift => exact ⟨Undisturbed.refl _, rfl⟩
  | configure setting => exact ⟨setting.undisturbed flow.store, rfl⟩
  | evolve =>
    exact ⟨⟨rfl, rfl, rfl, rfl, rfl, rfl, rfl, rfl, rfl, rfl, rfl, rfl⟩, rfl⟩

theorem QuietPath.undisturbed (quiet : QuietPath rules context flow next) :
    Undisturbed flow.store next.store ∧ next.surplus = flow.surplus := by
  induction quiet with
  | refl => exact ⟨Undisturbed.refl _, rfl⟩
  | tail _ last inductionHypothesis =>
    obtain ⟨stored, surplus⟩ := last.undisturbed
    exact ⟨inductionHypothesis.1.trans stored, surplus.trans inductionHypothesis.2⟩

/-! ### Books in order -/

/-- The part of the storage's invariant that the code relies on: the totals are the sums of the
credits, slots beyond the last request are blank, and only fulfilled requests are delivered. -/
structure InOrder [Inhabited β] (rules : Rules terms β χ) (store : Coordinator terms β χ) :
    Prop where
  refundTotal : ∑ account, store.refundCredits account = store.totalRefundCredits
  keeperTotal : ∑ account, store.keeperCredits account = store.totalKeeperCredits
  fresh : ∀ requestId, store.nextRequestId ≤ requestId →
    store.requests requestId = .blank ∧ store.refundCallbackDelivered requestId = false
  delivered : ∀ requestId, (store.requests requestId).delivered = true →
    (store.requests requestId).fulfilled = true
  ext : rules.sound store.ext

section InOrder

variable [Inhabited β] {store : Coordinator terms β χ}

section

variable (order : InOrder rules store)

include order

theorem InOrder.refundCredit_le (account : Address) :
    store.refundCredits account ≤ store.totalRefundCredits := by
  rw [← order.refundTotal]
  exact Ledger.le_sum store.refundCredits account

theorem InOrder.keeperCredit_le (account : Address) :
    store.keeperCredits account ≤ store.totalKeeperCredits := by
  rw [← order.keeperTotal]
  exact Ledger.le_sum store.keeperCredits account

/-- A request with a consumer is one of those made. -/
theorem InOrder.lt_of_known {requestId : Nat}
    (known : (store.requests requestId).consumer ≠ 0) : requestId < store.nextRequestId := by
  by_contra beyond
  rw [(order.fresh requestId (Nat.le_of_not_lt beyond)).1] at known
  exact known rfl

theorem InOrder.earn (amount : Nat) :
    InOrder rules (store.earn amount) :=
  ⟨order.refundTotal, order.keeperTotal, order.fresh, order.delivered, order.ext⟩

theorem InOrder.addRefundCredit (account : Address) (amount : Nat) :
    InOrder rules (store.addRefundCredit account amount) where
  refundTotal := by
    have moved := Ledger.sum_update_univ store.refundCredits account
      (store.refundCredits account + amount)
    have total := order.refundTotal
    show ∑ other, Function.update store.refundCredits account _ other =
      store.totalRefundCredits + amount
    omega
  keeperTotal := order.keeperTotal
  fresh := order.fresh
  delivered := order.delivered
  ext := order.ext

theorem InOrder.subRefundCredit {account : Address} {amount : Nat}
    (credited : amount ≤ store.refundCredits account) :
    InOrder rules (store.subRefundCredit account amount) where
  refundTotal := by
    have moved := Ledger.sum_update_univ store.refundCredits account
      (store.refundCredits account - amount)
    have total := order.refundTotal
    have within := order.refundCredit_le account
    show ∑ other, Function.update store.refundCredits account _ other =
      store.totalRefundCredits - amount
    omega
  keeperTotal := order.keeperTotal
  fresh := order.fresh
  delivered := order.delivered
  ext := order.ext

theorem InOrder.addKeeperCredit (account : Address) (amount : Nat) :
    InOrder rules (store.addKeeperCredit account amount) where
  refundTotal := order.refundTotal
  keeperTotal := by
    have moved := Ledger.sum_update_univ store.keeperCredits account
      (store.keeperCredits account + amount)
    have total := order.keeperTotal
    show ∑ other, Function.update store.keeperCredits account _ other =
      store.totalKeeperCredits + amount
    omega
  fresh := order.fresh
  delivered := order.delivered
  ext := order.ext

theorem InOrder.subKeeperCredit {account : Address} {amount : Nat}
    (credited : amount ≤ store.keeperCredits account) :
    InOrder rules (store.subKeeperCredit account amount) where
  refundTotal := order.refundTotal
  keeperTotal := by
    have moved := Ledger.sum_update_univ store.keeperCredits account
      (store.keeperCredits account - amount)
    have total := order.keeperTotal
    have within := order.keeperCredit_le account
    show ∑ other, Function.update store.keeperCredits account _ other =
      store.totalKeeperCredits - amount
    omega
  fresh := order.fresh
  delivered := order.delivered
  ext := order.ext

/-- Writing a request that was made keeps the books in order when it delivers nothing that is not
fulfilled. -/
theorem InOrder.setRequest {requestId : Nat}
    (update : StoredRequest β → StoredRequest β) (made : requestId < store.nextRequestId)
    (delivered : (update (store.requests requestId)).delivered = true →
      (update (store.requests requestId)).fulfilled = true) :
    InOrder rules (store.setRequest requestId update) where
  refundTotal := order.refundTotal
  keeperTotal := order.keeperTotal
  fresh other beyond := by
    have apart : other ≠ requestId := fun same => absurd made (Nat.not_lt.mpr (same ▸ beyond))
    refine ⟨?_, (order.fresh other beyond).2⟩
    show Function.update store.requests requestId _ other = _
    rw [Function.update_of_ne apart]
    exact (order.fresh other beyond).1
  delivered other := by
    show (Function.update store.requests requestId _ other).delivered = true →
      (Function.update store.requests requestId _ other).fulfilled = true
    by_cases same : other = requestId
    · rw [same, Function.update_self]
      exact delivered
    · rw [Function.update_of_ne same]
      exact order.delivered other
  ext := order.ext

theorem InOrder.enroll (r : StoredRequest β)
    (spec : Option RandomnessMapping.Spec) (undelivered : r.delivered = false) :
    InOrder rules (store.enroll r spec) where
  refundTotal := order.refundTotal
  keeperTotal := order.keeperTotal
  fresh other beyond := by
    have later : store.nextRequestId + 1 ≤ other := beyond
    have apart : other ≠ store.nextRequestId := by omega
    refine ⟨?_, (order.fresh other (by omega)).2⟩
    show Function.update store.requests store.nextRequestId r other = _
    rw [Function.update_of_ne apart]
    exact (order.fresh other (by omega)).1
  delivered other := by
    show (Function.update store.requests store.nextRequestId r other).delivered = true →
      (Function.update store.requests store.nextRequestId r other).fulfilled = true
    by_cases same : other = store.nextRequestId
    · rw [same, Function.update_self, undelivered]
      exact fun absurdity => absurd absurdity Bool.false_ne_true
    · rw [Function.update_of_ne same]
      exact order.delivered other
  ext := order.ext

/-- The record of a new request is fresh but for what its creation writes. -/
theorem InOrder.undelivered_record (creation : Creation β) :
    (creation.record context store).delivered = false := by
  show (store.requests store.nextRequestId).delivered = false
  rw [(order.fresh _ (Nat.le_refl _)).1]
  rfl

theorem InOrder.create (creation : Creation β) :
    InOrder rules (creation.apply context store) := by
  have enrolled := order.enroll (creation.record context store) creation.stored
    (order.undelivered_record creation)
  unfold Creation.apply
  dsimp only
  split
  · exact enrolled
  · exact enrolled.addRefundCredit _ _

/-- Storage that differs in other fields only is in order too. -/
theorem InOrder.of_undisturbed {after : Coordinator terms β χ}
    (undisturbed : Undisturbed store after) (ext : rules.sound after.ext) :
    InOrder rules after where
  refundTotal := by
    rw [undisturbed.refundCredits, undisturbed.totalRefundCredits]
    exact order.refundTotal
  keeperTotal := by
    rw [undisturbed.keeperCredits, undisturbed.totalKeeperCredits]
    exact order.keeperTotal
  fresh := by
    rw [undisturbed.nextRequestId, undisturbed.requests, undisturbed.refundCallbackDelivered]
    exact order.fresh
  delivered := by
    rw [undisturbed.requests]
    exact order.delivered
  ext := ext

end

theorem InOrder.quiet (order : InOrder rules flow.store) (quiet : Quiet rules context flow next) :
    InOrder rules next.store := by
  refine order.of_undisturbed quiet.undisturbed.1 ?_
  cases quiet with
  | gift => exact order.ext
  | configure setting => cases setting <;> exact order.ext
  | evolve ext events allowed => exact rules.sound_evolve allowed order.ext

/-- Every step keeps the books in order. -/
theorem InOrder.step (order : InOrder rules flow.store) (step : Step rules context flow next) :
    InOrder rules next.store := by
  cases step with
  | quiet quiet => exact order.quiet quiet
  | guard =>
    exact ⟨order.refundTotal, order.keeperTotal, order.fresh, order.delivered, order.ext⟩
  | receive => exact order
  | create creation => exact order.create creation
  | rebind requestId binding events allowed =>
    exact order.setRequest (fun r => { r with binding := binding })
      (order.lt_of_known (rules.known_rebind allowed)) (order.delivered requestId)
  | fulfill requestId outturn known =>
    have recorded := order.setRequest (fun r => r.withResult outturn.randomness
      outturn.proofHash outturn.transcriptHash) (order.lt_of_known known) fun _ => rfl
    exact ⟨recorded.refundTotal, recorded.keeperTotal, recorded.fresh, recorded.delivered,
      recorded.ext⟩
  | deliver requestId success fulfilled =>
    refine order.setRequest (fun r => { r with delivered := success }) ?_ fun _ => fulfilled
    by_contra beyond
    rw [(order.fresh requestId (Nat.le_of_not_lt beyond)).1] at fulfilled
    exact Bool.false_ne_true fulfilled
  | report => exact order
  | creditKeeper keeper amount => exact order.addKeeperCredit keeper amount
  | refund requestId known =>
    have marked := order.setRequest (fun r => { r with refunded := true })
      (order.lt_of_known known) (order.delivered requestId)
    exact (marked.earn _).addRefundCredit _ _
  | takeRefundCredit account amount credited => exact order.subRefundCredit credited
  | takeKeeperCredit account amount credited => exact order.subKeeperCredit credited
  | takeFees =>
    exact ⟨order.refundTotal, order.keeperTotal, order.fresh, order.delivered, order.ext⟩
  | refundDelivered requestId refunded =>
    refine ⟨order.refundTotal, order.keeperTotal, fun other beyond => ?_, order.delivered,
      order.ext⟩
    refine ⟨(order.fresh other beyond).1, ?_⟩
    show Function.update flow.store.refundCallbackDelivered requestId true other = false
    have apart : other ≠ requestId := by
      rintro rfl
      rw [(order.fresh other beyond).1] at refunded
      exact Bool.false_ne_true refunded
    rw [Function.update_of_ne apart]
    exact (order.fresh other beyond).2
  | send => exact order

theorem InOrder.path (order : InOrder rules flow.store) (path : Path rules context flow next) :
    InOrder rules next.store :=
  path.preserves (fun flow => InOrder rules flow.store) (fun _ _ step order => order.step step) order

end InOrder

end D20
