/-
This file is about the life of a request: made, then fulfilled or refunded, then
delivered.

`Settled` is the invariant of the flags and of the list of served requests. The
list is written together with the flag it mirrors, so the two agree wherever the
contract hands control on.
-/

import D20Keeper.Requests

namespace D20

open Evm

variable {terms : Terms} {β χ κ : Type}

/-! ### Flags and the list of served requests -/

/-- The flags of all requests are consistent, and the list of served requests lists the fulfilled
ones, each of them once. -/
structure Settled (store : Coordinator terms β χ) : Prop where
  exclusive : ∀ requestId, ¬ ((store.requests requestId).fulfilled = true ∧
    (store.requests requestId).refunded = true)
  delivered : ∀ requestId, (store.requests requestId).delivered = true →
    (store.requests requestId).fulfilled = true
  refundDelivered : ∀ requestId, store.refundCallbackDelivered requestId = true →
    (store.requests requestId).refunded = true
  served : ∀ index, 1 ≤ index → index ≤ store.lastServedIndex →
    (store.requests (store.servedRequestAt index)).fulfilled = true
  listed : ∀ requestId, (store.requests requestId).fulfilled = true →
    ∃! index, (1 ≤ index ∧ index ≤ store.lastServedIndex) ∧
      store.servedRequestAt index = requestId

/-- Two storages in which every request has the same flags and which list the same requests as
served. -/
structure SameFlags (before after : Coordinator terms β χ) : Prop where
  fulfilled : ∀ requestId, (after.requests requestId).fulfilled =
    (before.requests requestId).fulfilled
  refunded : ∀ requestId, (after.requests requestId).refunded =
    (before.requests requestId).refunded
  delivered : ∀ requestId, (after.requests requestId).delivered =
    (before.requests requestId).delivered
  refundDelivered : after.refundCallbackDelivered = before.refundCallbackDelivered
  servedRequestAt : after.servedRequestAt = before.servedRequestAt
  lastServedIndex : after.lastServedIndex = before.lastServedIndex

theorem Settled.of_same {before after : Coordinator terms β χ} (settled : Settled before)
    (same : SameFlags before after) : Settled after where
  exclusive requestId := by
    rw [same.fulfilled, same.refunded]
    exact settled.exclusive requestId
  delivered requestId := by
    rw [same.fulfilled, same.delivered]
    exact settled.delivered requestId
  refundDelivered requestId := by
    rw [same.refundDelivered, same.refunded]
    exact settled.refundDelivered requestId
  served index := by
    rw [same.lastServedIndex, same.servedRequestAt, same.fulfilled]
    exact settled.served index
  listed requestId := by
    rw [same.lastServedIndex, same.servedRequestAt, same.fulfilled]
    exact settled.listed requestId

theorem SameFlags.of_undisturbed {before after : Coordinator terms β χ}
    (undisturbed : Undisturbed before after) : SameFlags before after where
  fulfilled requestId := by rw [undisturbed.requests]
  refunded requestId := by rw [undisturbed.requests]
  delivered requestId := by rw [undisturbed.requests]
  refundDelivered := undisturbed.refundCallbackDelivered
  servedRequestAt := undisturbed.servedRequestAt
  lastServedIndex := undisturbed.lastServedIndex

theorem SameFlags.rebind (store : Coordinator terms β χ) (requestId : Nat) (binding : β) :
    SameFlags store (store.setRequest requestId fun r => { r with binding := binding }) :=
  ⟨setRequest_field_of_eq StoredRequest.fulfilled store requestId _ rfl,
    setRequest_field_of_eq StoredRequest.refunded store requestId _ rfl,
    setRequest_field_of_eq StoredRequest.delivered store requestId _ rfl, rfl, rfl, rfl⟩

/-- A new request has the flags of its fresh slot. -/
theorem SameFlags.create (context : Context) (store : Coordinator terms β χ)
    (creation : Creation β) : SameFlags store (creation.apply context store) := by
  have shows : ∀ field : StoredRequest β → Bool,
      field (creation.record context store) = field (store.requests store.nextRequestId) →
      ∀ requestId, field ((creation.apply context store).requests requestId) =
        field (store.requests requestId) := by
    intro field same requestId
    rw [requests_create]
    by_cases at_ : requestId = store.nextRequestId
    · rw [at_, Function.update_self, same]
    · rw [Function.update_of_ne at_]
  have rest : (creation.apply context store).refundCallbackDelivered =
        store.refundCallbackDelivered ∧
      (creation.apply context store).servedRequestAt = store.servedRequestAt ∧
      (creation.apply context store).lastServedIndex = store.lastServedIndex := by
    unfold Creation.apply
    dsimp only
    split <;> exact ⟨rfl, rfl, rfl⟩
  exact ⟨shows StoredRequest.fulfilled rfl, shows StoredRequest.refunded rfl,
    shows StoredRequest.delivered rfl, rest.1, rest.2.1, rest.2.2⟩

theorem unfulfilled_of_isOpen {r : StoredRequest β} (isOpen : r.isOpen = true) :
    r.fulfilled = false := by
  by_contra fulfilled
  exact isOpen_of_fulfilled (Bool.not_eq_false _ ▸ fulfilled) isOpen

theorem unrefunded_of_isOpen {r : StoredRequest β} (isOpen : r.isOpen = true) :
    r.refunded = false := by
  unfold StoredRequest.isOpen at isOpen
  rw [Bool.and_eq_true, Bool.not_eq_true', Bool.not_eq_true'] at isOpen
  exact isOpen.2

variable {store : Coordinator terms β χ} {requestId : Nat}

/-- A fulfillment lists its request as the last one served. -/
theorem Settled.fulfill (settled : Settled store) (outturn : Outturn)
    (isOpen : (store.requests requestId).isOpen = true) :
    Settled (outturn.apply store requestId) := by
  have fulfilledIs : ∀ other, ((outturn.apply store requestId).requests other).fulfilled =
      if other = requestId then true else (store.requests other).fulfilled :=
    setRequest_field StoredRequest.fulfilled store requestId
      (fun r => r.withResult outturn.randomness outturn.proofHash outturn.transcriptHash)
  have refundedIs : ∀ other, ((outturn.apply store requestId).requests other).refunded =
      (store.requests other).refunded :=
    setRequest_field_of_eq StoredRequest.refunded store requestId
      (fun r => r.withResult outturn.randomness outturn.proofHash outturn.transcriptHash) rfl
  have deliveredIs : ∀ other, ((outturn.apply store requestId).requests other).delivered =
      (store.requests other).delivered :=
    setRequest_field_of_eq StoredRequest.delivered store requestId
      (fun r => r.withResult outturn.randomness outturn.proofHash outturn.transcriptHash) rfl
  have unfulfilled := unfulfilled_of_isOpen isOpen
  have servedAt : ∀ index, (outturn.apply store requestId).servedRequestAt index =
      if index = store.lastServedIndex + 1 then requestId else store.servedRequestAt index :=
    fun index => Function.update_apply _ _ _ _
  refine ⟨fun other => ?_, fun other => ?_, fun other => ?_, fun index first last => ?_,
    fun other => ?_⟩
  · rw [fulfilledIs, refundedIs]
    split
    · rename_i same
      rw [same, unrefunded_of_isOpen isOpen]
      exact fun both => Bool.false_ne_true both.2
    · exact settled.exclusive other
  · rw [fulfilledIs, deliveredIs]
    split
    · exact fun _ => rfl
    · exact settled.delivered other
  · rw [refundedIs]
    exact settled.refundDelivered other
  · rw [servedAt, fulfilledIs]
    split
    · rw [if_pos rfl]
    · have earlier := settled.served index first
        (Nat.le_of_lt_succ (Nat.lt_of_le_of_ne last ‹_›))
      split
      · rfl
      · exact earlier
  · rw [fulfilledIs]
    show _ → ∃! index, (1 ≤ index ∧ index ≤ store.lastServedIndex + 1) ∧
      (outturn.apply store requestId).servedRequestAt index = other
    split
    · rename_i same
      intro _
      refine ⟨store.lastServedIndex + 1, ⟨⟨by omega, Nat.le_refl _⟩, ?_⟩, ?_⟩
      · rw [servedAt, if_pos rfl, same]
      · rintro index ⟨⟨first, last⟩, at_⟩
        by_contra apart
        rw [servedAt, if_neg apart] at at_
        have fulfilled := settled.served index first
          (Nat.le_of_lt_succ (Nat.lt_of_le_of_ne last apart))
        rw [at_, same, unfulfilled] at fulfilled
        exact Bool.false_ne_true fulfilled
    · rename_i apart
      intro fulfilled
      obtain ⟨index, ⟨⟨first, last⟩, at_⟩, unique⟩ := settled.listed other fulfilled
      refine ⟨index, ⟨⟨first, by omega⟩, ?_⟩, ?_⟩
      · rw [servedAt, if_neg (by omega), at_]
      · rintro index' ⟨⟨first', last'⟩, at_'⟩
        rw [servedAt] at at_'
        split at at_'
        · exact absurd at_'.symm apart
        · rename_i notLast
          exact unique index' ⟨⟨first', Nat.le_of_lt_succ (Nat.lt_of_le_of_ne last' notLast)⟩,
            at_'⟩

/-- A refund marks an open request. -/
theorem Settled.refund (settled : Settled store)
    (isOpen : (store.requests requestId).isOpen = true) : Settled (refunded store requestId) := by
  have fulfilledIs : ∀ other, ((refunded store requestId).requests other).fulfilled =
      (store.requests other).fulfilled :=
    setRequest_field_of_eq StoredRequest.fulfilled store requestId
      (fun r => { r with refunded := true }) rfl
  have refundedIs : ∀ other, ((refunded store requestId).requests other).refunded =
      if other = requestId then true else (store.requests other).refunded :=
    setRequest_field StoredRequest.refunded store requestId
      (fun r => { r with refunded := true })
  have deliveredIs : ∀ other, ((refunded store requestId).requests other).delivered =
      (store.requests other).delivered :=
    setRequest_field_of_eq StoredRequest.delivered store requestId
      (fun r => { r with refunded := true }) rfl
  refine ⟨fun other => ?_, fun other => ?_, fun other => ?_, fun index => ?_, fun other => ?_⟩
  · rw [fulfilledIs, refundedIs]
    split
    · rename_i same
      rw [same, unfulfilled_of_isOpen isOpen]
      exact fun both => Bool.false_ne_true both.1
    · exact settled.exclusive other
  · rw [fulfilledIs, deliveredIs]
    exact settled.delivered other
  · rw [refundedIs]
    intro delivered
    split
    · rfl
    · exact settled.refundDelivered other delivered
  · rw [fulfilledIs]
    exact settled.served index
  · rw [fulfilledIs]
    exact settled.listed other

/-- A delivery marks a fulfilled request. -/
theorem Settled.deliver (settled : Settled store) (success : Bool)
    (fulfilled : (store.requests requestId).fulfilled = true) :
    Settled (store.setRequest requestId fun r => { r with delivered := success }) := by
  have fulfilledIs := setRequest_field_of_eq StoredRequest.fulfilled store requestId
    (fun r => { r with delivered := success }) rfl
  have refundedIs := setRequest_field_of_eq StoredRequest.refunded store requestId
    (fun r => { r with delivered := success }) rfl
  have deliveredIs := setRequest_field StoredRequest.delivered store requestId
    (fun r => { r with delivered := success })
  refine ⟨fun other => ?_, fun other => ?_, fun other => ?_, fun index => ?_, fun other => ?_⟩
  · rw [fulfilledIs, refundedIs]
    exact settled.exclusive other
  · rw [fulfilledIs, deliveredIs]
    split
    · rename_i same
      rw [same]
      exact fun _ => fulfilled
    · exact settled.delivered other
  · rw [refundedIs]
    exact settled.refundDelivered other
  · rw [fulfilledIs]
    exact settled.served index
  · rw [fulfilledIs]
    exact settled.listed other

/-- Telling of a refund marks a refunded request. -/
theorem Settled.refundDelivery (settled : Settled store)
    (refunded : (store.requests requestId).refunded = true) :
    Settled { store with
      refundCallbackDelivered := Function.update store.refundCallbackDelivered requestId true } := by
  refine ⟨settled.exclusive, settled.delivered, fun other => ?_, settled.served, settled.listed⟩
  show Function.update store.refundCallbackDelivered requestId true other = true → _
  by_cases same : other = requestId
  · rw [same]
    exact fun _ => refunded
  · rw [Function.update_of_ne same]
    exact settled.refundDelivered other

/-- Every step keeps the flags consistent. -/
theorem Settled.step {rules : Rules terms β χ} {context : Context} {flow next : Flow terms β χ}
    (settled : Settled flow.store) (step : Step rules context flow next) : Settled next.store := by
  cases step with
  | quiet quiet => exact settled.of_same (.of_undisturbed quiet.undisturbed.1)
  | create creation =>
    exact settled.of_same (.create context flow.store creation)
  | rebind requestId binding =>
    exact settled.of_same (.rebind flow.store requestId binding)
  | fulfill requestId outturn known pending =>
    exact settled.fulfill outturn pending
  | deliver requestId success fulfilled => exact settled.deliver success fulfilled
  | refund requestId known pending => exact settled.refund pending
  | refundDelivered requestId refunded => exact settled.refundDelivery refunded
  | _ => exact ⟨settled.exclusive, settled.delivered, settled.refundDelivered, settled.served,
      settled.listed⟩

/-! ### What is set stays set -/

/-- A flag of a request that is set stays set, and a result stays as it is. -/
structure Persists (before after : Coordinator terms β χ) (requestId : Nat) : Prop where
  fulfilled : (before.requests requestId).fulfilled = true →
    (after.requests requestId).fulfilled = true
  refunded : (before.requests requestId).refunded = true →
    (after.requests requestId).refunded = true
  delivered : (before.requests requestId).delivered = true →
    (after.requests requestId).delivered = true
  refundDelivered : before.refundCallbackDelivered requestId = true →
    after.refundCallbackDelivered requestId = true
  result : (before.requests requestId).fulfilled = true →
    (after.requests requestId).randomness = (before.requests requestId).randomness ∧
    (after.requests requestId).proofHash = (before.requests requestId).proofHash ∧
    (after.requests requestId).transcriptHash = (before.requests requestId).transcriptHash

theorem Persists.refl (store : Coordinator terms β χ) (requestId : Nat) :
    Persists store store requestId := ⟨id, id, id, id, fun _ => ⟨rfl, rfl, rfl⟩⟩

theorem Persists.trans {first second third : Coordinator terms β χ}
    (one : Persists first second requestId) (two : Persists second third requestId) :
    Persists first third requestId where
  fulfilled set := two.fulfilled (one.fulfilled set)
  refunded set := two.refunded (one.refunded set)
  delivered set := two.delivered (one.delivered set)
  refundDelivered set := two.refundDelivered (one.refundDelivered set)
  result set := by
    obtain ⟨randomness, proofHash, transcriptHash⟩ := one.result set
    obtain ⟨randomness', proofHash', transcriptHash'⟩ := two.result (one.fulfilled set)
    exact ⟨randomness'.trans randomness, proofHash'.trans proofHash,
      transcriptHash'.trans transcriptHash⟩

section Steps

variable {rules : Rules terms β χ} {context : Context} {flow next : Flow terms β χ}

variable {requestId : Nat}

theorem Step.refundDelivered_mono (step : Step rules context flow next)
    (set : flow.store.refundCallbackDelivered requestId = true) :
    next.store.refundCallbackDelivered requestId = true := by
  cases step with
  | quiet quiet => exact (congrFun quiet.undisturbed.1.refundCallbackDelivered _).trans set
  | create creation =>
    exact (congrFun (SameFlags.create context flow.store creation).refundDelivered _).trans set
  | refundDelivered other =>
    show Function.update flow.store.refundCallbackDelivered other true requestId = true
    by_cases same : requestId = other
    · rw [same, Function.update_self]
    · rw [Function.update_of_ne same]
      exact set
  | _ => exact set

/-- A step that does not fulfill a request leaves all these flags alone. -/
theorem Step.fulfills_or_same (step : Step rules context flow next) :
    (∃ requestId outturn, Fulfills rules context flow next requestId outturn) ∨
      ∀ requestId, (next.store.requests requestId).fulfilled =
        (flow.store.requests requestId).fulfilled := by
  cases step with
  | quiet quiet => exact .inr (SameFlags.of_undisturbed quiet.undisturbed.1).fulfilled
  | create creation =>
    exact .inr (SameFlags.create context flow.store creation).fulfilled
  | rebind requestId binding =>
    exact .inr (SameFlags.rebind flow.store requestId binding).fulfilled
  | fulfill requestId outturn known pending inTime accepted hashed =>
    exact .inl ⟨requestId, outturn, known, pending, inTime, accepted, hashed, rfl⟩
  | deliver requestId success =>
    exact .inr (setRequest_field_of_eq StoredRequest.fulfilled flow.store requestId
      (fun r => { r with delivered := success }) rfl)
  | refund requestId =>
    exact .inr (setRequest_field_of_eq StoredRequest.fulfilled flow.store requestId
      (fun r => { r with refunded := true }) rfl)
  | _ => exact .inr fun _ => rfl

/-- A step that does not refund a request leaves all these flags alone. -/
theorem Step.refunds_or_same (step : Step rules context flow next) :
    (∃ requestId, (flow.store.requests requestId).deadline < context.block.timestamp ∧
      next.store = refunded flow.store requestId) ∨
      ∀ requestId, (next.store.requests requestId).refunded =
        (flow.store.requests requestId).refunded := by
  cases step with
  | quiet quiet => exact .inr (SameFlags.of_undisturbed quiet.undisturbed.1).refunded
  | create creation =>
    exact .inr (SameFlags.create context flow.store creation).refunded
  | rebind requestId binding =>
    exact .inr (SameFlags.rebind flow.store requestId binding).refunded
  | fulfill requestId outturn =>
    exact .inr (setRequest_field_of_eq StoredRequest.refunded flow.store requestId
      (fun r => r.withResult outturn.randomness outturn.proofHash outturn.transcriptHash) rfl)
  | deliver requestId success =>
    exact .inr (setRequest_field_of_eq StoredRequest.refunded flow.store requestId
      (fun r => { r with delivered := success }) rfl)
  | refund requestId known pending late => exact .inl ⟨requestId, late, rfl⟩
  | _ => exact .inr fun _ => rfl

variable [Inhabited β]

/-- What is set before a step is set after it. -/
theorem Step.persists (step : Step rules context flow next) (order : InOrder rules flow.store)
    (requestId : Nat) : Persists flow.store next.store requestId := by
  by_cases made : requestId < flow.store.nextRequestId
  · have ages := step.ages made
    exact ⟨ages.fulfilled, ages.refunded, ages.delivered, step.refundDelivered_mono, ages.result⟩
  · obtain ⟨blank, untold⟩ := order.fresh requestId (Nat.le_of_not_lt made)
    have never : ∀ {claim : Prop} {flag : Bool}, flag = false → flag = true → claim :=
      fun unset set => absurd (unset.symm.trans set) Bool.false_ne_true
    exact ⟨never (by rw [blank]; rfl), never (by rw [blank]; rfl), never (by rw [blank]; rfl),
      never untold, never (by rw [blank]; rfl)⟩

/-! ### In time and late -/

/-- What was fulfilled between two states of a block was fulfilled in time, and what was refunded
was refunded late. -/
structure Timely (block : Block) (before after : Coordinator terms β χ) : Prop where
  fulfilled : ∀ requestId, (before.requests requestId).fulfilled = false →
    (after.requests requestId).fulfilled = true →
    block.timestamp ≤ (after.requests requestId).deadline
  refunded : ∀ requestId, (before.requests requestId).refunded = false →
    (after.requests requestId).refunded = true →
    (after.requests requestId).deadline < block.timestamp

omit [Inhabited β] in
theorem Timely.refl (block : Block) (store : Coordinator terms β χ) : Timely block store store :=
  ⟨fun _ unset set => absurd (unset.symm.trans set) Bool.false_ne_true,
    fun _ unset set => absurd (unset.symm.trans set) Bool.false_ne_true⟩

/-- A request with a flag set was made. -/
theorem InOrder.made_of_fulfilled {store : Coordinator terms β χ} (order : InOrder rules store)
    (set : (store.requests requestId).fulfilled = true) : requestId < store.nextRequestId := by
  by_contra beyond
  rw [(order.fresh requestId (Nat.le_of_not_lt beyond)).1] at set
  exact Bool.false_ne_true set

theorem InOrder.made_of_refunded {store : Coordinator terms β χ} (order : InOrder rules store)
    (set : (store.requests requestId).refunded = true) : requestId < store.nextRequestId := by
  by_contra beyond
  rw [(order.fresh requestId (Nat.le_of_not_lt beyond)).1] at set
  exact Bool.false_ne_true set

theorem Timely.step {start : Coordinator terms β χ} (timely : Timely context.block start flow.store)
    (order : InOrder rules flow.store) (step : Step rules context flow next) :
    Timely context.block start next.store := by
  refine ⟨fun requestId unset set => ?_, fun requestId unset set => ?_⟩
  · by_cases already : (flow.store.requests requestId).fulfilled = true
    · rw [(step.ages (order.made_of_fulfilled already)).deadline]
      exact timely.fulfilled requestId unset already
    · rcases step.fulfills_or_same with ⟨other, outturn, fulfills⟩ | same
      · have same : requestId = other := by
          by_contra apart
          rw [fulfills.store] at set
          have kept := setRequest_field StoredRequest.fulfilled flow.store other
            (fun r => r.withResult outturn.randomness outturn.proofHash outturn.transcriptHash)
            requestId
          rw [if_neg apart] at kept
          exact already (kept.symm.trans set)
        rw [same, (step.ages (order.lt_of_known fulfills.known)).deadline]
        exact fulfills.inTime
      · exact absurd ((same requestId).symm.trans set) already
  · by_cases already : (flow.store.requests requestId).refunded = true
    · rw [(step.ages (order.made_of_refunded already)).deadline]
      exact timely.refunded requestId unset already
    · rcases step.refunds_or_same with ⟨other, late, store⟩ | same
      · have same : requestId = other := by
          by_contra apart
          rw [store] at set
          have kept := setRequest_field StoredRequest.refunded flow.store other
            (fun r => { r with refunded := true }) requestId
          rw [if_neg apart] at kept
          exact already (kept.symm.trans set)
        have deadline : (next.store.requests other).deadline =
            (flow.store.requests other).deadline := by
          rw [store]
          exact setRequest_field_of_eq StoredRequest.deadline flow.store other
            (fun r => { r with refunded := true }) rfl other
        rw [same, deadline]
        exact late
      · exact absurd ((same requestId).symm.trans set) already

end Steps

/-! ### Life cycles of runs -/

/-- What holds in a state between transactions, in every later one, and throughout any transaction
sent next. -/
structure LifeCycle (exec : Block → Nat → κ → Program terms β χ κ Unit)
    (state : Committed (Coordinator terms β χ) Event) : Prop where
  settled : Settled state.account.storage
  settledAtCalls : ∀ (submission : Submission κ Views),
    ∀ point ∈ (submission.outcome exec state).points, ∀ target value limit forwarded,
      point.happening = .call target value limit forwarded → Settled point.account.storage
  persists : ∀ (submissions : List (Submission κ Views)) requestId,
    Persists state.account.storage (runAll exec state submissions).account.storage requestId
  timely : ∀ submission : Submission κ Views,
    Timely submission.block state.account.storage (submission.commit exec state).account.storage

section Runs

variable [Inhabited β] {contract : Contract terms β χ κ}

theorem keeps_settled : contract.Keeps (fun _ _ => True) fun _ flow => Settled flow.store :=
  ⟨fun step _ settled => settled.step step, fun _ settled => settled⟩

theorem keeps_persists (start : Coordinator terms β χ) :
    contract.Keeps (fun _ _ => True) fun _ flow =>
      ∀ requestId, Persists start flow.store requestId :=
  ⟨fun step order persists requestId => (persists requestId).trans (step.persists order requestId),
    fun _ persists => persists⟩

variable (contract) in
/-- A contract whose flags are consistent goes through life cycles. -/
theorem lifeCycle_runAll (state : Committed (Coordinator terms β χ) Event)
    (admits : ∀ env, contract.admits env) (order : InOrder contract.rules state.account.storage)
    (settled : Settled state.account.storage) (submissions : List (Submission κ Views)) :
    LifeCycle contract.exec (runAll contract.exec state submissions) := by
  obtain ⟨order', settled'⟩ := keeps_settled.runAll (follows_true state submissions)
    (fun submission _ => admits submission.env) order settled
  generalize runAll contract.exec state submissions = later at order' settled'
  refine ⟨settled', fun submission point member target value limit forwarded call => ?_,
    fun more requestId => ?_, fun submission => ?_⟩
  · obtain ⟨points, -⟩ := Contract.outcome_spec order' (admits submission.env)
    have seen := points point member
    unfold Seen at seen
    rw [call] at seen
    obtain ⟨logs, surplus, reached, -⟩ := seen
    exact reached.preserves (fun flow => Settled flow.store)
      (fun _ _ step settled => settled.step step) settled'
  · exact ((keeps_persists later.account.storage).runAll (follows_true later more)
      (fun submission _ => admits submission.env) order'
      fun other => Persists.refl _ other).2 requestId
  · have path := Contract.path_commit order' (admits submission.env)
    exact (path.preserves (fun flow => InOrder contract.rules flow.store ∧
        Timely submission.block later.account.storage flow.store)
      (fun _ _ step kept => ⟨kept.1.step step, kept.2.step kept.1 step⟩)
      ⟨order', Timely.refl _ _⟩).2

end Runs

theorem Newborn.settled [Inhabited β] (newborn : Newborn store) : Settled store := by
  refine ⟨fun _ => ?_, fun _ => ?_, fun _ => ?_, fun index first last => ?_, fun _ => ?_⟩
  · rw [newborn.requests]
    exact fun both => Bool.false_ne_true both.1
  · rw [newborn.requests]
    exact id
  · rw [newborn.refundCallbackDelivered]
    exact fun absurdity => absurd absurdity Bool.false_ne_true
  · rw [newborn.lastServedIndex] at last
    omega
  · rw [newborn.requests]
    exact fun absurdity => absurd absurdity Bool.false_ne_true

/-- Requests of both coordinators go through their life cycle in every run, whatever their
consumers do. -/
theorem request_life_cycle :
    (∀ (deployment : RoundDeployment) (submissions : List (Submission RoundMessage Views)),
      LifeCycle deployment.exec (runAll deployment.exec deployment.initial submissions)) ∧
    ∀ (deployment : EpochDeployment) (submissions : List (Submission EpochMessage Views)),
      LifeCycle deployment.exec (runAll deployment.exec deployment.initial submissions) := by
  refine ⟨fun deployment submissions => ?_, fun deployment submissions => ?_⟩
  · exact lifeCycle_runAll (deployment.contract fun _ _ _ => True) deployment.initial
      (fun env _ _ _ _ _ _ => trivial) (deployment.inOrder _) deployment.leaves.newborn.settled
      submissions
  · exact lifeCycle_runAll deployment.contract deployment.initial (fun _ => trivial)
      deployment.inOrder deployment.leaves.newborn.settled submissions

end D20
