/-
This file says what steps do to the records of requests, and what the events of a
step tell about it.

`Ages` is what any number of steps can do to the record of a request that was
made: what was written at its creation stays, flags are only set, and a result
stays as it is. How a contract binds its requests is seen through the cases of
`Step.binding_cases`, `Step.ext_cases` and `Step.made_cases`.
-/

import D20Keeper.Deployment

namespace D20

open Evm

variable {terms : Terms} {β χ κ : Type}

/-! ### How a record ages -/

/-- What steps can do to the record of a request that was made. -/
structure Ages (before after : StoredRequest β) : Prop where
  consumer : after.consumer = before.consumer
  callbackGasLimit : after.callbackGasLimit = before.callbackGasLimit
  requestBlock : after.requestBlock = before.requestBlock
  deadline : after.deadline = before.deadline
  refundAddress : after.refundAddress = before.refundAddress
  clientSeed : after.clientSeed = before.clientSeed
  mappingHash : after.mappingHash = before.mappingHash
  feePaid : after.feePaid = before.feePaid
  refundBps : after.refundBps = before.refundBps
  fulfilled : before.fulfilled = true → after.fulfilled = true
  refunded : before.refunded = true → after.refunded = true
  delivered : before.delivered = true → after.delivered = true
  result : before.fulfilled = true → after.randomness = before.randomness ∧
    after.proofHash = before.proofHash ∧ after.transcriptHash = before.transcriptHash

variable (r : StoredRequest β)

theorem Ages.refl : Ages r r :=
  ⟨rfl, rfl, rfl, rfl, rfl, rfl, rfl, rfl, rfl, id, id, id, fun _ => ⟨rfl, rfl, rfl⟩⟩

theorem Ages.of_eq {before after : StoredRequest β} (same : after = before) : Ages before after :=
  same ▸ Ages.refl after

theorem Ages.trans {first second third : StoredRequest β} (one : Ages first second)
    (two : Ages second third) : Ages first third where
  consumer := two.consumer.trans one.consumer
  callbackGasLimit := two.callbackGasLimit.trans one.callbackGasLimit
  requestBlock := two.requestBlock.trans one.requestBlock
  deadline := two.deadline.trans one.deadline
  refundAddress := two.refundAddress.trans one.refundAddress
  clientSeed := two.clientSeed.trans one.clientSeed
  mappingHash := two.mappingHash.trans one.mappingHash
  feePaid := two.feePaid.trans one.feePaid
  refundBps := two.refundBps.trans one.refundBps
  fulfilled set := two.fulfilled (one.fulfilled set)
  refunded set := two.refunded (one.refunded set)
  delivered set := two.delivered (one.delivered set)
  result set := by
    obtain ⟨randomness, proofHash, transcriptHash⟩ := one.result set
    obtain ⟨randomness', proofHash', transcriptHash'⟩ := two.result (one.fulfilled set)
    exact ⟨randomness'.trans randomness, proofHash'.trans proofHash,
      transcriptHash'.trans transcriptHash⟩

/-- Recording a result ages an open request. -/
theorem ages_withResult {r : StoredRequest β} (isOpen : r.isOpen = true)
    (randomness proofHash transcript : Bytes32) :
    Ages r (r.withResult randomness proofHash transcript) :=
  ⟨rfl, rfl, rfl, rfl, rfl, rfl, rfl, rfl, rfl, fun _ => rfl, id, id, fun fulfilled =>
    absurd isOpen (isOpen_of_fulfilled fulfilled)⟩

theorem ages_binding (binding : β) :
    Ages r { r with binding := binding } :=
  ⟨rfl, rfl, rfl, rfl, rfl, rfl, rfl, rfl, rfl, id, id, id, fun _ => ⟨rfl, rfl, rfl⟩⟩

theorem ages_delivered {r : StoredRequest β} (undelivered : r.delivered = false)
    (success : Bool) : Ages r { r with delivered := success } :=
  ⟨rfl, rfl, rfl, rfl, rfl, rfl, rfl, rfl, rfl, id, id,
    fun delivered => absurd (delivered.symm.trans undelivered) Bool.true_eq_false.mp,
    fun _ => ⟨rfl, rfl, rfl⟩⟩

theorem ages_refunded : Ages r { r with refunded := true } :=
  ⟨rfl, rfl, rfl, rfl, rfl, rfl, rfl, rfl, rfl, id, fun _ => rfl, id, fun _ => ⟨rfl, rfl, rfl⟩⟩

/-- Writing one request ages every record when it ages that one. -/
theorem ages_setRequest {store : Coordinator terms β χ} {requestId : Nat}
    (update : StoredRequest β → StoredRequest β)
    (ages : Ages (store.requests requestId) (update (store.requests requestId))) (other : Nat) :
    Ages (store.requests other) ((store.setRequest requestId update).requests other) := by
  show Ages (store.requests other) (Function.update store.requests requestId _ other)
  by_cases same : other = requestId
  · rw [same, Function.update_self]
    exact ages
  · rw [Function.update_of_ne same]
    exact Ages.refl _

/-- What a field of the records shows after one request is written. -/
theorem setRequest_field {α : Type} (field : StoredRequest β → α) (store : Coordinator terms β χ)
    (requestId : Nat) (update : StoredRequest β → StoredRequest β) (other : Nat) :
    field ((store.setRequest requestId update).requests other) =
      if other = requestId then field (update (store.requests requestId))
      else field (store.requests other) := by
  show field (Function.update store.requests requestId _ other) = _
  by_cases same : other = requestId
  · rw [if_pos same, same, Function.update_self]
  · rw [if_neg same, Function.update_of_ne same]

theorem setRequest_field_of_eq {α : Type} (field : StoredRequest β → α)
    (store : Coordinator terms β χ) (requestId : Nat)
    (update : StoredRequest β → StoredRequest β)
    (same : field (update (store.requests requestId)) = field (store.requests requestId))
    (other : Nat) :
    field ((store.setRequest requestId update).requests other) =
      field (store.requests other) := by
  rw [setRequest_field field]
  split
  · rename_i at_
    rw [same, at_]
  · rfl

theorem requests_create (context : Context) (store : Coordinator terms β χ)
    (creation : Creation β) :
    (creation.apply context store).requests =
      Function.update store.requests store.nextRequestId (creation.record context store) := by
  unfold Creation.apply
  dsimp only
  split <;> rfl

theorem nextRequestId_create (context : Context) (store : Coordinator terms β χ)
    (creation : Creation β) :
    (creation.apply context store).nextRequestId = store.nextRequestId + 1 := by
  unfold Creation.apply
  dsimp only
  split <;> rfl

section Steps

variable {rules : Rules terms β χ} {context : Context} {flow next : Flow terms β χ}

variable {requestId : Nat} (step : Step rules context flow next)

include step

/-- A step ages the records of the requests that were made. -/
theorem Step.ages (made : requestId < flow.store.nextRequestId) :
    Ages (flow.store.requests requestId) (next.store.requests requestId) := by
  cases step with
  | quiet quiet => exact Ages.of_eq (congrFun quiet.undisturbed.1.requests requestId)
  | create creation =>
    refine Ages.of_eq ?_
    show (creation.apply context flow.store).requests requestId = _
    rw [requests_create, Function.update_of_ne (Nat.ne_of_lt made)]
  | rebind other binding =>
    exact ages_setRequest (fun r => { r with binding := binding }) (ages_binding _ binding) _
  | fulfill other outturn known pending =>
    exact ages_setRequest (fun r => r.withResult outturn.randomness outturn.proofHash
      outturn.transcriptHash) (ages_withResult pending _ _ _) requestId
  | deliver other success fulfilled undelivered =>
    exact ages_setRequest (fun r => { r with delivered := success })
      (ages_delivered undelivered success) requestId
  | refund =>
    exact ages_setRequest (fun r => { r with refunded := true }) (ages_refunded _) requestId
  | _ => exact Ages.refl _

/-- No step takes a request back. -/
theorem Step.nextRequestId_le : flow.store.nextRequestId ≤ next.store.nextRequestId := by
  cases step with
  | quiet quiet => exact quiet.undisturbed.1.nextRequestId.ge
  | create creation =>
    show _ ≤ (creation.apply context flow.store).nextRequestId
    rw [nextRequestId_create]
    exact Nat.le_succ _
  | _ => exact Nat.le_refl _

/-- The binding of a request that was made changes only when a step completes it. -/
theorem Step.binding_cases (made : requestId < flow.store.nextRequestId) :
    (next.store.requests requestId).binding = (flow.store.requests requestId).binding ∨
      ∃ events, rules.rebind context flow.store requestId
        (next.store.requests requestId).binding events := by
  cases step with
  | quiet quiet => exact .inl (by rw [quiet.undisturbed.1.requests])
  | create creation =>
    refine .inl ?_
    show ((creation.apply context flow.store).requests requestId).binding = _
    rw [requests_create, Function.update_of_ne (Nat.ne_of_lt made)]
  | rebind other binding events allowed =>
    have shows := setRequest_field StoredRequest.binding flow.store other
      (fun r => { r with binding := binding }) requestId
    by_cases same : requestId = other
    · refine .inr ⟨events, ?_⟩
      show rules.rebind context flow.store requestId ((flow.store.setRequest other fun r =>
        { r with binding := binding }).requests requestId).binding events
      rw [shows, if_pos same, same]
      exact allowed
    · rw [if_neg same] at shows
      exact .inl shows
  | fulfill other outturn =>
    exact .inl (setRequest_field_of_eq StoredRequest.binding flow.store other
      (fun r => r.withResult outturn.randomness outturn.proofHash outturn.transcriptHash) rfl _)
  | deliver other success =>
    exact .inl (setRequest_field_of_eq StoredRequest.binding flow.store other
      (fun r => { r with delivered := success }) rfl _)
  | refund other =>
    exact .inl (setRequest_field_of_eq StoredRequest.binding flow.store other
      (fun r => { r with refunded := true }) rfl _)
  | _ => exact .inl rfl

/-- The part of the storage that is a contract's own changes only when a step evolves it, and then
no request changes. -/
theorem Step.ext_cases : next.store.ext = flow.store.ext ∨
      (∃ events, rules.evolve context flow.store.ext next.store.ext events) ∧
        next.store.requests = flow.store.requests ∧
        next.store.nextRequestId = flow.store.nextRequestId := by
  cases step with
  | quiet quiet =>
    cases quiet with
    | gift => exact .inl rfl
    | configure setting => cases setting <;> exact .inl rfl
    | evolve ext events allowed => exact .inr ⟨⟨events, allowed⟩, rfl, rfl⟩
  | create creation =>
    refine .inl ?_
    show (creation.apply context flow.store).ext = _
    unfold Creation.apply
    dsimp only
    split <;> rfl
  | _ => exact .inl rfl

/-- A request that is made after a step was made before or is the step's. -/
theorem Step.made_cases (made : requestId < next.store.nextRequestId) :
    requestId < flow.store.nextRequestId ∨
      requestId = flow.store.nextRequestId ∧ ∃ (creation : Creation β) (events : List Event),
        next.store.requests requestId = creation.record context flow.store ∧
        rules.assign context flow.store.ext requestId (flow.store.requests requestId).binding
          (creation.bind (flow.store.requests requestId).binding) events := by
  cases step with
  | quiet quiet => exact .inl (quiet.undisturbed.1.nextRequestId ▸ made)
  | create creation events paid small assigned =>
    have below : requestId < (creation.apply context flow.store).nextRequestId := made
    rw [nextRequestId_create] at below
    rcases Nat.lt_succ_iff_lt_or_eq.mp below with earlier | rfl
    · exact .inl earlier
    · refine .inr ⟨rfl, creation, events, ?_, assigned⟩
      show (creation.apply context flow.store).requests _ = _
      rw [requests_create, Function.update_self]
  | _ => exact .inl made

/-- The key of a coordinator is fixed. -/
theorem Step.keyHash_eq : next.store.keyHash = flow.store.keyHash := by
  cases step with
  | quiet quiet => exact quiet.undisturbed.1.keyHash
  | create creation =>
    show (creation.apply context flow.store).keyHash = _
    unfold Creation.apply
    dsimp only
    split <;> rfl
  | _ => rfl

omit step

/-! ### What the events of a step tell -/

/-- A step that creates a request. -/
structure Creates (rules : Rules terms β χ) (context : Context) (flow next : Flow terms β χ)
    (creation : Creation β) : Prop where
  paid : creation.fee ≤ creation.msg.value
  small : creation.fee < 2 ^ 96
  store : next.store = creation.apply context flow.store

/-- A step that fulfills a request. -/
structure Fulfills (rules : Rules terms β χ) (context : Context) (flow next : Flow terms β χ)
    (requestId : Nat) (outturn : Outturn) : Prop where
  known : (flow.store.requests requestId).consumer ≠ 0
  pending : (flow.store.requests requestId).isOpen = true
  inTime : context.block.timestamp ≤ (flow.store.requests requestId).deadline
  accepted : rules.accept context flow.store requestId outturn.proof outturn.randomness
    outturn.transcriptHash
  hashed : outturn.proofHash = context.platform.keccak256 outturn.proof.encode
  store : next.store = outturn.apply flow.store requestId

theorem Event.plain_of_reports {event : Event} (reports : event.reports = true) :
    event.isCore = false := by
  cases event <;> first | rfl | cases reports

/-- The events between two flows: they are of the block, and an event of creating or of fulfilling a
request comes from a step that does so. -/
structure Emits (rules : Rules terms β χ) (context : Context) (flow next : Flow terms β χ)
    (events : List Event) : Prop where
  logs : next.logs = flow.logs ++ events.map fun event => (context.block, event)
  core : ∀ event ∈ events, event.isCore = true →
    (∃ creation, Creates rules context flow next creation ∧
      event ∈ creation.events context flow.store) ∨
    ∃ requestId outturn, Fulfills rules context flow next requestId outturn ∧
      event ∈ outturn.events flow.store requestId

theorem Emits.of_plain {events : List Event} (plain : ∀ event ∈ events, event.isCore = false)
    (logs : next.logs = flow.logs ++ events.map fun event => (context.block, event)) :
    Emits rules context flow next events :=
  ⟨logs, fun event member core =>
    absurd (core.symm.trans (plain event member)) Bool.true_eq_false.mp⟩

theorem Emits.of_silent (same : next.logs = flow.logs) : Emits rules context flow next [] :=
  .of_plain (fun _ member => absurd member List.not_mem_nil)
    (by rw [same, List.map_nil, List.append_nil])

theorem Step.emits (step : Step rules context flow next) :
    ∃ events, Emits rules context flow next events := by
  cases step with
  | quiet quiet =>
    cases quiet with
    | gift => exact ⟨_, .of_silent rfl⟩
    | configure setting =>
      refine ⟨_, .of_plain (fun event member => ?_) rfl⟩
      rw [List.mem_singleton.mp member]
      cases setting <;> rfl
    | evolve ext events allowed => exact ⟨_, .of_plain (rules.plain_evolve allowed) rfl⟩
  | create creation events paid small assigned =>
    refine ⟨_, rfl, fun event member core => .inl ⟨creation, ⟨paid, small, rfl⟩, ?_⟩⟩
    rcases List.mem_append.mp member with own | other
    · exact own
    · exact absurd (core.symm.trans (rules.plain_assign assigned event other))
        Bool.true_eq_false.mp
  | rebind requestId binding events allowed =>
    exact ⟨_, .of_plain (rules.plain_rebind allowed) rfl⟩
  | fulfill requestId outturn known pending inTime accepted hashed =>
    exact ⟨_, rfl, fun event member _ => .inr ⟨requestId, outturn,
      ⟨known, pending, inTime, accepted, hashed, rfl⟩, member⟩⟩
  | report event reports =>
    refine ⟨_, .of_plain (fun other member => ?_) rfl⟩
    rw [List.mem_singleton.mp member]
    exact Event.plain_of_reports reports
  | _ => exact ⟨_, .of_silent rfl⟩

/-- A proof that was announced as verified was announced before a step or is of the request that the
step fulfills. -/
theorem Step.verified_cases (step : Step rules context flow next) {block : Block}
    {keyHash : Bytes32} {seed : Nat} {proofHash : Bytes32}
    (member : (block, Event.proofVerified requestId keyHash seed proofHash) ∈ next.logs) :
    (block, Event.proofVerified requestId keyHash seed proofHash) ∈ flow.logs ∨
      ∃ outturn, Fulfills rules context flow next requestId outturn ∧ seed = outturn.proof.seed := by
  obtain ⟨events, emits⟩ := step.emits
  rw [emits.logs] at member
  rcases List.mem_append.mp member with old | new
  · exact .inl old
  · obtain ⟨event, among, pair⟩ := List.mem_map.mp new
    obtain ⟨-, rfl⟩ := Prod.mk.inj pair
    rcases emits.core _ among rfl with ⟨creation, -, own⟩ | ⟨other, outturn, fulfills, own⟩
    · unfold Creation.events at own
      split at own <;> simp at own
    · unfold Outturn.events at own
      simp at own
      obtain ⟨rfl, -, seedIs, -⟩ := own
      exact .inr ⟨outturn, fulfills, seedIs⟩

end Steps

/-! ### Records along runs -/

section Runs

variable [Inhabited β] {contract : Contract terms β χ κ}

/-- Every request that was made in a state ages from there on. -/
theorem keeps_ages (start : Coordinator terms β χ) :
    contract.Keeps (fun _ _ => True) fun _ flow =>
      start.nextRequestId ≤ flow.store.nextRequestId ∧
        ∀ requestId < start.nextRequestId,
          Ages (start.requests requestId) (flow.store.requests requestId) where
  step step _ kept := ⟨kept.1.trans step.nextRequestId_le, fun requestId made =>
    (kept.2 requestId made).trans (step.ages (made.trans_le kept.1))⟩
  advance _ kept := kept

omit [Inhabited β] in
/-- The requests made between two states of a block name its number. -/
theorem requestBlock_of_path {rules : Rules terms β χ} {context : Context}
    {flow next : Flow terms β χ} (path : Path rules context flow next) {requestId : Nat}
    (unmade : flow.store.nextRequestId ≤ requestId)
    (made : requestId < next.store.nextRequestId) :
    (next.store.requests requestId).requestBlock = context.block.number := by
  refine path.preserves (fun later => requestId < later.store.nextRequestId →
    (later.store.requests requestId).requestBlock = context.block.number)
    (fun middle later step named below => ?_) (fun below => ?_) made
  · rcases step.made_cases below with earlier | ⟨-, creation, events, record, -⟩
    · rw [(step.ages earlier).requestBlock]
      exact named earlier
    · rw [record]
      exact Nat.mod_eq_of_lt context.block.number_lt
  · exact absurd below (Nat.not_lt.mpr unmade)

end Runs

end D20
