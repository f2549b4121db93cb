/-
This file is about the beacon book of a round coordinator along its runs.

`BookMove` says once what a step does to the book, to the bindings of requests and
to the log. From it follow that the eras stay in order, that no step changes what
a time up to its block resolves to, and that every request is bound to what its
own time resolves to.
-/

import D20Keeper.BeaconTimeline
import D20Keeper.Requests

namespace D20

open Evm

/-- A state of the round coordinator in the middle of its work. -/
abbrev RoundFlow := Flow roundTerms RoundBinding RoundExtension

/-! ### What a step does to the book -/

/-- The events that tell about the book and about what requests are bound to. -/
def Event.ofBook : Event → Bool
  | .roundAssigned .. | .beaconRegistered .. | .beaconScheduled .. => true
  | .beaconScheduleCancelled .. | .roundVerified .. => true
  | _ => false

/-- What a step of the round coordinator does to its book, to the bindings of its requests and to
the log: the book evolves, or a request is bound by it, or neither happens. -/
inductive BookMove (accepts : StoredBeacon → Nat → Bytes → Prop) (context : Context)
    (flow next : RoundFlow) : Prop where
  | evolve (events : List Event)
    (evolves : RoundEvolves accepts context flow.store.ext next.store.ext events)
    (requests : next.store.requests = flow.store.requests)
    (nextRequestId : next.store.nextRequestId = flow.store.nextRequestId)
    (logs : next.logs = flow.logs ++ events.map fun event => (context.block, event))
  | create (binding : RoundBinding) (events : List Event)
    (assigned : flow.store.ext.book.assignRound context.block =
      .ok (binding.beaconId, binding.round))
    (ext : next.store.ext = flow.store.ext)
    (bound : (next.store.requests flow.store.nextRequestId).binding = binding)
    (others : ∀ requestId, requestId ≠ flow.store.nextRequestId →
      next.store.requests requestId = flow.store.requests requestId)
    (nextRequestId : next.store.nextRequestId = flow.store.nextRequestId + 1)
    (plain : ∀ event ∈ events, event.ofBook = false)
    (logs : next.logs = flow.logs ++ (events ++ [Event.roundAssigned flow.store.nextRequestId
      binding.beaconId binding.round]).map fun event => (context.block, event))
  | other (events : List Event) (ext : next.store.ext = flow.store.ext)
    (bindings : ∀ requestId, (next.store.requests requestId).binding =
      (flow.store.requests requestId).binding)
    (nextRequestId : next.store.nextRequestId = flow.store.nextRequestId)
    (plain : ∀ event ∈ events, event.ofBook = false)
    (logs : next.logs = flow.logs ++ events.map fun event => (context.block, event))

section Steps

variable {accepts : StoredBeacon → Nat → Bytes → Prop} {context : Context} {flow next : RoundFlow}

/-- A step that logs nothing and leaves the book and the bindings alone. -/
theorem BookMove.of_silent (ext : next.store.ext = flow.store.ext)
    (bindings : ∀ requestId, (next.store.requests requestId).binding =
      (flow.store.requests requestId).binding)
    (nextRequestId : next.store.nextRequestId = flow.store.nextRequestId)
    (logs : next.logs = flow.logs) : BookMove accepts context flow next :=
  .other [] ext bindings nextRequestId (fun _ member => absurd member List.not_mem_nil)
    (by rw [logs, List.map_nil, List.append_nil])

variable {event : Event} {requestId : Nat} {events : List Event}

/-- A step that logs one event which is not of the book. -/
theorem BookMove.of_event (plain : event.ofBook = false) (ext : next.store.ext = flow.store.ext)
    (bindings : ∀ requestId, (next.store.requests requestId).binding =
      (flow.store.requests requestId).binding)
    (nextRequestId : next.store.nextRequestId = flow.store.nextRequestId)
    (logs : next.logs = flow.logs ++ [(context.block, event)]) :
    BookMove accepts context flow next :=
  .other [event] ext bindings nextRequestId
    (fun _ member => List.mem_singleton.mp member ▸ plain) logs

theorem Event.plain_of_reports_book (reports : event.reports = true) : event.ofBook = false := by
  cases event <;> first | rfl | cases reports

theorem Creation.plain_events (store : RoundStore) (creation : Creation RoundBinding) :
    ∀ event ∈ creation.events context store, event.ofBook = false := by
  intro event member
  unfold Creation.events at member
  rcases List.mem_append.mp member with credited | requested
  · split at credited
    · cases credited
    · rw [List.mem_singleton.mp credited]
      rfl
  · rcases List.mem_pair.mp requested with rfl | rfl <;> rfl

theorem Outturn.plain_events (store : RoundStore) (requestId : Nat) (outturn : Outturn) :
    ∀ event ∈ outturn.events store requestId, event.ofBook = false := by
  intro event member
  unfold Outturn.events at member
  simp only [List.mem_cons, List.not_mem_nil, or_false] at member
  rcases member with rfl | rfl | rfl | rfl <;> rfl

/-- Every step moves the book in one of these ways. -/
theorem Step.bookMove (step : Step (roundRules accepts) context flow next) :
    BookMove accepts context flow next := by
  cases step with
  | quiet quiet =>
    cases quiet with
    | gift => exact .of_silent rfl (fun _ => rfl) rfl rfl
    | configure setting =>
      cases setting <;> exact .of_event rfl rfl (fun _ => rfl) rfl rfl
    | evolve ext events allowed => exact .evolve events allowed rfl rfl rfl
  | create creation events paid small assigned =>
    obtain ⟨assigned, rfl⟩ := assigned
    refine .create _ _ assigned ?_ ?_ (fun requestId apart => ?_) ?_
      (creation.plain_events flow.store) rfl
    · show (creation.apply context flow.store).ext = _
      unfold Creation.apply
      dsimp only
      split <;> rfl
    · show ((creation.apply context flow.store).requests _).binding = _
      rw [requests_create, Function.update_self]
      rfl
    · show (creation.apply context flow.store).requests requestId = _
      rw [requests_create, Function.update_of_ne apart]
    · exact nextRequestId_create context flow.store creation
  | rebind requestId binding events allowed => exact allowed.elim
  | fulfill requestId outturn =>
    exact .other _ rfl (setRequest_field_of_eq StoredRequest.binding flow.store requestId
      (fun r => r.withResult outturn.randomness outturn.proofHash outturn.transcriptHash) rfl) rfl
      (outturn.plain_events flow.store requestId) rfl
  | deliver requestId success =>
    exact .of_silent rfl (setRequest_field_of_eq StoredRequest.binding flow.store requestId
      (fun r => { r with delivered := success }) rfl) rfl rfl
  | report event reports =>
    exact .of_event (Event.plain_of_reports_book reports) rfl (fun _ => rfl) rfl rfl
  | refund requestId =>
    exact .of_silent rfl (setRequest_field_of_eq StoredRequest.binding flow.store requestId
      (fun r => { r with refunded := true }) rfl) rfl rfl
  | _ => exact .of_silent rfl (fun _ => rfl) rfl rfl

/-! ### Times that have come -/

/-- How the storage evolves keeps the eras in order, and changes nothing up to the block. -/
theorem RoundEvolves.inTime {before after : RoundExtension}
    (evolves : RoundEvolves accepts context before after events)
    (inTime : before.book.InTime context.block.timestamp) :
    after.book.InTime context.block.timestamp ∧
      ∀ timestamp ≤ context.block.timestamp,
        after.book.eraAt timestamp = before.book.eraAt timestamp := by
  cases evolves with
  | schedule beaconId fromTime book scheduled =>
    obtain ⟨beacon, -, lead, -, begun, pending, -⟩ := inTime.scheduleBeacon_eras scheduled
    have ahead : ∀ era ∈ book.pendingEra, context.block.timestamp < era.since := by
      intro era member
      rw [pending, List.mem_singleton] at member
      rw [member]
      exact Nat.lt_of_lt_of_le (Nat.lt_add_of_pos_right (by decide)) lead
    exact ⟨inTime.amended begun ahead, fun _ => inTime.eraAt_eq begun ahead⟩
  | cancel beaconId fromTime book cancelled =>
    obtain ⟨-, -, begun, pending, -⟩ := inTime.cancelSchedule_eras cancelled
    have ahead : ∀ era ∈ book.pendingEra, context.block.timestamp < era.since := by
      rw [pending]
      exact fun _ member => absurd member List.not_mem_nil
    exact ⟨inTime.amended begun ahead, fun _ => inTime.eraAt_eq begun ahead⟩
  | register => exact ⟨⟨inTime.begun, inTime.ascending⟩, fun _ _ => rfl⟩
  | cache =>
    exact ⟨⟨inTime.begun, inTime.ascending⟩, fun _ _ => rfl⟩
  | keeper => exact ⟨inTime, fun _ _ => rfl⟩
  | backup => exact ⟨inTime, fun _ _ => rfl⟩

/-- A step keeps the eras in order, and changes nothing up to the block. -/
theorem Step.inTime (step : Step (roundRules accepts) context flow next)
    (inTime : flow.store.ext.book.InTime context.block.timestamp) :
    next.store.ext.book.InTime context.block.timestamp ∧
      ∀ timestamp ≤ context.block.timestamp,
        next.store.ext.book.eraAt timestamp = flow.store.ext.book.eraAt timestamp := by
  cases step.bookMove with
  | evolve events evolves => exact evolves.inTime inTime
  | create binding events assigned ext =>
    rw [ext]
    exact ⟨inTime, fun _ _ => rfl⟩
  | other events ext =>
    rw [ext]
    exact ⟨inTime, fun _ _ => rfl⟩

theorem BeaconBook.roundAt_of_eraAt {before after : BeaconBook} {timestamp : Nat}
    (same : after.eraAt timestamp = before.eraAt timestamp) :
    after.roundAt timestamp = before.roundAt timestamp := by
  rw [BeaconBook.roundAt_eq, BeaconBook.roundAt_eq, same]

/-! ### Requests are bound to their time -/

/-- At a time: the eras are in order, and every assignment that was logged is what the time of its
block resolves to and what its request is bound to. -/
structure Assigned (time : Nat) (flow : RoundFlow) : Prop where
  inTime : flow.store.ext.book.InTime time
  assigned : ∀ block requestId beaconId round,
    (block, Event.roundAssigned requestId beaconId round) ∈ flow.logs →
    block.timestamp ≤ time ∧ requestId < flow.store.nextRequestId ∧
      (flow.store.requests requestId).binding = ⟨beaconId, round⟩ ∧
      flow.store.ext.book.roundAt block.timestamp = .ok (beaconId, round)

theorem mem_logs_of_plain {logs : List (Block × Event)} {block here : Block}
    (ofBook : event.ofBook = true) (plain : ∀ event ∈ events, event.ofBook = false)
    (member : (block, event) ∈ logs ++ events.map fun event => (here, event)) :
    (block, event) ∈ logs := by
  rcases List.mem_append.mp member with old | new
  · exact old
  · obtain ⟨other, among, pair⟩ := List.mem_map.mp new
    obtain ⟨-, rfl⟩ := Prod.mk.inj pair
    exact absurd (ofBook.symm.trans (plain other among)) Bool.true_eq_false.mp

/-- The events of an evolution assign no round. -/
theorem RoundEvolves.not_assigned {before after : RoundExtension}
    (evolves : RoundEvolves accepts context before after events) (requestId beaconId round : Nat) :
    Event.roundAssigned requestId beaconId round ∉ events := by
  cases evolves <;> simp [BeaconRegistration.event]

/-- An assignment that is logged after a step was logged before or is of the request it makes. -/
theorem Step.assigned_cases (step : Step (roundRules accepts) context flow next) {block : Block}
    {beaconId round : Nat}
    (member : (block, Event.roundAssigned requestId beaconId round) ∈ next.logs) :
    (block, Event.roundAssigned requestId beaconId round) ∈ flow.logs ∨
      block = context.block ∧ requestId = flow.store.nextRequestId ∧
        requestId < next.store.nextRequestId ∧
        (next.store.requests requestId).binding = ⟨beaconId, round⟩ ∧
        next.store.ext = flow.store.ext ∧
        flow.store.ext.book.assignRound context.block = .ok (beaconId, round) := by
  cases step.bookMove with
  | evolve events evolves requests nextRequestId logs =>
    rw [logs] at member
    rcases List.mem_append.mp member with old | new
    · exact .inl old
    · obtain ⟨event, among, pair⟩ := List.mem_map.mp new
      obtain ⟨-, rfl⟩ := Prod.mk.inj pair
      exact absurd among (evolves.not_assigned _ _ _)
  | create binding events assigned ext bound others nextRequestId plain logs =>
    rw [logs, List.map_append, ← List.append_assoc] at member
    rcases List.mem_append.mp member with old | new
    · exact .inl (mem_logs_of_plain rfl plain old)
    · rw [List.map_singleton, List.mem_singleton, Prod.mk.injEq, Event.roundAssigned.injEq] at new
      obtain ⟨rfl, rfl, rfl, rfl⟩ := new
      exact .inr ⟨rfl, rfl, nextRequestId ▸ Nat.lt_succ_self _, bound, ext, assigned⟩
  | other events ext bindings nextRequestId plain logs =>
    rw [logs] at member
    exact .inl (mem_logs_of_plain rfl plain member)

/-- The binding of a request that was made stays. -/
theorem Step.binding_eq (step : Step (roundRules accepts) context flow next)
    (made : requestId < flow.store.nextRequestId) :
    (next.store.requests requestId).binding = (flow.store.requests requestId).binding := by
  rcases step.binding_cases made with same | ⟨_, rebinds⟩
  · exact same
  · exact rebinds.elim

theorem Assigned.step {time : Nat} (step : Step (roundRules accepts) context flow next)
    (now : context.block.timestamp = time) (kept : Assigned time flow) : Assigned time next := by
  subst now
  obtain ⟨inTime, unchanged⟩ := step.inTime kept.inTime
  refine ⟨inTime, fun block requestId beaconId round member => ?_⟩
  rcases step.assigned_cases member with old | ⟨rfl, -, made, bound, ext, assigns⟩
  · obtain ⟨past, made, bound, resolves⟩ := kept.assigned block requestId beaconId round old
    refine ⟨past, made.trans_le step.nextRequestId_le, (step.binding_eq made).trans bound, ?_⟩
    rw [BeaconBook.roundAt_of_eraAt (unchanged _ past)]
    exact resolves
  · refine ⟨Nat.le_refl _, made, bound, ?_⟩
    rw [ext, ← BeaconBook.assignRound_eq kept.inTime]
    exact assigns

/-- The requests made by steps in a block are logged there with what they are bound to. -/
theorem assigned_of_path (path : Path (roundRules accepts) context flow next)
    (unmade : flow.store.nextRequestId ≤ requestId) (made : requestId < next.store.nextRequestId) :
    (context.block, Event.roundAssigned requestId (next.store.requests requestId).binding.beaconId
      (next.store.requests requestId).binding.round) ∈ next.logs := by
  refine path.preserves (fun later => requestId < later.store.nextRequestId →
    (context.block, Event.roundAssigned requestId (later.store.requests requestId).binding.beaconId
      (later.store.requests requestId).binding.round) ∈ later.logs)
    (fun middle later step named below => ?_) (fun below => ?_) made
  · by_cases earlier : requestId < middle.store.nextRequestId
    · obtain ⟨events, emits⟩ := step.emits
      rw [step.binding_eq earlier, emits.logs]
      exact List.mem_append_left _ (named earlier)
    · cases step.bookMove with
      | evolve events evolves requests nextRequestId =>
        exact absurd (nextRequestId ▸ below) earlier
      | create binding events assigned ext bound others nextRequestId plain logs =>
        rw [nextRequestId] at below
        obtain rfl : requestId = middle.store.nextRequestId := by omega
        rw [logs, bound]
        simp
      | other events ext bindings nextRequestId =>
        exact absurd (nextRequestId ▸ below) earlier
  · exact absurd below (Nat.not_lt.mpr unmade)

end Steps

/-! ### Runs -/

namespace RoundDeployment

variable (deployment : RoundDeployment)

variable (submissions : List (Submission RoundMessage Views))

/-- The state after transactions. -/
def stateAfter :
    Committed RoundStore Event :=
  runAll deployment.exec deployment.initial submissions

/-- The book after transactions. -/
def bookAfter : BeaconBook :=
  (deployment.stateAfter submissions).account.storage.ext.book

/-- What a request is bound to after transactions. -/
def bindingAfter (requestId : Nat) :
    RoundBinding :=
  ((deployment.stateAfter submissions).account.storage.requests requestId).binding

/-- A transaction after others makes a request. -/
def Makes (before : List (Submission RoundMessage Views))
    (submission : Submission RoundMessage Views) (requestId : Nat) : Prop :=
  (deployment.stateAfter before).account.storage.nextRequestId ≤ requestId ∧
    requestId < (deployment.stateAfter (before ++ [submission])).account.storage.nextRequestId

/-- Timestamps do not go back. -/
def TimeOrdered : Prop :=
  Follows (fun earlier later => earlier.timestamp ≤ later.timestamp) deployment.initial submissions

/-- The coordinator when nothing is said about verifiers. -/
def plainContract : Contract roundTerms RoundBinding RoundExtension RoundMessage :=
  deployment.contract fun _ _ _ => True

theorem hears_plain :
    ∀ submission ∈ submissions, deployment.plainContract.admits submission.env :=
  fun _ _ _ _ _ _ _ _ => trivial

theorem stateAfter_append (before after : List (Submission RoundMessage Views)) :
    deployment.stateAfter (before ++ after) =
      runAll deployment.exec (deployment.stateAfter before) after :=
  runAll_append deployment.exec before after

theorem inOrder_stateAfter :
    InOrder deployment.plainContract.rules
      (deployment.stateAfter submissions).account.storage := by
  have keeps : deployment.plainContract.Keeps _ _ := keeps_ages deployment.store
  exact (keeps.runAll (follows_true deployment.initial submissions)
    (deployment.hears_plain submissions) (deployment.inOrder _)
    ⟨Nat.le_refl _, fun _ _ => Ages.refl _⟩).1

/-- The count of backup keepers is their number in every state of every run. -/
theorem backup_keepers_counted :
    (deployment.stateAfter submissions).account.storage.ext.Counted :=
  (deployment.inOrder_stateAfter submissions).ext

/-- A transaction is a path in its block. -/
theorem path_stateAfter (before : List (Submission RoundMessage Views))
    (submission : Submission RoundMessage Views) :
    Path deployment.plainContract.rules (deployment.plainContract.context submission.block)
      (flowOf (deployment.stateAfter before))
      (flowOf (deployment.stateAfter (before ++ [submission]))) := by
  rw [stateAfter_append]
  exact Contract.path_commit (deployment.inOrder_stateAfter before)
    (deployment.hears_plain [submission] submission (List.mem_singleton_self _))

theorem assigned_initial :
    Assigned deployment.block.timestamp (flowOf deployment.initial) := by
  have leaves := deployment.leaves
  have started := leaves.started
  rw [show BeaconBook.startWith _ _ 0 = .ok _ from rfl] at started
  refine ⟨?_, fun block requestId beaconId round member => ?_⟩
  · show deployment.store.ext.book.InTime _
    rw [← Except.ok.inj started]
    refine ⟨fun era member => ?_, List.pairwise_singleton _ _⟩
    rw [List.mem_singleton.mp member]
    exact Nat.mod_le _ _
  · have among : (block, Event.roundAssigned requestId beaconId round) ∈
        deployment.events.map fun event => (deployment.block, event) := member
    rw [leaves.logged] at among
    simp [BeaconRegistration.event] at among

theorem keeps_assigned :
    deployment.plainContract.Keeps (fun earlier later => earlier.timestamp ≤ later.timestamp)
      fun block flow => Assigned block.timestamp flow where
  step step _ kept := kept.step step rfl
  advance le kept := ⟨kept.inTime.later le, fun block requestId beaconId round member =>
    ⟨(kept.assigned block requestId beaconId round member).1.trans le,
      (kept.assigned block requestId beaconId round member).2⟩⟩

variable {deployment}

/-- Along a run, every assignment that was logged is what its time resolves to. -/
theorem assigned_stateAfter {submissions : List (Submission RoundMessage Views)}
    (ordered : deployment.TimeOrdered submissions) :
    Assigned (deployment.stateAfter submissions).block.timestamp
      (flowOf (deployment.stateAfter submissions)) :=
  (deployment.keeps_assigned.runAll ordered (deployment.hears_plain submissions)
    (deployment.inOrder _) deployment.assigned_initial).2

/-- What a time resolves to stays from any block at or after that time. -/
theorem keeps_eraAt (timestamp : Nat) (start : BeaconBook) :
    deployment.plainContract.Keeps (fun earlier later => earlier.timestamp ≤ later.timestamp)
      fun block flow => flow.store.ext.book.InTime block.timestamp ∧
        timestamp ≤ block.timestamp ∧
        flow.store.ext.book.eraAt timestamp = start.eraAt timestamp where
  step step _ kept := by
    obtain ⟨inTime, unchanged⟩ := step.inTime kept.1
    exact ⟨inTime, kept.2.1, (unchanged timestamp kept.2.1).trans kept.2.2⟩
  advance le kept := ⟨kept.1.later le, kept.2.1.trans le, kept.2.2⟩

/-- No transaction changes what a time up to its block resolves to, and none after it does. -/
theorem roundAt_append {before after : List (Submission RoundMessage Views)}
    {submission : Submission RoundMessage Views} {timestamp : Nat}
    (ordered : deployment.TimeOrdered (before ++ submission :: after))
    (past : timestamp ≤ submission.block.timestamp) :
    (deployment.bookAfter (before ++ submission :: after)).roundAt timestamp =
      (deployment.bookAfter before).roundAt timestamp := by
  obtain ⟨earlier, later⟩ := follows_append deployment.exec ordered
  have here := (assigned_stateAfter earlier).inTime
  obtain ⟨le, -⟩ := follows_cons deployment.exec later
  have moved : Follows (fun earlier later : Block => earlier.timestamp ≤ later.timestamp)
      { deployment.stateAfter before with block := submission.block } (submission :: after) := by
    unfold Follows at later ⊢
    rw [List.map_cons, List.isChain_cons_cons] at later ⊢
    exact ⟨Nat.le_refl _, later.2⟩
  have kept := ((deployment.keeps_eraAt timestamp (deployment.bookAfter before)).runAll moved
    (deployment.hears_plain _) (deployment.inOrder_stateAfter before)
    ⟨here.later le, past, rfl⟩).2
  refine BeaconBook.roundAt_of_eraAt ?_
  unfold bookAfter
  rw [stateAfter_append]
  exact kept.2.2

/-- The bindings of the requests made in a state stay. -/
theorem keeps_bindings (start : RoundStore) :
    deployment.plainContract.Keeps (fun _ _ => True) fun _ flow =>
      start.nextRequestId ≤ flow.store.nextRequestId ∧
        ∀ requestId < start.nextRequestId,
          (flow.store.requests requestId).binding = (start.requests requestId).binding where
  step step _ kept := ⟨kept.1.trans step.nextRequestId_le, fun requestId made =>
    (step.binding_eq (made.trans_le kept.1)).trans (kept.2 requestId made)⟩
  advance _ kept := kept

variable (deployment) in
theorem bindingAfter_append (before after : List (Submission RoundMessage Views)) {requestId : Nat}
    (made : requestId < (deployment.stateAfter before).account.storage.nextRequestId) :
    deployment.bindingAfter (before ++ after) requestId =
      deployment.bindingAfter before requestId := by
  unfold bindingAfter
  rw [stateAfter_append]
  exact ((keeps_bindings (deployment.stateAfter before).account.storage).runAll
    (follows_true _ after) (deployment.hears_plain after) (deployment.inOrder_stateAfter before)
    ⟨Nat.le_refl _, fun _ _ => rfl⟩).2.2 requestId made

/-- A request is bound to what the time of its block resolves to. -/
theorem roundAt_of_makes {before : List (Submission RoundMessage Views)}
    {submission : Submission RoundMessage Views} {requestId : Nat}
    (ordered : deployment.TimeOrdered (before ++ [submission]))
    (makes : deployment.Makes before submission requestId) :
    (deployment.bookAfter (before ++ [submission])).roundAt submission.block.timestamp =
      .ok ((deployment.bindingAfter (before ++ [submission]) requestId).beaconId,
        (deployment.bindingAfter (before ++ [submission]) requestId).round) := by
  have logged := assigned_of_path (deployment.path_stateAfter before submission) makes.1 makes.2
  exact ((assigned_stateAfter ordered).assigned _ _ _ _ logged).2.2.2

/-- What times resolve to is stable: no transaction changes it for a time up to that of its block,
so a request stays bound to what its own time resolves to, whatever the owner does from its block
on. -/
theorem past_bindings_stable (deployment : RoundDeployment)
    (before after : List (Submission RoundMessage Views))
    (submission : Submission RoundMessage Views)
    (ordered : deployment.TimeOrdered (before ++ submission :: after)) :
    (∀ timestamp ≤ submission.block.timestamp,
      (deployment.bookAfter (before ++ submission :: after)).roundAt timestamp =
        (deployment.bookAfter before).roundAt timestamp) ∧
    ∀ requestId, deployment.Makes before submission requestId →
      deployment.bindingAfter (before ++ submission :: after) requestId =
        deployment.bindingAfter (before ++ [submission]) requestId ∧
      (deployment.bookAfter (before ++ submission :: after)).roundAt submission.block.timestamp =
        .ok ((deployment.bindingAfter (before ++ [submission]) requestId).beaconId,
          (deployment.bindingAfter (before ++ [submission]) requestId).round) := by
  have first : deployment.TimeOrdered (before ++ [submission]) := by
    rw [List.append_cons] at ordered
    exact (follows_append deployment.exec ordered).1
  refine ⟨fun timestamp past => roundAt_append ordered past, fun requestId makes => ⟨?_, ?_⟩⟩
  · rw [List.append_cons]
    exact deployment.bindingAfter_append (before ++ [submission]) after makes.2
  · rw [roundAt_append ordered (Nat.le_refl _), ← roundAt_append first (Nat.le_refl _)]
    exact roundAt_of_makes first makes

/-- A request of a raw result in the first block. -/
def firstRequest : Submission RoundMessage Views :=
  ⟨default, default, 10 ^ 7, 1, 0, ⟨⟨⟨5⟩, 1⟩, .requestRandomness 0 100000 ⟨5⟩⟩⟩

/-- A change of the beacon that the owner schedules in the same block. -/
def firstChange : Submission RoundMessage Views :=
  ⟨default, default, 10 ^ 7, 1, 0, ⟨⟨⟨3⟩, 0⟩, .scheduleBeacon 0 601⟩⟩

theorem past_bindings_stable_default :
    (default : RoundDeployment).TimeOrdered [firstRequest, firstChange] ∧
    (default : RoundDeployment).Makes [] firstRequest 1 ∧
    ((default : RoundDeployment).bookAfter [firstRequest, firstChange]).roundAt 1 =
      .ok (((default : RoundDeployment).bindingAfter [firstRequest] 1).beaconId,
        ((default : RoundDeployment).bindingAfter [firstRequest] 1).round) := by
  have ordered : (default : RoundDeployment).TimeOrdered [firstRequest, firstChange] := by
    unfold TimeOrdered Follows
    decide +kernel
  have makes : (default : RoundDeployment).Makes [] firstRequest 1 := by
    unfold Makes
    decide +kernel
  exact ⟨ordered, makes,
    ((past_bindings_stable default [] [firstChange] firstRequest ordered).2 1 makes).2⟩

end RoundDeployment

end D20
