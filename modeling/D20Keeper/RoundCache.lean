/-
This file is about the randomness of rounds along the runs of the round coordinator. The randomness
of a round is cached once, as the hash of a signature that the verifier of its beacon accepted. With
one such signature for a round, every fulfillment and every view computes the same seed of a
request.
-/

import D20Keeper.BookRun

namespace D20

open Evm

/-- The event of a round that is verified. -/
def Event.verifies (beaconId round : Nat) : Event → Bool
  | .roundVerified otherBeacon otherRound _ _ =>
    decide (otherBeacon = beaconId ∧ otherRound = round)
  | _ => false

theorem Event.verifies_eq_false {event : Event} (plain : event.ofBook = false)
    (beaconId round : Nat) : event.verifies beaconId round = false := by
  cases event with
  | roundVerified => cases plain
  | _ => rfl

variable {accepts : StoredBeacon → Nat → Bytes → Prop} {context : Context} {platform : Platform}
  {before after : BeaconBook} {flow next : RoundFlow} {beaconId round requestId seed : Nat}
  {value : Bytes32}

/-! ### The cache -/

namespace BeaconBook

/-- The randomness of a round: the hash of a signature that the verifier of its beacon accepts. -/
def IsRandomness (accepts : StoredBeacon → Nat → Bytes → Prop) (platform : Platform)
    (book : BeaconBook) (beaconId round : Nat) (value : Bytes32) : Prop :=
  ∃ beacon signature, book.beacons[beaconId]? = some beacon ∧ accepts beacon round signature ∧
    value = platform.sha256 signature

/-- Everything in the cache is the randomness of its round. -/
def Cached (accepts : StoredBeacon → Nat → Bytes → Prop) (platform : Platform)
    (book : BeaconBook) : Prop :=
  ∀ beaconId round, book.cachedRound beaconId round ≠ 0 →
    book.IsRandomness accepts platform beaconId round (book.cachedRound beaconId round)

/-- Beacons are only appended, and what is in the cache stays. -/
structure Extends (before after : BeaconBook) : Prop where
  beacons : before.beacons <+: after.beacons
  cached : ∀ beaconId round, before.cachedRound beaconId round ≠ 0 →
    after.cachedRound beaconId round = before.cachedRound beaconId round

theorem IsRandomness.extend (randomness : before.IsRandomness accepts platform beaconId round value)
    (beacons : before.beacons <+: after.beacons) :
    after.IsRandomness accepts platform beaconId round value := by
  obtain ⟨beacon, signature, registered, accepted⟩ := randomness
  obtain ⟨more, same⟩ := beacons
  obtain ⟨inside, -⟩ := List.getElem?_eq_some_iff.mp registered
  refine ⟨beacon, signature, ?_, accepted⟩
  rw [← same, List.getElem?_append_left inside, registered]

/-- With one signature that is accepted for a round, its randomness is one. -/
theorem IsRandomness.unique {book : BeaconBook} {other : Bytes32}
    (unique : ∀ beacon round first second, accepts beacon round first →
      accepts beacon round second → first = second)
    (one : book.IsRandomness accepts platform beaconId round value)
    (two : book.IsRandomness accepts platform beaconId round other) : value = other := by
  obtain ⟨beacon, signature, registered, accepted, rfl⟩ := one
  obtain ⟨beacon', signature', registered', accepted', rfl⟩ := two
  obtain rfl : beacon = beacon' := Option.some.inj (registered.symm.trans registered')
  rw [unique beacon round signature signature' accepted accepted']

/-- A change of the schedule leaves the beacons and the cache alone. -/
theorem scheduleBeacon_frame {block : Block} {fromTime : Nat}
    (scheduled : before.scheduleBeacon block beaconId fromTime = .ok after) :
    after.beacons = before.beacons ∧ after.roundRandomness = before.roundRandomness := by
  unfold scheduleBeacon at scheduled
  split at scheduled
  · cases scheduled
  · split at scheduled
    · cases scheduled
    · cases scheduled
      exact ⟨rfl, rfl⟩

theorem cancelSchedule_frame {block : Block} {fromTime : Nat}
    (cancelled : before.cancelSchedule block = .ok (after, beaconId, fromTime)) :
    after.beacons = before.beacons ∧ after.roundRandomness = before.roundRandomness := by
  unfold cancelSchedule at cancelled
  dsimp only at cancelled
  split at cancelled
  · cases cancelled
  · cases cancelled
    exact ⟨rfl, rfl⟩

end BeaconBook

/-- What a change of the book does to the cache, and what it logs about it: nothing, or it writes
the randomness of a round that is not there. -/
inductive CacheMove (accepts : StoredBeacon → Nat → Bytes → Prop) (platform : Platform)
    (before after : BeaconBook) (events : List Event) : Prop where
  | keep (beacons : before.beacons <+: after.beacons)
    (cache : after.roundRandomness = before.roundRandomness)
    (quiet : ∀ event ∈ events, ∀ beaconId round, event.verifies beaconId round = false)
  | write (beaconId round : Nat) (signature : Bytes)
    (uncached : before.cachedRound beaconId round = 0)
    (randomness : before.IsRandomness accepts platform beaconId round (platform.sha256 signature))
    (book : after = before.cache beaconId round (platform.sha256 signature))
    (logged : events = [.roundVerified beaconId round (platform.sha256 signature) signature])

theorem RoundEvolves.cacheMove {first second : RoundExtension} {events : List Event}
    (evolves : RoundEvolves accepts context first second events) :
    CacheMove accepts context.platform first.book second.book events := by
  cases evolves with
  | register =>
    refine .keep (List.prefix_append _ _) rfl fun event member _ _ => ?_
    rw [List.mem_singleton.mp member]
    rfl
  | schedule beaconId fromTime book scheduled =>
    obtain ⟨beacons, cache⟩ := BeaconBook.scheduleBeacon_frame scheduled
    refine .keep (beacons ▸ List.prefix_refl _) cache fun event member _ _ => ?_
    rw [List.mem_singleton.mp member]
    rfl
  | cancel beaconId fromTime book cancelled =>
    obtain ⟨beacons, cache⟩ := BeaconBook.cancelSchedule_frame cancelled
    refine .keep (beacons ▸ List.prefix_refl _) cache fun event member _ _ => ?_
    rw [List.mem_singleton.mp member]
    rfl
  | cache beaconId round beacon signature uncached registered accepted =>
    exact .write beaconId round signature uncached ⟨beacon, signature, registered, accepted, rfl⟩
      rfl rfl
  | keeper | backup =>
    refine .keep (List.prefix_refl _) rfl fun event member _ _ => ?_
    rw [List.mem_singleton.mp member]
    rfl

/-- Every step moves the cache so. -/
theorem Step.cacheMove (step : Step (roundRules accepts) context flow next) :
    ∃ events, CacheMove accepts context.platform flow.store.ext.book next.store.ext.book events ∧
      next.logs = flow.logs ++ events.map fun event => (context.block, event) := by
  cases step.bookMove with
  | evolve events evolves requests nextRequestId logs => exact ⟨events, evolves.cacheMove, logs⟩
  | create binding events assigned ext bound others nextRequestId plain logs =>
    refine ⟨_, .keep (by rw [ext]) (by rw [ext]) fun event member _ _ => ?_, logs⟩
    rcases List.mem_append.mp member with old | new
    · exact Event.verifies_eq_false (plain event old) _ _
    · rw [List.mem_singleton.mp new]
      rfl
  | other events ext bindings nextRequestId plain logs =>
    exact ⟨events, .keep (by rw [ext]) (by rw [ext]) fun event member _ _ =>
      Event.verifies_eq_false (plain event member) _ _, logs⟩

namespace CacheMove

variable {events : List Event} (move : CacheMove accepts platform before after events)

include move

theorem extends_ : before.Extends after := by
  cases move with
  | keep beacons cache =>
    exact ⟨beacons, fun beaconId round _ => congrFun (congrFun cache beaconId) round⟩
  | write beaconId round signature uncached randomness book =>
    subst book
    refine ⟨List.prefix_refl _, fun otherBeacon otherRound there => if_neg ?_⟩
    rintro ⟨rfl, rfl⟩
    exact there uncached

theorem cached (held : before.Cached accepts platform) : after.Cached accepts platform := by
  intro otherBeacon otherRound there
  cases move with
  | keep beacons cache =>
    have same := congrFun (congrFun cache otherBeacon) otherRound
    unfold BeaconBook.cachedRound at there ⊢
    rw [same] at there ⊢
    exact (held otherBeacon otherRound there).extend beacons
  | write beaconId round signature uncached randomness book =>
    subst book
    unfold BeaconBook.cachedRound BeaconBook.cache at there ⊢
    dsimp only at there ⊢
    split
    · rename_i same
      obtain ⟨rfl, rfl⟩ := same
      exact randomness
    · rename_i different
      rw [if_neg different] at there
      exact held otherBeacon otherRound there

/-- A round is logged as verified exactly when it is written to the cache. -/
theorem countP_verifies (hashes : ∀ bytes, platform.sha256 bytes ≠ 0)
    (otherBeacon otherRound : Nat) :
    events.countP (Event.verifies otherBeacon otherRound) +
        (if before.cachedRound otherBeacon otherRound = 0 then 0 else 1) =
      if after.cachedRound otherBeacon otherRound = 0 then 0 else 1 := by
  cases move with
  | keep beacons cache quiet =>
    have none : events.countP (Event.verifies otherBeacon otherRound) = 0 :=
      List.countP_eq_zero.mpr fun event member => by
        rw [quiet event member]
        exact Bool.false_ne_true
    unfold BeaconBook.cachedRound
    rw [none, Nat.zero_add, cache]
  | write beaconId round signature uncached randomness book logged =>
    subst book logged
    rw [List.countP_singleton]
    unfold BeaconBook.cachedRound BeaconBook.cache Event.verifies at *
    by_cases same : otherBeacon = beaconId ∧ otherRound = round
    · obtain ⟨rfl, rfl⟩ := same
      simp only [uncached, and_self, decide_true, if_true, if_neg (hashes signature)]
    · have different : ¬(beaconId = otherBeacon ∧ round = otherRound) := fun ⟨one, two⟩ =>
        same ⟨one.symm, two.symm⟩
      simp only [decide_eq_false different, Bool.false_eq_true, if_false, Nat.zero_add, if_neg same]

end CacheMove

/-! ### Runs -/

namespace RoundDeployment

variable (deployment : RoundDeployment) (accepts)

/-- The seed of a request, with the randomness of its round; it does not depend on the block. -/
def HasSeed (store : RoundStore) (requestId seed : Nat) : Prop :=
  ∃ value, store.ext.book.IsRandomness accepts deployment.platform
      (store.requests requestId).binding.beaconId (store.requests requestId).binding.round value ∧
    seed = RoundCoordinator.seed (deployment.context deployment.block).toContext store requestId value

/-- The cache is as verified, and every proof that was verified was one of the seed of its
request. -/
structure RoundsKept (flow : RoundFlow) : Prop where
  cached : flow.store.ext.book.Cached accepts deployment.platform
  counted : (∀ bytes, deployment.platform.sha256 bytes ≠ 0) → ∀ beaconId round,
    (flow.logs.map Prod.snd).countP (Event.verifies beaconId round) =
      if flow.store.ext.book.cachedRound beaconId round = 0 then 0 else 1
  verified : ∀ block requestId keyHash seed proofHash,
    (block, Event.proofVerified requestId keyHash seed proofHash) ∈ flow.logs →
    requestId < flow.store.nextRequestId ∧ deployment.HasSeed accepts flow.store requestId seed

/-- What a state fixes for later ones: the cache, and the seeds of its requests. -/
structure RoundsFixed (before after : RoundStore) : Prop where
  nextRequestId : before.nextRequestId ≤ after.nextRequestId
  book : before.ext.book.Extends after.ext.book
  seeds : ∀ requestId < before.nextRequestId, ∀ seed,
    deployment.HasSeed accepts before requestId seed → deployment.HasSeed accepts after requestId seed

/-- A view returns a seed after transactions, for a signature and in some block. -/
def SeedViewed (submissions : List (Submission RoundMessage Views)) (requestId seed : Nat) : Prop :=
  ∃ block env gas signature rest, Hears accepts env ∧
    (RoundCoordinator.getProofContext (deployment.context block) requestId signature env
      ⟨(deployment.stateAfter submissions).account, gas, 0, 0⟩).result = .ok (seed, rest)

/-- A seed of a request that a run computes: a view returns it in a state of the run, or a
fulfillment verifies a proof of it. -/
def SeedComputed (submissions : List (Submission RoundMessage Views))
    (requestId seed : Nat) : Prop :=
  (∃ done, done <+: submissions ∧ deployment.SeedViewed accepts done requestId seed) ∨
    ∃ block keyHash proofHash, (block, Event.proofVerified requestId keyHash seed proofHash) ∈
      (deployment.stateAfter submissions).logs

variable {deployment accepts} {block : Block}

/-- A request keeps its seed. -/
theorem HasSeed.step (made : requestId < flow.store.nextRequestId)
    (step : Step (roundRules accepts) (deployment.context block).toContext flow next)
    (seeded : deployment.HasSeed accepts flow.store requestId seed) :
    deployment.HasSeed accepts next.store requestId seed := by
  obtain ⟨value, randomness, rfl⟩ := seeded
  obtain ⟨events, move, -⟩ := step.cacheMove
  have ages := step.ages made
  have binding := step.binding_eq made
  refine ⟨value, ?_, ?_⟩
  · rw [binding]
    exact randomness.extend move.extends_.beacons
  · unfold RoundCoordinator.seed
    dsimp only
    rw [step.keyHash_eq, ages.consumer, ages.clientSeed, ages.mappingHash, ages.requestBlock, binding]

/-- A fulfillment accepts a proof of the seed of its request only. -/
theorem hasSeed_of_accepts {store : RoundStore} {proof : Proof}
    {randomness transcript roundRand : Bytes32}
    (cached : store.ext.book.Cached accepts deployment.platform)
    (accepted : RoundAccepts accepts (deployment.context block).toContext store requestId proof
      randomness transcript roundRand) :
    deployment.HasSeed accepts store requestId proof.seed := by
  obtain ⟨held, reason⟩ := accepted.held
  refine ⟨roundRand, ?_, accepted.seed⟩
  rcases reason with nonzero | verified
  · rw [← held] at nonzero ⊢
    exact cached _ _ nonzero
  · exact verified

theorem keeps_rounds :
    (deployment.contract accepts).Keeps (fun _ _ => True) fun _ flow =>
      deployment.RoundsKept accepts flow where
  step := by
    intro block flow next step order kept
    obtain ⟨events, move, logs⟩ := Step.cacheMove step
    refine ⟨move.cached kept.cached, fun hashes beaconId round => ?_, ?_⟩
    · have names : (events.map fun event => (block, event)).map Prod.snd = events := by
        rw [List.map_map]
        exact List.map_id events
      have counted := move.countP_verifies hashes beaconId round
      rw [logs, List.map_append, List.countP_append, kept.counted hashes beaconId round,
        Nat.add_comm]
      exact (congrArg (fun all => List.countP _ all + _) names).trans counted
    · intro block' requestId keyHash seed proofHash member
      rcases step.verified_cases member with old | ⟨outturn, fulfills, rfl⟩
      · obtain ⟨made, seeded⟩ := kept.verified _ _ _ _ _ old
        exact ⟨made.trans_le step.nextRequestId_le, seeded.step made step⟩
      · have made := order.lt_of_known fulfills.known
        obtain ⟨roundRand, accepted⟩ := fulfills.accepted
        have seeded := hasSeed_of_accepts kept.cached accepted
        exact ⟨made.trans_le step.nextRequestId_le, seeded.step made step⟩
  advance _ kept := kept

theorem keeps_roundsFixed (start : RoundStore) :
    (deployment.contract accepts).Keeps (fun _ _ => True) fun _ flow =>
      deployment.RoundsFixed accepts start flow.store where
  step := by
    intro block flow next step order fixed
    obtain ⟨events, move, -⟩ := Step.cacheMove step
    have extends_ := move.extends_
    refine ⟨fixed.nextRequestId.trans step.nextRequestId_le,
      ⟨fixed.book.beacons.trans extends_.beacons, fun beaconId round there => ?_⟩,
      fun requestId made seed seeded => (fixed.seeds requestId made seed seeded).step
        (made.trans_le fixed.nextRequestId) step⟩
    have kept := fixed.book.cached beaconId round there
    exact (extends_.cached beaconId round (kept ▸ there)).trans kept
  advance _ fixed := fixed

variable {submissions : List (Submission RoundMessage Views)}
  (hears : ∀ submission ∈ submissions, Hears accepts submission.env)

include hears

variable (deployment) in
theorem roundsKept_stateAfter :
    InOrder (deployment.contract accepts).rules
        (deployment.stateAfter submissions).account.storage ∧
      deployment.RoundsKept accepts (flowOf (deployment.stateAfter submissions)) := by
  have leaves := deployment.leaves
  have started := leaves.started
  rw [show BeaconBook.startWith _ _ 0 = .ok _ from rfl] at started
  have empty : ∀ beaconId round, deployment.store.ext.book.cachedRound beaconId round = 0 := by
    intro beaconId round
    rw [← Except.ok.inj started]
    rfl
  have keeps : (deployment.contract accepts).Keeps _ _ := keeps_rounds
  refine keeps.runAll (follows_true deployment.initial submissions) hears (deployment.inOrder _)
    ⟨fun beaconId round there => absurd (empty beaconId round) there, fun _ beaconId round => ?_,
      fun block requestId keyHash seed proofHash member => ?_⟩
  · show ((deployment.events.map fun event => (deployment.block, event)).map Prod.snd).countP _ =
      if deployment.store.ext.book.cachedRound beaconId round = 0 then 0 else 1
    rw [leaves.logged, empty]
    rfl
  · have among : (block, Event.proofVerified requestId keyHash seed proofHash) ∈
        deployment.events.map fun event => (deployment.block, event) := member
    rw [leaves.logged] at among
    simp [BeaconRegistration.event] at among

omit hears

/-- A state fixes these for every state after it. -/
theorem roundsFixed_append (done more : List (Submission RoundMessage Views))
    (hears : ∀ submission ∈ done ++ more, Hears accepts submission.env) :
    deployment.RoundsFixed accepts (deployment.stateAfter done).account.storage
      (deployment.stateAfter (done ++ more)).account.storage := by
  have keeps : (deployment.contract accepts).Keeps _ _ :=
    keeps_roundsFixed (deployment.stateAfter done).account.storage
  obtain ⟨earlier, later⟩ := List.forall_mem_append.mp hears
  rw [stateAfter_append]
  exact (keeps.runAll (follows_true _ more) later (deployment.roundsKept_stateAfter earlier).1
    ⟨Nat.le_refl _, ⟨List.prefix_refl _, fun _ _ _ => rfl⟩, fun _ _ _ => id⟩).2

/-- Whatever is sent later, registered beacons stay, and a request keeps what it was made with and
what it is bound to. -/
theorem beacons_and_requests_kept (sent more : List (Submission RoundMessage Views)) :
    (deployment.bookAfter sent).beacons <+: (deployment.bookAfter (sent ++ more)).beacons ∧
    ∀ requestId < (deployment.stateAfter sent).account.storage.nextRequestId,
      deployment.bindingAfter (sent ++ more) requestId = deployment.bindingAfter sent requestId ∧
      Ages ((deployment.stateAfter sent).account.storage.requests requestId)
        ((deployment.stateAfter (sent ++ more)).account.storage.requests requestId) := by
  have fixed := @roundsFixed_append (fun _ _ _ => True) deployment sent more
    (deployment.hears_plain _)
  have keeps : deployment.plainContract.Keeps _ _ :=
    keeps_ages (deployment.stateAfter sent).account.storage
  have aged := keeps.runAll (follows_true _ more) (deployment.hears_plain more)
    (deployment.inOrder_stateAfter sent) ⟨le_rfl, fun _ _ => Ages.refl _⟩
  refine ⟨fixed.book.beacons, fun requestId made =>
    ⟨deployment.bindingAfter_append sent more made, ?_⟩⟩
  rw [stateAfter_append]
  exact aged.2.2 requestId made

/-- The seed that a view returns is the seed of a request that was made. -/
theorem hasSeed_of_seedViewed
    (cached : (deployment.stateAfter submissions).account.storage.ext.book.Cached accepts
      deployment.platform)
    (viewed : deployment.SeedViewed accepts submissions requestId seed) :
    ((deployment.stateAfter submissions).account.storage.requests requestId).consumer ≠ 0 ∧
      deployment.HasSeed accepts (deployment.stateAfter submissions).account.storage requestId
        seed := by
  obtain ⟨block, env, gas, signature, rest, hears, returned⟩ := viewed
  generalize (deployment.stateAfter submissions).account = account at *
  have spec : Tx.wp env (fun _ => True) (fun _ => True)
      (RoundCoordinator.getProofContext (deployment.context block) requestId signature)
      (fun answer _ _ _ => (account.storage.requests requestId).consumer ≠ 0 ∧
        deployment.HasSeed accepts account.storage requestId answer.1) account gas [] := by
    refine Tx.wp_bind (Tx.wp_bind (Tx.wp_storage ?_))
    refine Tx.wp_bind (Tx.wp_revertIf (fun _ => trivial) fun known => Tx.wp_pure (Tx.wp_bind ?_))
    refine Tx.wp_storage (Tx.wp_bind ?_)
    unfold BeaconBook.roundRandomnessView BeaconBook.checked
    split
    · split
      · exact Tx.wp_fail trivial
      · rename_i beacon registered
        refine Tx.wp_bind (BeaconBook.wp_yes ⟨fun _ => trivial, trivial, fun _ _ _ => trivial,
          fun _ _ _ _ => trivial⟩ (fun _ _ _ _ _ _ _ => trivial) fun answer gas' spent heard => ?_)
        refine Tx.wp_bind (Tx.wp_revertIf (fun _ => trivial) fun valid => Tx.wp_pure (Tx.wp_pure ?_))
        obtain ⟨position, success, yes⟩ := heard (Bool.not_eq_false _ ▸ valid)
        exact ⟨known, _, ⟨beacon, signature, registered,
          hears position beacon _ signature success yes, rfl⟩, rfl⟩
    · rename_i there
      exact Tx.wp_pure (Tx.wp_pure ⟨known, _, cached _ _ there, rfl⟩)
  exact Tx.wp_of_ok spec rfl rfl returned

include hears

/-- A seed that a run computes is the seed of the request. -/
theorem hasSeed_of_seedComputed
    (computed : deployment.SeedComputed accepts submissions requestId seed) :
    deployment.HasSeed accepts (deployment.stateAfter submissions).account.storage requestId
      seed := by
  rcases computed with ⟨done, ⟨more, rfl⟩, viewed⟩ | ⟨block, keyHash, proofHash, member⟩
  · obtain ⟨order, kept⟩ :=
      deployment.roundsKept_stateAfter (List.forall_mem_append.mp hears).1
    obtain ⟨known, seeded⟩ := hasSeed_of_seedViewed kept.cached viewed
    exact (roundsFixed_append done more hears).seeds requestId (order.lt_of_known known) seed seeded
  · exact ((deployment.roundsKept_stateAfter hears).2.verified _ _ _ _ _ member).2

variable (deployment accepts submissions) in
omit hears in
/-- What a run says of the randomness of rounds: it is written once and stays, it is the hash of a
signature that was accepted, and every seed that is computed comes from it. -/
structure RoundRandomness : Prop where
  once : (∀ bytes, deployment.platform.sha256 bytes ≠ 0) → ∀ beaconId round,
    ((deployment.stateAfter submissions).logs.map Prod.snd).countP
      (Event.verifies beaconId round) ≤ 1
  stays : ∀ done more, submissions = done ++ more → ∀ beaconId round,
    (deployment.bookAfter done).roundRandomness beaconId round ≠ 0 →
    (deployment.bookAfter submissions).roundRandomness beaconId round =
      (deployment.bookAfter done).roundRandomness beaconId round
  accepted : ∀ beaconId round, (deployment.bookAfter submissions).roundRandomness beaconId round ≠ 0 →
    ∃ beacon signature, (deployment.bookAfter submissions).beacons[beaconId]? = some beacon ∧
      accepts beacon round signature ∧
      (deployment.bookAfter submissions).roundRandomness beaconId round =
        deployment.platform.sha256 signature
  seeds : (∀ beacon round first second, accepts beacon round first →
      accepts beacon round second → first = second) →
    ∀ requestId seed seed', deployment.SeedComputed accepts submissions requestId seed →
      deployment.SeedComputed accepts submissions requestId seed' → seed = seed'

omit hears in
/-- Every run of the round coordinator treats the randomness of rounds so, for any verifiers. -/
theorem round_randomness_fixed (deployment : RoundDeployment)
    (accepts : StoredBeacon → Nat → Bytes → Prop)
    (submissions : List (Submission RoundMessage Views))
    (hears : ∀ submission ∈ submissions, Hears accepts submission.env) :
    deployment.RoundRandomness accepts submissions := by
  obtain ⟨-, kept⟩ := deployment.roundsKept_stateAfter hears
  refine ⟨fun hashes beaconId round => ?_, ?_, kept.cached,
    fun unique requestId seed seed' computed computed' => ?_⟩
  · have counted := kept.counted hashes beaconId round
    refine counted.trans_le ?_
    split
    · exact Nat.zero_le 1
    · exact Nat.le_refl 1
  · rintro done more rfl
    exact (roundsFixed_append done more hears).book.cached
  · obtain ⟨value, randomness, rfl⟩ := hasSeed_of_seedComputed hears computed
    obtain ⟨value', randomness', rfl⟩ := hasSeed_of_seedComputed hears computed'
    rw [randomness.unique unique randomness']

/-- Verifiers that accept one signature. -/
def oneSignature : Env RoundMessage Views :=
  ⟨fun _ => ⟨true, [], 0, 0, ⟨fun _ => true, fun _ _ => some 1,
    fun _ _ _ signature => some (if signature = [7] then 1 else 0)⟩⟩, fun _ => 0⟩

/-- A request and its fulfillment with the signature of its round. -/
def servedRequest : List (Submission RoundMessage Views) :=
  [⟨default, oneSignature, 10 ^ 7, 1, 0, ⟨⟨⟨5⟩, 1⟩, .requestRandomness 0 100000 ⟨5⟩⟩⟩,
    ⟨default, oneSignature, 10 ^ 7, 1, 0, ⟨⟨⟨6⟩, 0⟩, .fulfillRandomness 1 default [7]⟩⟩]

omit hears in
theorem round_randomness_fixed_served :
    ((default : RoundDeployment).bookAfter servedRequest).roundRandomness 0 2 ≠ 0 ∧
    ∃ beacon signature,
      ((default : RoundDeployment).bookAfter servedRequest).beacons[0]? = some beacon ∧
      signature = [7] ∧
      ((default : RoundDeployment).bookAfter servedRequest).roundRandomness 0 2 =
        (default : RoundDeployment).platform.sha256 signature := by
  have hears : ∀ submission ∈ servedRequest,
      Hears (fun _ _ signature => signature = [7]) submission.env := by
    intro submission member position beacon round signature success yes
    have same : submission.env = oneSignature := by
      rcases List.mem_pair.mp member with rfl | rfl <;> rfl
    rw [same] at yes
    by_contra other
    have no : some (if signature = [7] then 1 else 0) = some 1 := yes
    rw [if_neg other] at no
    cases no
  have there : ((default : RoundDeployment).bookAfter servedRequest).roundRandomness 0 2 ≠ 0 := by
    decide +kernel
  exact ⟨there, (round_randomness_fixed default _ servedRequest hears).accepted 0 2 there⟩

end RoundDeployment

end D20
