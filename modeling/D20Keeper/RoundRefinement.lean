/-
This file shows that the round coordinator takes only steps of the abstract
machine: first the rules of the part of its storage that is its own, then its
functions from the inside out, then any message with any calls nested in it.

What a verifier answers is the environment's choice. `accepts` collects the
signatures that some verifier accepted, and a round enters the cache only with
one of them.
-/

import D20Keeper.Refinement
import D20Keeper.RoundCoordinator

namespace D20

open Evm
open Tx (wp_bind wp_storage wp_pure wp_emit wp_write wp_revertIf wp_checked wp_staticCall
  wp_revert wp_requireGas wp_mono wp_ite wp_fail wp_attempt)

/-! ### Rules -/

/-- What a registration has to satisfy, besides the answers of its verifier. -/
structure BeaconRegistration.Admissible (platform : Platform) (book : BeaconBook)
    (r : BeaconRegistration) : Prop where
  room : book.beacons.length ≠ BeaconBook.maxBeacons
  chainHash_ne : r.chainHash ≠ 0
  genesis_pos : 0 < r.genesis
  genesis_lt : r.genesis < 2 ^ 40
  period_pos : 0 < r.period
  period_le : r.period ≤ BeaconBook.maxBeaconPeriod
  unregistered : book.registered
    (BeaconBook.identity platform r.verifier r.chainHash r.publicKey r.genesis r.period) = false

/-- The event of a registration. -/
def BeaconRegistration.event (platform : Platform) (book : BeaconBook) (r : BeaconRegistration) :
    Event :=
  .beaconRegistered (book.beacons.length % 2 ^ 8)
    (BeaconBook.identity platform r.verifier r.chainHash r.publicKey r.genesis r.period)
    r.verifier r.chainHash r.publicKey r.genesis r.period

/-- The number of backup keepers after one is added or removed. -/
def RoundExtension.withBackup (ext : RoundExtension) (account : Address) (allowed : Bool) :
    RoundExtension :=
  { ext with
    backupKeeperCount := if allowed then ext.backupKeeperCount + 1 else ext.backupKeeperCount - 1
    backupKeepers := Function.update ext.backupKeepers account allowed }

/-- How the storage beyond the shared one changes: by the owner's operations on beacons and
keepers, and by a round that is verified while it is not in the cache. -/
inductive RoundEvolves (accepts : StoredBeacon → Nat → Bytes → Prop) (context : Context) :
    RoundExtension → RoundExtension → List Event → Prop where
  | register (ext : RoundExtension) (r : BeaconRegistration)
    (admissible : r.Admissible context.platform ext.book) :
    RoundEvolves accepts context ext { ext with book := ext.book.enlist context.platform r }
      [r.event context.platform ext.book]
  | schedule (ext : RoundExtension) (beaconId fromTime : Nat) (book : BeaconBook)
    (scheduled : ext.book.scheduleBeacon context.block beaconId fromTime = .ok book) :
    RoundEvolves accepts context ext { ext with book := book } [.beaconScheduled beaconId fromTime]
  | cancel (ext : RoundExtension) (beaconId fromTime : Nat) (book : BeaconBook)
    (cancelled : ext.book.cancelSchedule context.block = .ok (book, beaconId, fromTime)) :
    RoundEvolves accepts context ext { ext with book := book }
      [.beaconScheduleCancelled beaconId fromTime]
  | keeper (ext : RoundExtension) (next : Address) :
    RoundEvolves accepts context ext { ext with keeper := next }
      [.keeperChanged ext.keeper next]
  | backup (ext : RoundExtension) (account : Address) (allowed : Bool)
    (changes : ext.backupKeepers account ≠ allowed) :
    RoundEvolves accepts context ext (ext.withBackup account allowed)
      [.backupKeeperSet account allowed]
  | cache (ext : RoundExtension) (beaconId round : Nat) (beacon : StoredBeacon) (signature : Bytes)
    (uncached : ext.book.cachedRound beaconId round = 0)
    (registered : ext.book.beacons[beaconId]? = some beacon)
    (accepted : accepts beacon round signature) :
    RoundEvolves accepts context ext
      { ext with book := ext.book.cache beaconId round (context.platform.sha256 signature) }
      [.roundVerified beaconId round (context.platform.sha256 signature) signature]

variable (accepts : StoredBeacon → Nat → Bytes → Prop)

/-- The randomness of a round is in the cache, where it was before or was put for a signature that
the verifier accepted. -/
def BeaconBook.Holds (platform : Platform)
    (book : BeaconBook) (beaconId round : Nat) (value : Bytes32) : Prop :=
  book.cachedRound beaconId round = value ∧
    (value ≠ 0 ∨ ∃ beacon signature, book.beacons[beaconId]? = some beacon ∧
      accepts beacon round signature ∧ value = platform.sha256 signature)

/-- Which proof a fulfillment accepts and what it makes of it: the proof is for the coordinator's
key and for the seed of the request with its round's randomness. -/
structure RoundAccepts (accepts : StoredBeacon → Nat → Bytes → Prop) (context : Context)
    (store : RoundStore) (requestId : Nat) (proof : Proof) (randomness transcript : Bytes32)
    (roundRand : Bytes32) : Prop where
  key : proof.pk.1 = store.publicKeyX ∧ proof.pk.2 = store.publicKeyY
  seed : proof.seed = RoundCoordinator.seed context store requestId roundRand
  held : store.ext.book.Holds accepts context.platform
    (store.requests requestId).binding.beaconId (store.requests requestId).binding.round roundRand
  output : ∃ value, context.platform.randomValue proof proof.seed = some value ∧
    randomness = BitVec.ofNat 256 value
  transcript : transcript = RoundCoordinator.transcriptHash context store requestId roundRand
    (context.platform.keccak256 proof.encode) randomness

/-- The stored count is the number of backup keepers. -/
def RoundExtension.Counted (ext : RoundExtension) : Prop :=
  ∑ account, (ext.backupKeepers account).toNat = ext.backupKeeperCount

/-- A backup keeper is counted. -/
theorem RoundExtension.Counted.pos {ext : RoundExtension} (counted : ext.Counted)
    {account : Address} (listed : ext.backupKeepers account = true) :
    1 ≤ ext.backupKeeperCount := by
  have within := Ledger.le_sum (fun account => (ext.backupKeepers account).toNat) account
  rw [counted, listed] at within
  exact within

/-- Adding or removing a backup keeper keeps the count. -/
theorem RoundExtension.Counted.withBackup {ext : RoundExtension} (counted : ext.Counted)
    {account : Address} {allowed : Bool} (changes : ext.backupKeepers account ≠ allowed) :
    (ext.withBackup account allowed).Counted := by
  have moved := Ledger.sum_update_univ (Bool.toNat ∘ ext.backupKeepers) account allowed.toNat
  rw [← Function.comp_update] at moved
  have total : ∑ account, (Bool.toNat ∘ ext.backupKeepers) account = ext.backupKeeperCount :=
    counted
  rw [total] at moved
  cases allowed with
  | true =>
    have unlisted : (Bool.toNat ∘ ext.backupKeepers) account = 0 := by
      rw [Function.comp_apply, Bool.eq_false_iff.mpr changes, Bool.toNat_false]
    rw [unlisted, Nat.add_zero, Bool.toNat_true] at moved
    exact moved
  | false =>
    have listed := Bool.ne_false_iff.mp changes
    have once : (Bool.toNat ∘ ext.backupKeepers) account = 1 := by
      rw [Function.comp_apply, listed, Bool.toNat_true]
    rw [once, Bool.toNat_false, Nat.add_zero] at moved
    exact Nat.eq_sub_of_add_eq moved

/-- The rules of the round coordinator. -/
def roundRules :
    Rules roundTerms RoundBinding RoundExtension where
  evolve := RoundEvolves accepts
  assign context ext requestId _ binding events :=
    ext.book.assignRound context.block = .ok (binding.beaconId, binding.round) ∧
      events = [.roundAssigned requestId binding.beaconId binding.round]
  rebind _ _ _ _ _ := False
  accept context store requestId proof randomness transcript :=
    ∃ roundRand, RoundAccepts accepts context store requestId proof randomness transcript roundRand
  sound := RoundExtension.Counted
  sound_evolve evolves counted := by
    cases evolves with
    | backup account allowed changes => exact counted.withBackup changes
    | _ => exact counted
  known_rebind := False.elim
  plain_evolve evolves event member := by
    cases evolves <;>
      · rw [List.mem_singleton.mp member]
        rfl
  plain_assign assigned event member := by
    rw [assigned.2, List.mem_singleton] at member
    rw [member]
    rfl
  plain_rebind := False.elim

/-! ### Questions to verifiers -/

namespace BeaconBook

/-- What a program logic has to allow a question to a verifier: refusals, running out of gas, and
the points of its own accounting. -/
structure Tolerates {σ : Type} (O : Point σ Error Mark → Prop) (E : Fault Error → Prop) : Prop where
  reverts : ∀ error, E (.revert error)
  exhausts : E .outOfGas
  checks : ∀ need account gas, O ⟨.gasCheck need, account, gas, 0⟩
  spends : ∀ label spent account gas, O ⟨.spent label spent, account, gas, 0⟩

variable {σ κ : Type} {env : Env κ Views} {O : Point σ Error Mark → Prop}
  {E : Fault Error → Prop} {account : Account σ} {gas : Option Nat} {logs : List Event}

/-- Only the word 1 is a yes. -/
theorem wp_yes {verifier : Address} {question : Views → Option Nat}
    {post : Tx.Post σ Event Bool} (tolerates : Tolerates O E)
    (asks : ∀ gas', Spends gas gas' →
      (∀ amount, gas' = some amount → roundVerifyGasNeeded ≤ amount) →
      ∀ target limit forwarded meter, O ⟨.ask target limit forwarded, account, meter, 0⟩)
    (holds : ∀ answer gas', Spends gas gas' →
      (answer = true → ∃ position, (env.answer position).success = true ∧
        question (env.answer position).view = some 1) → post answer account gas' logs) :
    Tx.wp env O E (yes verifier question : CoordinatorTx σ κ Bool) post account gas logs := by
  refine wp_bind (wp_requireGas tolerates.exhausts (tolerates.reverts _)
    (fun _ _ => tolerates.checks _ _ _) fun gas' spent enough => ?_)
  refine wp_bind (Tx.wp_spending (fun _ _ _ => tolerates.spends _ _ _ _) ?_)
  refine wp_bind (Tx.wp_tick tolerates.exhausts fun gas'' spent' => ?_)
  refine wp_staticCall (fun _ => asks gas' spent enough _ _ _ _)
    fun position gas''' spent'' => ?_
  have total := (spent.trans spent').trans spent''
  split
  · exact wp_revert (tolerates.reverts _)
  · rename_i word answered
    refine wp_bind (wp_revertIf (fun _ => tolerates.reverts _) fun _ => wp_pure ?_)
    refine holds _ _ total fun yes => ⟨position, ?_⟩
    split at answered
    · rename_i success
      exact ⟨success, answered.trans (congrArg some (of_decide_eq_true yes))⟩
    · cases answered

/-- A registration is checked and appended to the book that is returned. -/
theorem wp_registerBeacon {platform : Platform} {block : Block} {book : BeaconBook}
    {r : BeaconRegistration}
    {post : Tx.Post σ Event (BeaconBook × Nat)}
    (tolerates : Tolerates O E)
    (asks : ∀ gas', Spends gas gas' →
      (∀ amount, gas' = some amount → roundVerifyGasNeeded ≤ amount) →
      ∀ target limit forwarded meter, O ⟨.ask target limit forwarded, account, meter, 0⟩)
    (holds : ∀ gas', r.Admissible platform book →
      post (book.enlist platform r, book.beacons.length % 2 ^ 8) account gas'
        (logs ++ [r.event platform book])) :
    Tx.wp env O E (book.registerBeacon platform block r : CoordinatorTx σ κ (BeaconBook × Nat))
      post account gas logs := by
  refine wp_bind (Tx.wp_observe fun _ => ?_)
  refine wp_bind (wp_revertIf (fun _ => tolerates.reverts _) fun valid => ?_)
  simp only [not_or] at valid
  obtain ⟨room, -, chainHash, genesis, genesis', period, period', sampleRound⟩ := valid
  refine wp_bind (wp_checked (fun _ _ => ?_) fun _ failed => ?_)
  · refine wp_bind (wp_revertIf (fun _ => tolerates.reverts _) fun _ => ?_)
    refine wp_bind (wp_yes tolerates asks fun _ gas' spent _ => ?_)
    refine wp_bind (wp_revertIf (fun _ => tolerates.reverts _) fun _ => ?_)
    refine wp_bind (wp_yes tolerates (fun other spent' => asks other (spent.trans spent'))
      fun _ gas'' _ _ => ?_)
    refine wp_bind (wp_revertIf (fun _ => tolerates.reverts _) fun _ => ?_)
    refine wp_bind (wp_revertIf (fun _ => tolerates.reverts _) fun unregistered => ?_)
    refine wp_bind (wp_emit (wp_pure (holds gas'' ?_)))
    exact ⟨room, chainHash, Nat.pos_of_ne_zero genesis, by omega, Nat.pos_of_ne_zero period,
      Nat.le_of_not_lt period', Bool.eq_false_iff.mpr unregistered⟩
  · rw [checkedSub_ok (Nat.pos_of_ne_zero sampleRound)] at failed
    cases failed

end BeaconBook

/-- Every signature that a verifier accepts in this environment is accounted for. -/
def Hears (env : Env RoundMessage Views) : Prop :=
  ∀ position (beacon : StoredBeacon) round signature, (env.answer position).success = true →
    (env.answer position).view.verifyRound beacon.verifier beacon.publicKey round signature =
      some 1 →
    accepts beacon round signature

/-! ### Failures -/

variable {block : Block} {book : BeaconBook} {fault : Fault Error}

theorem BeaconBook.scheduleBeacon_harmless {beaconId fromTime : Nat}
    (failed : book.scheduleBeacon block beaconId fromTime = .error fault) : Harmless fault := by
  unfold scheduleBeacon at failed
  split at failed
  · cases failed
    exact harmless_revert _
  · split at failed
    · cases failed
      exact harmless_revert _
    · cases failed

theorem BeaconBook.cancelSchedule_harmless (failed : book.cancelSchedule block = .error fault) :
    Harmless fault := by
  unfold cancelSchedule at failed
  dsimp only at failed
  split at failed
  · cases failed
    exact harmless_revert _
  · cases failed

/-- The subtractions of `_round` are of something smaller. -/
theorem BeaconBook.round_harmless {genesis period timestamp : Nat} {code : Panic}
    (failed : round genesis period timestamp = .error code) : Harmless (.panic code) := by
  unfold round at failed
  rcases error_of_bind failed with overflow | ⟨t, -, failed⟩
  · exact harmless_checkedAdd overflow
  split at failed
  · cases failed
  rename_i beyond
  rcases error_of_bind failed with underflow | ⟨elapsed, elapsedIs, failed⟩
  · exact harmless_checkedSub (Nat.le_of_not_le beyond) underflow
  rcases error_of_bind failed with overflow | ⟨sum, sumIs, failed⟩
  · exact harmless_checkedAdd overflow
  obtain ⟨rfl, -⟩ := checkedSub_eq_ok elapsedIs
  obtain ⟨rfl, -⟩ := checkedAdd_eq_ok sumIs
  rcases error_of_bind failed with underflow | ⟨rounded, -, failed⟩
  · exact harmless_checkedSub (by omega) underflow
  rcases error_of_bind failed with division | ⟨periods, -, failed⟩
  · exact harmless_checkedDiv division
  rcases error_of_bind failed with overflow | ⟨_, -, failed⟩
  · exact harmless_checkedAdd overflow
  · cases failed

theorem BeaconBook.assignRound_harmless {code : Panic}
    (failed : book.assignRound block = .error code) : Harmless (.panic code) := by
  unfold assignRound at failed
  dsimp only at failed
  split at failed
  all_goals
    rcases error_of_bind failed with failed | ⟨_, -, failed⟩
    · exact round_harmless failed
    · cases failed

theorem RoundCoordinator.batchGasLoop_harmless {store : RoundStore} {rounds : List RoundSignature}
    {ids budgeted : List Nat} {need : Nat}
    (failed : batchGasLoop block store rounds ids need budgeted = .error fault) :
    Harmless fault := by
  induction ids generalizing need budgeted with
  | nil => cases failed
  | cons requestId rest inductionHypothesis =>
    unfold batchGasLoop at failed
    dsimp only at failed
    split at failed
    · cases failed
      exact harmless_revert _
    · split at failed
      · exact inductionHypothesis failed
      · split at failed
        · split at failed
          · cases failed
            exact harmless_revert _
          · split at failed
            · exact inductionHypothesis failed
            · exact inductionHypothesis failed
        · exact inductionHypothesis failed

namespace RoundCoordinator

variable {accepts : StoredBeacon → Nat → Bytes → Prop} {context : RoundContext}
  {start base : Flow roundTerms RoundBinding RoundExtension} {env : Env RoundMessage Views}
  {reenter : RoundMessage → RoundProgram Unit} {account : Account RoundStore} {gas : Option Nat}
  {logs : List Event} {surplus : Int}

/-! ### Questions to verifiers -/

theorem tolerates : BeaconBook.Tolerates (Seen (roundRules accepts) context.toContext start)
    Harmless :=
  ⟨harmless_revert, harmless_outOfGas, fun _ _ _ => trivial, fun _ _ _ _ => trivial⟩

/-- A question is asked only with nothing taken out that is still booked. -/
theorem seen_ask (reached : Reached (roundRules accepts) context.toContext start account logs surplus)
    (lenient : Lenient surplus gas) {gas' : Option Nat} (spent : Spends gas gas')
    (enough : ∀ amount, gas' = some amount → BeaconBook.roundVerifyGasNeeded ≤ amount)
    (target : Address) (limit forwarded meter : Option Nat) :
    Seen (roundRules accepts) context.toContext start
      ⟨.ask target limit forwarded, account, meter, 0⟩ := by
  refine ⟨account.storage, logs, surplus, reached, ?_, .inl rfl⟩
  rcases lenient.spends spent with covered | ⟨amount, metered, small⟩
  · exact covered
  · have needed := enough amount metered
    have large : 32300 < BeaconBook.roundVerifyGasNeeded := by decide
    omega

/-! ### Beacons and keepers -/

variable {sender : Address} {signature : Bytes}
  {post : Tx.Post RoundStore Event Bytes32} {requestId : Nat}
  {proof : Proof} {rounds : List RoundSignature} {msg : Msg}

section

variable (stays : Stays (roundRules accepts) context.toContext start base account logs)

include stays

theorem wp_registerBeacon {beacon : BeaconRegistration}
    (path : Path (roundRules accepts) context.toContext start base) (lenient : Lenient base.surplus gas) :
    RunsStays (roundRules accepts) context.toContext start env
      (registerBeacon context sender beacon) base account gas logs := by
  refine wp_onlyOwner (wp_bind (wp_storage (wp_bind ?_)))
  refine BeaconBook.wp_registerBeacon tolerates
    (fun gas' spent enough => seen_ask (path.trans stays.path) lenient spent enough)
    fun gas' admissible => wp_write ?_
  exact stays.evolve _ (.register account.storage.ext beacon admissible)

theorem wp_scheduleBeacon {beaconId fromTime : Nat} :
    RunsStays (roundRules accepts) context.toContext start env
      (scheduleBeacon context sender beaconId fromTime) base account gas logs := by
  refine wp_onlyOwner (wp_bind (wp_storage (wp_bind ?_)))
  refine wp_attempt (fun book scheduled => ?_) fun _ => BeaconBook.scheduleBeacon_harmless
  refine wp_bind (wp_write (wp_emit ?_))
  exact stays.evolve _ (.schedule account.storage.ext beaconId fromTime book scheduled)

theorem wp_cancelBeaconSchedule :
    RunsStays (roundRules accepts) context.toContext start env
      (cancelBeaconSchedule context sender) base account gas logs := by
  refine wp_onlyOwner (wp_bind (wp_storage (wp_bind ?_)))
  refine wp_attempt (fun cancelled cancels => ?_) fun _ => BeaconBook.cancelSchedule_harmless
  refine wp_bind (wp_write (wp_emit ?_))
  exact stays.evolve _ (.cancel account.storage.ext _ _ _ cancels)

theorem wp_setKeeper {next : Address} :
    RunsStays (roundRules accepts) context.toContext start env (setKeeper sender next) base
      account gas logs := by
  refine wp_onlyOwner (wp_check fun _ => ?_)
  refine wp_bind (wp_storage (wp_bind (wp_emit (wp_write ?_))))
  exact stays.evolve _ (.keeper account.storage.ext next)

theorem wp_setBackupKeeper {backup : Address} {allowed : Bool}
    (counted : account.storage.ext.Counted) :
    RunsStays (roundRules accepts) context.toContext start env
      (setBackupKeeper sender backup allowed) base account gas logs := by
  refine wp_onlyOwner (wp_bind (wp_storage ?_))
  refine wp_check fun valid => ?_
  have changes : account.storage.ext.backupKeepers backup ≠ allowed := fun same =>
    valid (.inr (.inr same))
  refine wp_check fun _ => ?_
  have evolved := stays.evolve _ (.backup account.storage.ext backup allowed changes)
  cases allowed with
  | true =>
    refine wp_bind (wp_checked (fun count counts => ?_) fun _ => harmless_checkedAdd)
    obtain ⟨rfl, -⟩ := checkedAdd_eq_ok counts
    exact wp_bind (wp_write (wp_emit evolved))
  | false =>
    refine wp_bind (wp_checked (fun count counts => ?_) fun _ =>
      harmless_checkedSub (counted.pos (Bool.ne_false_iff.mp changes)))
    obtain ⟨rfl, -⟩ := checkedSub_eq_ok counts
    exact wp_bind (wp_write (wp_emit evolved))

end

/-! ### Fulfillment -/

/-- What holds once the book has the randomness of a round, with the requests left alone. -/
def Finds (accepts : StoredBeacon → Nat → Bytes → Prop) (context : RoundContext)
    (start : Flow roundTerms RoundBinding RoundExtension) (surplus : Int)
    (account : Account RoundStore) (gas : Option Nat) (beaconId round : Nat)
    (post : Tx.Post RoundStore Event Bytes32) : Prop :=
  ∀ value account' gas' logs', Spends gas gas' →
    Inside (roundRules accepts) context.toContext start surplus account' logs' →
    Undisturbed account.storage account'.storage →
    account'.storage.ext.book.Holds accepts context.platform beaconId round value →
    post value account' gas' logs'

section

variable (hears : Hears accepts env)
  (inside : Inside (roundRules accepts) context.toContext start surplus account logs)
  (covered : 0 ≤ surplus) {r : StoredRequest RoundBinding}

include hears inside covered

/-- Verifying a round puts its randomness into the cache and leaves the requests alone. -/
theorem wp_verifyRound {beaconId round : Nat}
    (uncached : account.storage.ext.book.cachedRound beaconId round = 0)
    (holds : Finds accepts context start surplus account gas beaconId round post) :
    Runs (roundRules accepts) context.toContext start env
      (verifyRound context beaconId round signature) post account gas logs := by
  refine wp_bind (wp_storage (wp_bind (wp_bind ?_)))
  unfold BeaconBook.checked
  cases registered : account.storage.ext.book.beacons[beaconId]? with
  | none =>
    refine wp_fail ?_
    intro same
    cases same
  | some beacon =>
    refine wp_bind (BeaconBook.wp_yes tolerates
      (fun gas' spent enough => seen_ask inside.1 (.inl covered) spent enough)
      fun answer gas' spent heard => ?_)
    refine wp_check fun valid => wp_pure ?_
    refine wp_bind (wp_emit (wp_pure (wp_bind (wp_write (wp_pure ?_)))))
    obtain ⟨position, success, yes⟩ := heard (Bool.not_eq_false _ ▸ valid)
    have accepted := hears position beacon round signature success yes
    have evolves := inside.1.evolve _ (.cache account.storage.ext beaconId round beacon signature
      uncached registered accepted)
    refine holds _ _ _ _ spent ⟨evolves, inside.2⟩
      ⟨rfl, rfl, rfl, rfl, rfl, rfl, rfl, rfl, rfl, rfl, rfl, rfl⟩ ⟨if_pos ⟨rfl, rfl⟩, .inr ?_⟩
    exact ⟨beacon, signature, registered, accepted, rfl⟩

theorem wp_singleRound (holds : Finds accepts context start surplus account gas r.binding.beaconId
      r.binding.round post) :
    Runs (roundRules accepts) context.toContext start env (singleRound context r signature) post
      account gas logs := by
  refine wp_bind (wp_storage (wp_ite (fun uncached => ?_) fun cached => ?_))
  · refine wp_bind (wp_requireGas harmless_outOfGas (harmless_revert _)
      (fun _ _ => trivial) fun gas' spent _ => ?_)
    exact wp_verifyRound hears inside covered uncached fun value account' gas'' logs' spent' =>
      holds value account' gas'' logs' (spent.trans spent')
  · exact wp_pure (holds _ _ _ _ (Spends.refl _) inside (Undisturbed.refl _)
      ⟨rfl, .inl cached⟩)

theorem wp_batchRound (holds : Finds accepts context start surplus account gas r.binding.beaconId
      r.binding.round post) :
    Runs (roundRules accepts) context.toContext start env (batchRound context rounds r) post
      account gas logs := by
  refine wp_bind (wp_storage (wp_ite (fun uncached => ?_) fun cached => ?_))
  · split
    · exact wp_revert (harmless_revert _)
    · exact wp_verifyRound hears inside covered uncached holds
  · exact wp_pure (holds _ _ _ _ (Spends.refl _) inside (Undisturbed.refl _)
      ⟨rfl, .inl cached⟩)

end

section

variable (yields : Yields (roundRules accepts) context.toContext start env reenter)
  (order : InOrder (roundRules accepts) start.store)

include yields order

/-- `_fulfill` on an open request in time, with its round's randomness from the cache. -/
theorem wp_fulfill {roundRand : Bytes32}
    (inside : Inside (roundRules accepts) context.toContext start surplus account logs)
    (covered : 0 ≤ surplus) (known : (account.storage.requests requestId).consumer ≠ 0)
    (pending : (account.storage.requests requestId).isOpen = true)
    (inTime : context.block.timestamp ≤ (account.storage.requests requestId).deadline)
    (held : account.storage.ext.book.Holds accepts context.platform
      (account.storage.requests requestId).binding.beaconId
      (account.storage.requests requestId).binding.round roundRand) :
    RunsInside (roundRules accepts) context.toContext start env
      (fulfill context reenter sender requestId proof roundRand) surplus account gas logs := by
  refine wp_bind (wp_storage (wp_bind (wp_bind ?_)))
  refine wp_bind (wp_storage ?_)
  refine wp_check fun key => ?_
  refine wp_revertIf (fun _ => harmless_revert _) fun sameSeed => ?_
  refine wp_bind (wp_staticCall
    (fun _ => ⟨account.storage, logs, surplus, inside.1, covered, .inl rfl⟩)
    fun position gas' spent => ?_)
  refine wp_check fun _ => ?_
  cases output : context.platform.randomValue proof
      (seed context.toContext account.storage requestId roundRand) with
  | none => exact wp_revert (harmless_revert _)
  | some value =>
    refine wp_pure (wp_bind (wp_write (wp_bind (wp_storage ?_))))
    rw [not_or, not_not, not_not] at key
    rw [not_not] at sameSeed
    refine wp_settle yields ⟨proof, BitVec.ofNat 256 value,
        context.platform.keccak256 proof.encode, _, sender⟩ order inside.1 rfl inside.2
      covered known pending inTime ⟨roundRand, ?_⟩ rfl rfl rfl
    exact ⟨key, sameSeed, held, ⟨value, sameSeed ▸ output, rfl⟩, rfl⟩

variable (hears : Hears accepts env)

include hears

theorem wp_fulfillRandomness
    (reached : Reached (roundRules accepts) context.toContext start account logs 0) :
    RunsReached (roundRules accepts) context.toContext start env
      (fulfillRandomness context reenter sender requestId proof signature) account gas logs := by
  refine wp_nonReentrant reached fun inside => ?_
  refine wp_bind (wp_request fun known => ?_)
  refine wp_check fun unfulfilled => ?_
  refine wp_check fun unrefunded => ?_
  refine wp_check fun inTime => ?_
  refine wp_bind (wp_singleRound hears inside (Int.le_refl 0) ?_)
  intro value account' gas' logs' _ inside' undisturbed held
  have same := congrFun undisturbed.requests requestId
  rw [← same] at known unfulfilled unrefunded inTime held
  exact wp_fulfill yields order inside' (Int.le_refl 0) known
    (isOpen_of_pending unfulfilled unrefunded) (Nat.le_of_not_lt inTime) held

/-- A batch member is skipped, or served when it is open and in time. -/
theorem wp_serveMember
    (inside : Inside (roundRules accepts) context.toContext start 0 account logs) :
    RunsInside (roundRules accepts) context.toContext start env
      (serveMember context reenter sender rounds requestId proof) 0 account gas logs := by
  refine wp_bind (wp_request fun known => wp_ite (fun _ => ?_) fun served => ?_)
  · exact wp_emit ⟨inside.1.report _ rfl, inside.2⟩
  obtain ⟨pending, inTime⟩ := of_skipReason_eq_zero (not_not.mp served)
  refine wp_bind (Tx.wp_mark (fun _ _ => trivial) ?_)
  refine wp_bind (wp_batchRound hears inside (Int.le_refl 0) ?_)
  intro value account' gas' logs' _ inside' undisturbed held
  rw [← congrFun undisturbed.requests requestId] at known pending inTime held
  exact wp_fulfill yields order inside' (Int.le_refl 0) known pending inTime held

theorem wp_serveAll (members : List (Nat × Proof))
    (inside : Inside (roundRules accepts) context.toContext start 0 account logs) :
    RunsInside (roundRules accepts) context.toContext start env
      (serveAll context reenter sender rounds members) 0 account gas logs := by
  induction members generalizing account gas logs with
  | nil => exact wp_pure inside
  | cons member rest inductionHypothesis =>
    refine wp_bind (wp_mono (wp_serveMember yields order hears inside) ?_)
    intro _ account' gas' logs' _ inside'
    exact inductionHypothesis inside'

theorem wp_fulfillRandomnessBatch {ids : List Nat} {proofs : List Proof}
    (reached : Reached (roundRules accepts) context.toContext start account logs 0) :
    RunsReached (roundRules accepts) context.toContext start env
      (fulfillRandomnessBatch context reenter sender rounds ids proofs) account gas logs := by
  refine wp_nonReentrant reached fun inside => ?_
  refine wp_check fun _ => ?_
  refine wp_bind (wp_storage (wp_bind ?_))
  refine wp_attempt (fun need _ => ?_) fun _ => batchGasLoop_harmless
  refine wp_bind (wp_requireGas harmless_outOfGas (harmless_revert _)
    (fun _ _ => trivial) fun gas' _ _ => ?_)
  exact wp_serveAll yields order hears _ inside

/-! ### Requests -/

omit yields order hears in
theorem wp_createRequest {clientSeed : Bytes32} {callbackGasLimit : Nat} {refundAddress : Address}
    {spec : RandomnessMapping.Spec}
    (inside : Inside (roundRules accepts) context.toContext start msg.value account logs) :
    RunsInside (roundRules accepts) context.toContext start env
      (createRequest context msg clientSeed callbackGasLimit refundAddress spec) 0 account gas
      logs := by
  refine wp_bind (wp_checkRequest fun fee paid small => ?_)
  refine wp_bind (wp_bind (wp_staticCall (fun _ => ?_) fun _ gas' _ => ?_))
  · exact ⟨account.storage, logs, msg.value, inside.1, Int.natCast_nonneg _, .inl rfl⟩
  refine wp_check fun _ => wp_pure ?_
  refine wp_bind (wp_storage (wp_bind ?_))
  refine wp_checked (fun assigned assigns => ?_) fun _ => BeaconBook.assignRound_harmless
  have created : Runs (roundRules accepts) context.toContext start env _ _ account gas' logs :=
    D20.wp_createRequest ⟨msg, clientSeed, callbackGasLimit, refundAddress, spec,
      if spec.operation = .raw then none else some spec, fee, fun _ => ⟨assigned.1, assigned.2⟩⟩
      [.roundAssigned account.storage.nextRequestId assigned.1 assigned.2] inside paid small
      ⟨assigns, rfl⟩
  refine wp_bind (wp_mono created ?_)
  rintro _ account' _ logs' _ ⟨rfl, inside'⟩
  exact wp_emit inside'

/-! ### Messages -/

/-- A message to the unlocked contract, whose value was taken and is not booked yet. -/
theorem wp_dispatch (call : RoundCall)
    (reached : Reached (roundRules accepts) context.toContext start account logs msg.value)
    (metered : ∃ amount, gas = some amount) :
    RunsReached (roundRules accepts) context.toContext start env
      (dispatch context reenter msg call) account gas logs := by
  cases call with
  | requestRandomness | requestMappedRandomness =>
    exact wp_nonReentrant reached wp_createRequest
  | fulfillRandomness =>
    refine wp_check fun zero => ?_
    exact wp_fulfillRandomness yields order hears (reached.unpaid zero)
  | fulfillRandomnessBatch =>
    refine wp_check fun zero => ?_
    exact wp_fulfillRandomnessBatch yields order hears (reached.unpaid zero)
  | registerBeacon =>
    refine wp_check fun zero => ?_
    exact wp_of_stays (reached.unpaid zero)
      (wp_registerBeacon Stays.refl (reached.unpaid zero) (.inl (Int.le_refl 0)))
  | scheduleBeacon =>
    refine wp_check fun zero => ?_
    exact wp_of_stays (reached.unpaid zero) (wp_scheduleBeacon Stays.refl)
  | cancelBeaconSchedule =>
    refine wp_check fun zero => ?_
    exact wp_of_stays (reached.unpaid zero) (wp_cancelBeaconSchedule Stays.refl)
  | setKeeper =>
    refine wp_check fun zero => ?_
    exact wp_of_stays (reached.unpaid zero) (wp_setKeeper Stays.refl)
  | setBackupKeeper =>
    refine wp_check fun zero => ?_
    exact wp_of_stays (reached.unpaid zero) (wp_setBackupKeeper Stays.refl (order.path reached).ext)
  | shared call =>
    refine wp_check fun zero => ?_
    exact wp_run call yields order (reached.unpaid zero) metered

omit yields hears

/-- A message to the locked contract. -/
theorem wp_dispatch_locked (call : RoundCall)
    (path : Path (roundRules accepts) context.toContext start base)
    (stays : Stays (roundRules accepts) context.toContext start base account logs)
    (lenient : Lenient base.surplus gas) (entered : account.storage.entered = true) :
    RunsStays (roundRules accepts) context.toContext start env (dispatch context reenter msg call)
      base account gas logs := by
  cases call with
  | requestRandomness | requestMappedRandomness => exact wp_nonReentrant_locked entered
  | fulfillRandomness | fulfillRandomnessBatch =>
    refine wp_check fun _ => ?_
    exact wp_nonReentrant_locked entered
  | registerBeacon =>
    refine wp_check fun _ => ?_
    exact wp_registerBeacon stays path lenient
  | scheduleBeacon =>
    refine wp_check fun _ => ?_
    exact wp_scheduleBeacon stays
  | cancelBeaconSchedule =>
    refine wp_check fun _ => ?_
    exact wp_cancelBeaconSchedule stays
  | setKeeper =>
    refine wp_check fun _ => ?_
    exact wp_setKeeper stays
  | setBackupKeeper =>
    refine wp_check fun _ => ?_
    exact wp_setBackupKeeper stays (order.path (path.trans stays.path)).ext
  | shared call =>
    refine wp_check fun _ => ?_
    exact wp_run_locked stays call entered

/-- Whatever is called back while the contract is locked takes quiet steps. -/
theorem yields_exec (depth : Nat) :
    Yields (roundRules accepts) context.toContext start env (exec context depth) := by
  intro base path entered
  refine ⟨?_, fun _ _ _ fault _ harmless => harmless,
    fun _ _ _ _ kept spent => ⟨kept.1, kept.2.spends spent⟩⟩
  rintro message account gas logs ⟨stays, lenient⟩
  cases depth with
  | zero => exact wp_fail harmless_callDepth
  | succ =>
    refine wp_bind (Tx.wp_receive ?_)
    have locked := stays.undisturbed.entered.trans entered
    refine wp_mono (wp_dispatch_locked order message.call path
      (stays.gift message.msg.value) lenient locked) ?_
    intro _ account' gas' logs' spent stays'
    exact ⟨stays', lenient.spends spent⟩

end

variable (context) in
/-- A transaction of the round coordinator takes steps of the abstract machine, whatever the
outside world answers and however deep its calls nest. -/
theorem wp_exec (depth : Nat) (message : RoundMessage)
    (order : InOrder (roundRules accepts) start.store) (hears : Hears accepts env)
    (reached : Reached (roundRules accepts) context.toContext start account logs 0)
    (metered : ∃ amount, gas = some amount) :
    RunsReached (roundRules accepts) context.toContext start env (exec context depth message)
      account gas logs := by
  cases depth with
  | zero => exact wp_fail harmless_callDepth
  | succ depth =>
    refine wp_bind (Tx.wp_receive ?_)
    have received := reached.receive message.msg.value
    rw [Int.zero_add] at received
    exact wp_dispatch (yields_exec order depth) order hears message.call received metered

end RoundCoordinator

end D20
