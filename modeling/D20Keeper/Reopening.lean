/-
This file is about a nonce that the recovery takes back. Once its attempts are in the lane again
the keeper may have to replace or to cancel them, and the journal accepts what it signs for that
unless an operator's sweep is on record: claiming the lane refuses every attempt beside a sweep,
while reopening a nonce parks the other attempts and leaves the sweep where it is. What the journal
asks of the work behind an attempt is an invariant of its runs, and reopening restores the rest.
-/

import D20Keeper.JournalRun

namespace D20.Journal

/-! ### The work behind an attempt -/

/-- The work of an attempt is on record: its epoch, the members of its batch, or its request. -/
structure Works (journal : Journal) (attempt : Attempt) : Prop where
  fulfill : attempt.kind = .fulfill → isBatchJob attempt.job = false
  fulfillBatch : attempt.kind = .fulfillBatch → isBatchJob attempt.job = true
  epoch : attempt.kind.isEpoch = true → attempt.job ∈ journal.epochWork.rows.map EpochWork.key
  batch : attempt.kind.isEpoch = false → isBatchJob attempt.job = true →
    journal.membersIn attempt.job ≠ []
  single : attempt.kind.isEpoch = false → isBatchJob attempt.job = false →
    attempt.job ∈ journal.jobs.rows.map Job.id

/-- The work of every attempt is on record, and a member list stands under its own key and names
requests of the journal. -/
structure Backed (digest : String → String) (journal : Journal) : Prop where
  attempts : ∀ attempt ∈ journal.txs.rows, Works journal attempt
  lists : ∀ job, journal.membersIn job ≠ [] →
    batchKey digest (journal.membersIn job) = .ok job ∧
      ∀ id ∈ journal.membersIn job, id ∈ journal.jobs.rows.map Job.id

variable {journal after : Journal} {old attempt : Attempt} {digest : String → String} {call : Call}
  {mark : Mark}

/-- Work that is on record stays on record while nothing is removed. -/
theorem Works.mono (works : Works journal old) (kind : attempt.kind = old.kind)
    (job : attempt.job = old.job)
    (members : journal.membersIn old.job ≠ [] → after.membersIn old.job ≠ [])
    (jobIds : ∀ id ∈ journal.jobs.rows.map Job.id, id ∈ after.jobs.rows.map Job.id)
    (workKeys : ∀ key ∈ journal.epochWork.rows.map EpochWork.key,
      key ∈ after.epochWork.rows.map EpochWork.key) : Works after attempt where
  fulfill := by
    rw [kind, job]
    exact works.fulfill
  fulfillBatch := by
    rw [kind, job]
    exact works.fulfillBatch
  epoch := by
    rw [kind, job]
    exact fun isEpoch => workKeys _ (works.epoch isEpoch)
  batch := by
    rw [kind, job]
    exact fun game isBatch => members (works.batch game isBatch)
  single := by
    rw [kind, job]
    exact fun game isSingle => jobIds _ (works.single game isSingle)

/-- An attempt that is signed for work it serves has its work on record. -/
theorem Serves.works (serves : Serves journal attempt)
    (members : after.batchMembers = journal.batchMembers)
    (jobIds : after.jobs.rows.map Job.id = journal.jobs.rows.map Job.id)
    (workKeys : after.epochWork.rows.map EpochWork.key =
      journal.epochWork.rows.map EpochWork.key) : Works after attempt where
  fulfill := by
    intro kind
    by_contra isBatch
    have cancel := (serves.batch (by rw [kind]; rfl) (Bool.not_eq_false _ ▸ isBatch)).1
    rw [kind] at cancel
    exact nomatch cancel
  fulfillBatch := fun kind => absurd kind serves.notBatch
  epoch := fun isEpoch => workKeys ▸ serves.epoch isEpoch
  batch := by
    rw [membersIn_congr members]
    exact fun game isBatch => (serves.batch game isBatch).2
  single := fun game isSingle => jobIds ▸ serves.single game isSingle

theorem ServesBatch.works {members : List String}
    (serves : ServesBatch digest journal after attempt members) : Works after attempt := by
  obtain ⟨large, -, isBatch⟩ := batchKey_ok serves.key
  have listed : after.membersIn attempt.job ≠ [] := by
    rw [serves.listed]
    rintro rfl
    exact absurd large (by decide)
  exact
    { fulfill := fun kind => by rw [serves.kind] at kind; exact nomatch kind
      fulfillBatch := fun _ => isBatch
      epoch := fun isEpoch => by rw [serves.kind] at isEpoch; exact nomatch isEpoch
      batch := fun _ _ => listed
      single := fun _ isSingle => by rw [isBatch] at isSingle; exact nomatch isSingle }

theorem Backed.of_lists (backed : Backed digest journal) (does : call.Does journal after)
    {job : String} (other : call.lists ≠ some job) (listed : after.membersIn job ≠ []) :
    batchKey digest (after.membersIn job) = .ok job ∧
      ∀ id ∈ after.membersIn job, id ∈ after.jobs.rows.map Job.id := by
  rw [does.members job other] at listed ⊢
  obtain ⟨key, known⟩ := backed.lists job listed
  exact ⟨key, fun id member => does.jobIds id (known id member)⟩

theorem Backed.of_change (backed : Backed digest journal) (does : call.Does journal after)
    (listed : ∀ job, call.lists = some job → after.membersIn job ≠ [])
    (member : attempt ∈ journal.txs.rows.map (call.change journal)) : Works after attempt := by
  obtain ⟨old, oldMem, rfl⟩ := List.mem_map.mp member
  have same := call.change_same journal old
  refine (backed.attempts old oldMem).mono same.kind same.job (fun present => ?_) does.jobIds
    does.workKeys
  by_cases inserts : call.lists = some old.job
  · exact listed old.job inserts
  · rwa [does.members old.job inserts]

/-- A call that commits keeps the work of every attempt on record. -/
theorem Backed.step (backed : Backed digest journal)
    (committed : call.apply digest journal = .ok after) : Backed digest after := by
  have does := Call.does committed
  have plain : call.lists = none → (∀ attempt ∈ call.inserted journal, Works after attempt) →
      Backed digest after := by
    intro unlisted inserted
    have other : ∀ job, call.lists ≠ some job := by
      intro job
      rw [unlisted]
      exact nofun
    refine ⟨fun attempt member => ?_, fun job => backed.of_lists does (other job)⟩
    rw [does.rows, List.mem_append] at member
    rcases member with old | new
    · exact backed.of_change does (fun job lists => absurd lists (other job)) old
    · exact inserted attempt new
  cases call with
  | signed =>
    obtain ⟨signs, serves, members⟩ := signedMarked_ok committed
    refine plain rfl fun added member => ?_
    rw [List.mem_singleton.mp member]
    exact (serves.works members signs.jobIds signs.workKeys).mono rfl rfl id (fun _ => id)
      fun _ => id
  | signedBatch attempt =>
    obtain ⟨signs, serves⟩ := signedBatchMarked_ok committed
    have works := serves.works
    have listed : after.membersIn attempt.job ≠ [] :=
      works.batch (by rw [serves.kind]; rfl) (works.fulfillBatch serves.kind)
    refine ⟨fun added member => ?_, fun job present => ?_⟩
    · rw [does.rows, List.mem_append] at member
      rcases member with old | new
      · refine backed.of_change does (fun job lists => ?_) old
        cases lists
        exact listed
      · rw [List.mem_singleton.mp new]
        exact works.mono rfl rfl id (fun _ => id) fun _ => id
    · by_cases same : job = attempt.job
      · rw [same, serves.listed]
        exact ⟨serves.key, fun id member => signs.jobIds ▸ serves.known id member⟩
      · exact backed.of_lists does (fun lists => same (Option.some.inj lists).symm) present
  | _ => exact plain rfl fun _ member => nomatch member

/-- The work of every attempt is on record in every state of every run. -/
theorem Runs.backed {calls : List Call} {history : History} (run : Runs digest calls history) :
    Backed digest history.journal := by
  induction run with
  | start => exact ⟨fun _ member => (nomatch member), fun _ listed => absurd rfl listed⟩
  | call run call allowed inductionHypothesis =>
    unfold History.after
    split
    · exact inductionHypothesis
    · rename_i after committed
      exact inductionHypothesis.step committed

/-! ### What the journal accepts -/

/-- The journal's part of signing: a batch is signed with the members it has on record. -/
def signAndJournal (digest : String → String) (journal : Journal) (attempt : Attempt)
    (mark : Option Mark) : Except String Journal :=
  if attempt.kind = .fulfillBatch then
    signedBatchMarked digest journal attempt (journal.membersIn attempt.job) mark
  else journal.signedMarked attempt mark

/-- The kind of the transaction that cancels the nonce of another. -/
def TxKind.cancelling : TxKind → TxKind
  | .epoch | .epochCancel => .epochCancel
  | .fulfill | .cancel | .fulfillBatch => .cancel

theorem TxKind.cancelling_isEpoch (kind : TxKind) : kind.cancelling.isEpoch = kind.isEpoch := by
  cases kind <;> rfl

/-- A transaction that replaces an attempt, with its payload, or cancels it. -/
structure Replaces (old attempt : Attempt) : Prop where
  nonce : attempt.nonce = old.nonce
  job : attempt.job = old.job
  payload : (attempt.kind = old.kind ∧ attempt.payload = old.payload) ∨
    (attempt.kind = old.kind.cancelling ∧ attempt.payload = "0x")

/-- A replacement or a cancellation is for the work of what it replaces. -/
theorem Replaces.works (replaces : Replaces old attempt) (works : Works journal old) :
    Works journal attempt := by
  rcases replaces.payload with ⟨kind, -⟩ | ⟨kind, -⟩
  · exact works.mono kind replaces.job id (fun _ => id) fun _ => id
  · have isEpoch : attempt.kind.isEpoch = old.kind.isEpoch := by
      rw [kind, TxKind.cancelling_isEpoch]
    refine ⟨fun fulfill => ?_, fun batch => ?_, ?_, ?_, ?_⟩
    · rw [kind] at fulfill
      cases oldKind : old.kind <;> rw [oldKind] at fulfill <;> exact nomatch fulfill
    · rw [kind] at batch
      cases oldKind : old.kind <;> rw [oldKind] at batch <;> exact nomatch batch
    · rw [isEpoch, replaces.job]
      exact works.epoch
    · rw [isEpoch, replaces.job]
      exact works.batch
    · rw [isEpoch, replaces.job]
      exact works.single

/-- A journal in which an attempt can be signed: the lane is its own, the transaction and its mark
are new, its work is on record, and the members of its batch can be marked signed. -/
structure Signable (digest : String → String) (journal : Journal) (attempt : Attempt)
    (mark : Mark) : Prop where
  free : journal.LaneFree attempt
  sweepless : journal.sweepAttempt = none
  new : attempt.hash ∉ journal.txs.rows.map Attempt.hash
  fits : mark.Fits
  unmarked : mark.key ∉ journal.softMarks.rows.map Mark.key
  works : Works journal attempt
  keyed : isBatchJob attempt.job = true → attempt.kind.isEpoch = false →
    batchKey digest (journal.membersIn attempt.job) = .ok attempt.job
  ready : isBatchJob attempt.job = true → attempt.kind.isEpoch = false →
    ∀ id ∈ journal.membersIn attempt.job,
      ∃ job ∈ journal.jobs.rows, job.id = id ∧ job.canSign = true

/-- The lane is claimed and the mark is written, and the work is not yet touched. -/
theorem Signable.claim (signable : Signable digest journal attempt mark) :
    ∃ claimed marked, journal.claimLane attempt = .ok claimed ∧
      claimed.writeMarks (some mark) = .ok marked ∧ marked.jobs = journal.jobs ∧
      marked.epochWork = journal.epochWork ∧ marked.batchMembers = journal.batchMembers := by
  have new : (attempt.inserted (nextId journal.txs.rows)).hash ∉
      journal.txs.rows.map Attempt.hash := signable.new
  obtain ⟨txs, inserted⟩ : ∃ txs, journal.txs.insert _ = some txs := ⟨_, dif_neg new⟩
  have rows := (journal.txs.insert_eq_some.mp inserted).2
  have claimed := claimLane_ok.mpr
    ⟨signable.free, signable.sweepless, signable.new, txs, rows, rfl⟩
  exact ⟨_, _, claimed, writeMark_of_fresh signable.fits signable.unmarked, rfl, rfl, rfl⟩

/-- A transaction that is not a batch can be signed where it is signable. -/
theorem Signable.signedMarked (signable : Signable digest journal attempt mark)
    (notBatch : attempt.kind ≠ .fulfillBatch) :
    ∃ after, journal.signedMarked attempt (some mark) = .ok after := by
  obtain ⟨claimed, marked, claim, write, jobs, work, members⟩ := signable.claim
  have notSingle : ¬(attempt.kind = .fulfill ∧ isBatchJob attempt.job = true) := by
    rintro ⟨kind, isBatch⟩
    rw [signable.works.fulfill kind] at isBatch
    exact nomatch isBatch
  unfold Journal.signedMarked
  rw [ensure_of notBatch, ensure_of notSingle, claim]
  simp only [Bind.bind, Except.bind]
  rw [write]
  dsimp only
  cases epoch : attempt.kind.isEpoch with
  | true =>
    obtain ⟨row, rowMem, same⟩ := List.mem_map.mp (signable.works.epoch epoch)
    have counted := journal.epochWork.count_key rowMem
    rw [same, ← work] at counted
    rw [if_pos rfl, ensure_of counted]
    exact ⟨_, rfl⟩
  | false =>
    rw [if_neg Bool.false_ne_true]
    cases isBatch : isBatchJob attempt.job with
    | true =>
      have listed := signable.works.batch epoch isBatch
      have ready := signable.ready isBatch epoch
      rw [← jobs] at ready
      rw [if_pos rfl, membersIn_congr members, ensure_of listed]
      exact markMembersSigned_of_canSign ready
    | false =>
      obtain ⟨job, jobMem, same⟩ := List.mem_map.mp (signable.works.single epoch isBatch)
      have counted := journal.jobs.count_key jobMem
      rw [same, ← jobs] at counted
      rw [if_neg Bool.false_ne_true, ensure_of counted]
      exact ⟨_, rfl⟩

theorem checkMembers_of_free (free : journal.LaneFree attempt) (members : List String) :
    journal.checkMembers attempt.job members = .ok () := by
  have clear : ∀ id, journal.memberLaneConflicts attempt.job id = 0 := by
    intro id
    unfold memberLaneConflicts
    rw [Table.count_eq_zero]
    intro live member
    cases active : live.state.active with
    | false => rfl
    | true =>
      have same := (free live member active).2
      rw [same, bne_self_eq_false]
      rfl
  induction members with
  | nil => rfl
  | cons id rest inductionHypothesis =>
    rw [checkMembers, ensure_of (clear id)]
    exact inductionHypothesis

theorem membersIn_nodup (journal : Journal) (job : String) : (journal.membersIn job).Nodup := by
  unfold membersIn
  refine List.Nodup.map_on ?_ (journal.batchMembers.unique.of_map _ |>.filter _)
  intro first firstMem second secondMem same
  obtain ⟨-, firstJob⟩ := List.mem_filter.mp firstMem
  obtain ⟨-, secondJob⟩ := List.mem_filter.mp secondMem
  rw [beq_iff_eq] at firstJob secondJob
  obtain ⟨_, _⟩ := first
  obtain ⟨_, _⟩ := second
  cases same
  cases firstJob
  cases secondJob
  rfl

/-- A batch can be signed again with the members on record where it is signable. -/
theorem Signable.signedBatchMarked (signable : Signable digest journal attempt mark)
    (kind : attempt.kind = .fulfillBatch) :
    ∃ after, signedBatchMarked digest journal attempt (journal.membersIn attempt.job)
      (some mark) = .ok after := by
  obtain ⟨claimed, marked, claim, write, jobs, -, members⟩ := signable.claim
  have isBatch := signable.works.fulfillBatch kind
  have game : attempt.kind.isEpoch = false := by rw [kind]; rfl
  have listed := signable.works.batch game isBatch
  have ready := signable.ready isBatch game
  rw [← jobs] at ready
  have same := membersIn_congr members attempt.job
  unfold Journal.signedBatchMarked
  rw [ensure_of kind, signable.keyed isBatch game, ensure_of (membersIn_nodup _ _),
    checkMembers_of_free signable.free, claim]
  simp only [Bind.bind, Except.bind]
  rw [ensure_of trivial, write]
  dsimp only
  rw [same, if_neg listed, ensure_of rfl]
  exact markMembersSigned_of_canSign ready

theorem Signable.accepted (signable : Signable digest journal attempt mark) :
    ∃ after, signAndJournal digest journal attempt (some mark) = .ok after := by
  unfold signAndJournal
  split
  case isTrue kind => exact signable.signedBatchMarked kind
  case isFalse notBatch => exact signable.signedMarked notBatch

theorem sweepless_of_accepted {mark : Option Mark}
    (accepted : signAndJournal digest journal attempt mark = .ok after) :
    journal.sweepAttempt = none := by
  unfold signAndJournal at accepted
  split at accepted
  · exact (signedBatchMarked_ok accepted).1.sweepless
  · exact (signedMarked_ok accepted).1.sweepless

/-! ### A reopened nonce -/

/-- The attempts of a nonce that was reopened are those of before. -/
theorem Reopens.mem_attemptsOf {nonce now : ℕ} (reopens : Reopens journal after nonce now)
    (member : attempt ∈ after.attemptsOf nonce) :
    ∃ old ∈ journal.txs.rows, old.nonce = nonce ∧ attempt.kind = old.kind ∧
      attempt.job = old.job := by
  obtain ⟨rowMem, same⟩ := List.mem_filter.mp member
  rw [reopens.rows] at rowMem
  obtain ⟨old, oldMem, rfl⟩ := List.mem_map.mp rowMem
  have nonces : (reopenedRow nonce now old).nonce = old.nonce := by
    unfold reopenedRow
    split <;> rfl
  have kinds : (reopenedRow nonce now old).kind = old.kind := by
    unfold reopenedRow
    split <;> rfl
  have jobs : (reopenedRow nonce now old).job = old.job := by
    unfold reopenedRow
    split <;> rfl
  rw [beq_iff_eq, nonces] at same
  exact ⟨old, oldMem, same, kinds, jobs⟩

/-- The lane of a reopened nonce is its own. -/
theorem Reopens.free {history : History} {nonce now : ℕ}
    (reopens : Reopens history.journal after nonce now) (sound : NonceLane.Sound history.lane)
    (oldMem : old ∈ history.journal.txs.rows) (oldNonce : old.nonce = nonce)
    (sameNonce : attempt.nonce = nonce) (sameJob : attempt.job = old.job) :
    after.LaneFree attempt := by
  intro live liveMem active
  rw [reopens.rows] at liveMem
  obtain ⟨row, rowMem, rfl⟩ := List.mem_map.mp liveMem
  by_cases same : row.nonce = nonce
  · have owner := sound.owned row.slot (History.mem_slots.mpr ⟨row, rowMem, rfl⟩) old.slot
      (History.mem_slots.mpr ⟨old, oldMem, rfl⟩) (same.trans oldNonce.symm)
    unfold reopenedRow
    rw [if_pos same]
    exact ⟨same.trans sameNonce.symm, Eq.trans owner sameJob.symm⟩
  · unfold reopenedRow at active
    rw [if_neg same] at active
    have parked : row.state.park.active = false := by cases row.state <;> rfl
    rw [parked] at active
    exact nomatch active

/-- In every state of every run, once reopening a nonce has taken its attempts back into the lane,
a new transaction that replaces one of them with its payload, or cancels it, is accepted with a
sign mark that is new exactly when no operator's sweep was on record. -/
theorem reopened_replaceable_iff (digest : String → String) (calls : List Call)
    (history : History) (run : Runs digest calls history) (nonce chainTime wallTime : ℕ)
    (after : Journal)
    (reopened : history.journal.reopenNonce nonce chainTime wallTime = .ok (.lane, after))
    (old : Attempt) (inLane : old ∈ after.attemptsOf nonce) (attempt : Attempt)
    (replaces : Replaces old attempt) (newHash : attempt.hash ∉ after.txs.rows.map Attempt.hash)
    (mark : Mark) (fits : mark.Fits) (newMark : mark.key ∉ after.softMarks.rows.map Mark.key) :
    (∃ signed, signAndJournal digest after attempt (some mark) = .ok signed) ↔
      history.journal.sweepAttempt = none := by
  rcases reopenNonce_ok reopened with ⟨lane, -⟩ | ⟨-, reopens⟩
  · exact nomatch lane
  have backed := run.backed
  obtain ⟨original, originalMem, originalNonce, kind, job⟩ := reopens.mem_attemptsOf inLane
  have sameMembers := membersIn_congr reopens.members
  have works : Works after attempt := by
    refine replaces.works ((backed.attempts original originalMem).mono kind job ?_ ?_ ?_)
    · rw [sameMembers]
      exact id
    · exact fun _ member => reopens.jobIds ▸ member
    · exact fun _ member => reopens.workKeys ▸ member
  have sameJob : attempt.job = original.job := replaces.job.trans job
  have game : attempt.kind.isEpoch = false → original.kind.isEpoch = false := by
    intro notEpoch
    rcases replaces.payload with ⟨same, -⟩ | ⟨same, -⟩
    · rw [← kind, ← same, notEpoch]
    · rw [same, TxKind.cancelling_isEpoch, kind] at notEpoch
      exact notEpoch
  have nonceEq : attempt.nonce = nonce := by
    rw [replaces.nonce]
    exact beq_iff_eq.mp (List.mem_filter.mp inLane).2
  refine ⟨fun ⟨_, accepted⟩ => reopens.sweep ▸ sweepless_of_accepted accepted, fun absent => ?_⟩
  refine Signable.accepted
    { free := reopens.free run.sound.1 originalMem originalNonce nonceEq sameJob
      sweepless := reopens.sweep.trans absent
      new := newHash
      fits := fits
      unmarked := newMark
      works := works
      keyed := fun isBatch notEpoch => ?_
      ready := fun isBatch notEpoch id member => ?_ }
  · have listed := works.batch notEpoch isBatch
    rw [sameMembers] at listed ⊢
    exact (backed.lists attempt.job listed).1
  · have listed := works.batch notEpoch isBatch
    rw [sameMembers] at listed member
    have known := (backed.lists attempt.job listed).2 id member
    rw [← reopens.jobIds] at known
    obtain ⟨row, rowMem, same⟩ := List.mem_map.mp known
    have submitted := reopens.submitted original originalMem originalNonce (game notEpoch)
      (sameJob ▸ isBatch) row rowMem (by rw [same, ← sameJob]; exact member)
    refine ⟨row, rowMem, same, ?_⟩
    unfold Job.canSign
    rw [submitted]
    rfl

/-- The transaction that cancels a nonce of a request. -/
def cancellation (job hash : String) (nonce : ℕ) : Attempt :=
  { fulfillment job hash nonce with kind := .cancel }

/-- The sign mark of a transaction at the first block. -/
def markSigned (hash : String) : Mark where
  kind := .sign
  number := 1
  hash := "b1"
  reference := hash
  created := 1

theorem markSigned_fits : (markSigned "c").Fits := by
  refine ⟨?_, ?_, ?_, ?_⟩ <;> decide

theorem reopened_replaceable_iff_parked :
    ∃ after, (reopenedLane.foldl (History.after id) History.start).journal.reopenNonce 1 6 6 =
        .ok (.lane, after) ∧
      ∃ signed, signAndJournal id after (cancellation "2" "c" 1) (some (markSigned "c")) =
        .ok signed := by
  refine ⟨_, rfl, ?_⟩
  refine (reopened_replaceable_iff id reopenedLane _ runs_reopenedLane 1 6 6 _ rfl
    { fulfillment "2" "b" 1 with id := 2, state := .submitted, created := 6 } ?_
    (cancellation "2" "c" 1) ⟨rfl, rfl, .inr ⟨rfl, rfl⟩⟩ ?_ (markSigned "c")
    markSigned_fits ?_).mpr rfl
  all_goals decide

/-- The receipt mark of a transaction in the second block. -/
def markReceipt (hash : String) : Mark where
  kind := .receipt
  number := 2
  hash := "b2"
  reference := hash
  created := 2
  status := some 1

/-- A sweep with its signed transfer. -/
def signedSweep (nonce : ℕ) : SweepAttempt where
  request := smallSweep
  nonce := nonce
  recipient := ""
  value := "1"
  txs := [{ kind := .sweep, hash := "s", raw := "0x02", gas := 1, fee := "1", priority := "1",
            created := 3 }]

/-- A request is served and resolved, and a sweep is signed at the next nonce. -/
def sweptLane : List Call :=
  [.discovered "1" 9 "2", .signed (fulfillment "1" "a" 0) (some (markSigned "a")),
    .resolveNonceJob 0 "1" (.state .served) (some (markReceipt "a")), .sweepSubmit smallSweep,
    .sweepStart (signedSweep 1) (some (markSigned "s"))]

theorem runs_sweptLane :
    Runs id sweptLane (sweptLane.foldl (History.after id) History.start) := by
  have first : Runs id [.discovered "1" 9 "2"]
      (History.start.after id (.discovered "1" 9 "2")) := Runs.start.call _ trivial
  have second := first.call (.signed (fulfillment "1" "a" 0) (some (markSigned "a")))
    (.inr ⟨by decide, by decide, rfl⟩)
  have third := second.call
    (.resolveNonceJob 0 "1" (.state .served) (some (markReceipt "a"))) trivial
  have fourth := third.call (.sweepSubmit smallSweep) trivial
  exact fourth.call (.sweepStart (signedSweep 1) (some (markSigned "s"))) trivial

/-- The nonce of the served request is taken back while the sweep is on record, and its
cancellation is refused. -/
theorem sweep_blocks_reopened_nonce :
    Runs id sweptLane (sweptLane.foldl (History.after id) History.start) ∧
    ∃ after, (sweptLane.foldl (History.after id) History.start).journal.reopenNonce 0 6 6 =
        .ok (.lane, after) ∧
      Replaces { fulfillment "1" "a" 0 with id := 1, state := .submitted, created := 6 }
        (cancellation "1" "c" 0) ∧
      { fulfillment "1" "a" 0 with id := 1, state := .submitted, created := 6 } ∈
        after.attemptsOf 0 ∧
      (cancellation "1" "c" 0).hash ∉ after.txs.rows.map Attempt.hash ∧
      (markSigned "c").Fits ∧ (markSigned "c").key ∉ after.softMarks.rows.map Mark.key ∧
      signAndJournal id after (cancellation "1" "c" 0) (some (markSigned "c")) =
        .error "An operator sweep owns the nonce lane" := by
  refine ⟨runs_sweptLane, _, rfl, ⟨rfl, rfl, .inr ⟨rfl, rfl⟩⟩, ?_, ?_, markSigned_fits, ?_, rfl⟩
  all_goals decide

end D20.Journal
