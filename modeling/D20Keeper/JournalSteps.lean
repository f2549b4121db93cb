/-
This file says once what each transaction of the journal does when it commits: the checks that
passed, and the journal it leaves as an update of the one before. Every result about runs of the
keeper reads the transactions through these lemmas.
-/

import D20Keeper.Journal

namespace D20.Journal

/-! ### Marks -/

/-- A mark is on record: a row of its key has its hash and its status. -/
def Records (journal : Journal) (mark : Mark) : Prop :=
  ∃ stored ∈ journal.softMarks.rows,
    stored.key = mark.key ∧ stored.hash = mark.hash ∧ stored.status = mark.status

variable {journal after : Journal} {mark : Option Mark} {attempt : Attempt} {members : List String}
  {job key : String} {nonce : ℕ}

/-- A mark that is written is on record, and no other mark changes. -/
theorem writeMark_ok {mark : Mark} (written : journal.writeMark mark = .ok after) :
    after = { journal with softMarks := journal.softMarks.insertOrIgnore mark } ∧
      after.Records mark := by
  unfold writeMark at written
  obtain ⟨_, _, written⟩ := bind_eq_ok.mp written
  obtain ⟨_, _, written⟩ := bind_eq_ok.mp written
  obtain ⟨_, _, written⟩ := bind_eq_ok.mp written
  obtain ⟨_, _, written⟩ := bind_eq_ok.mp written
  obtain ⟨_, found, written⟩ := bind_eq_ok.mp written
  cases written
  refine ⟨rfl, ?_⟩
  rw [ensure_eq_ok, List.any_eq_true] at found
  obtain ⟨stored, member, same⟩ := found
  simp only [Bool.and_eq_true, beq_iff_eq] at same
  exact ⟨stored, member, same.1.1, same.1.2, same.2⟩

/-- The bounds of a mark's columns. -/
structure Mark.Fits (mark : Mark) : Prop where
  kind : mark.kind ≠ .head
  number : mark.number ≤ maxI64
  status : mark.status.getD 0 ≤ maxI64
  created : mark.created ≤ maxI64

/-- A mark of a new key is accepted. -/
theorem writeMark_of_fresh {mark : Mark} (fits : mark.Fits)
    (new : mark.key ∉ journal.softMarks.rows.map Mark.key) :
    journal.writeMark mark =
      .ok { journal with softMarks := journal.softMarks.insertOrIgnore mark } := by
  have inserted : (journal.softMarks.insertOrIgnore mark).rows =
      journal.softMarks.rows ++ [mark] := by
    rcases journal.softMarks.insertOrIgnore_rows mark with ⟨known, -⟩ | ⟨-, rows⟩
    · exact absurd known new
    · exact rows
  have found : (journal.softMarks.insertOrIgnore mark).rows.any (fun stored =>
      stored.key == mark.key && stored.hash == mark.hash && stored.status == mark.status) := by
    rw [inserted, List.any_append]
    simp only [List.any_cons, beq_self_eq_true, Bool.and_self, List.any_nil, Bool.or_false,
      Bool.or_true]
  unfold writeMark
  rw [ensure_of fits.kind, tryI64_eq_ok.mpr ⟨fits.number, rfl⟩,
    tryI64_eq_ok.mpr ⟨fits.status, rfl⟩, tryI64_eq_ok.mpr ⟨fits.created, rfl⟩]
  simp only [Bind.bind, Except.bind]
  rw [ensure_of found]
  rfl

/-- Writing the mark of a transaction, if it has one, changes the marks alone, keeps those that
were there and leaves it on record. -/
theorem writeMarks_ok (written : journal.writeMarks mark = .ok after) :
    ∃ marks, after = { journal with softMarks := marks } ∧
      (∀ old ∈ journal.softMarks.rows, old ∈ marks.rows) ∧
      ∀ present, mark = some present → after.Records present := by
  cases mark with
  | none =>
    cases written
    exact ⟨_, rfl, fun _ member => member, nofun⟩
  | some =>
    obtain ⟨same, recorded⟩ := writeMark_ok written
    subst same
    refine ⟨_, rfl, fun old member => journal.softMarks.mem_insertOrIgnore member, ?_⟩
    rintro _ ⟨⟩
    exact recorded

/-! ### Signing -/

/-- The lane is free for an attempt: every live attempt has its nonce and its job. -/
def LaneFree (journal : Journal) (attempt : Attempt) : Prop :=
  ∀ live ∈ journal.txs.rows, live.state.active = true →
    live.nonce = attempt.nonce ∧ live.job = attempt.job

theorem count_conflicts :
    journal.txs.count (fun live => live.state.active &&
      (live.nonce != attempt.nonce || live.job != attempt.job)) = 0 ↔
      journal.LaneFree attempt := by
  rw [Table.count_eq_zero]
  refine forall₂_congr fun live _ => ?_
  cases active : live.state.active <;>
    simp only [Bool.false_and, Bool.true_and, Bool.or_eq_false_iff, bne_eq_false_iff_eq,
      Bool.false_eq_true, IsEmpty.forall_iff, forall_const]

/-- The lane is claimed exactly when it is free, no sweep is on record and the transaction is
new; the attempt then stands behind the others. -/
theorem claimLane_ok :
    journal.claimLane attempt = .ok after ↔
      journal.LaneFree attempt ∧ journal.sweepAttempt = none ∧
        attempt.hash ∉ journal.txs.rows.map Attempt.hash ∧
        ∃ txs, txs.rows = journal.txs.rows ++ [attempt.inserted (nextId journal.txs.rows)] ∧
          after = { journal with txs := txs } := by
  unfold claimLane
  rw [bind_eq_ok]
  simp only [ensure_eq_ok, count_conflicts, exists_and_left, exists_const]
  refine and_congr_right fun _ => ?_
  rw [bind_eq_ok]
  simp only [ensure_eq_ok, exists_and_left, exists_const]
  refine and_congr_right fun _ => ?_
  cases inserted : journal.txs.insert (attempt.inserted (nextId journal.txs.rows)) with
  | none =>
    simp only [reduceCtorEq, false_iff, not_and, not_exists]
    intro new txs rows
    have accepted : journal.txs.insert (attempt.inserted (nextId journal.txs.rows)) = some txs :=
      journal.txs.insert_eq_some.mpr ⟨new, rows⟩
    rw [inserted] at accepted
    cases accepted
  | some txs =>
    obtain ⟨new, rows⟩ := journal.txs.insert_eq_some.mp inserted
    simp only [Except.ok.injEq]
    refine ⟨fun same => ⟨new, txs, rows, same.symm⟩, ?_⟩
    rintro ⟨-, others, same, result⟩
    rw [result, Table.ext (same.trans rows.symm)]

theorem markMembersSigned_ok (marked : journal.markMembersSigned members = .ok after) :
    ∃ jobs, after = { journal with jobs := jobs } ∧
      jobs.rows.map Job.id = journal.jobs.rows.map Job.id := by
  induction members generalizing journal with
  | nil =>
    cases marked
    exact ⟨_, rfl, rfl⟩
  | cons id rest inductionHypothesis =>
    obtain ⟨_, _, marked⟩ := bind_eq_ok.mp marked
    obtain ⟨jobs, result, ids⟩ := inductionHypothesis marked
    exact ⟨jobs, result, ids.trans updateJobs_ids⟩

/-- Members that are prepared or live can be marked signed. -/
theorem markMembersSigned_of_canSign
    (ready : ∀ id ∈ members, ∃ job ∈ journal.jobs.rows, job.id = id ∧ job.canSign = true) :
    ∃ after, journal.markMembersSigned members = .ok after := by
  induction members generalizing journal with
  | nil => exact ⟨journal, rfl⟩
  | cons id rest inductionHypothesis =>
    obtain ⟨job, member, same, can⟩ := ready id List.mem_cons_self
    have counted : journal.jobs.count (fun row => row.id == id && row.canSign) = 1 := by
      have one := journal.jobs.count_key member
      rw [← one]
      refine List.countP_congr fun row rowMem => ?_
      simp only [Bool.and_eq_true, beq_iff_eq]
      constructor
      · exact fun both => both.1.trans same.symm
      · intro ids
        have equal := journal.jobs.eq_of_key_eq rowMem member ids
        exact ⟨ids.trans same, equal ▸ can⟩
    have later : ∀ other ∈ rest, ∃ row ∈ (journal.updateJobs
        (fun row => row.id == id && row.canSign) (fun row => { row with state := .signed })
        fun _ => rfl).jobs.rows, row.id = other ∧ row.canSign = true := by
      intro other otherMem
      obtain ⟨row, rowMem, rowId, rowCan⟩ := ready other (List.mem_cons_of_mem _ otherMem)
      refine ⟨_, mem_updateJobs.mpr ⟨row, rowMem, rfl⟩, ?_, ?_⟩
      · split
        · exact rowId
        · exact rowId
      · split
        · rfl
        · exact rowCan
    obtain ⟨after, marked⟩ := inductionHypothesis later
    refine ⟨after, ?_⟩
    rw [markMembersSigned, ensure_of counted]
    exact marked

/-- Inserting members touches the member lists alone, and appends the list. -/
theorem insertMembers_ok (inserted : journal.insertMembers job members = .ok after) :
    ∃ listed, after = { journal with batchMembers := listed } ∧
      listed.rows = journal.batchMembers.rows ++
        members.map fun id => { job := job, requestId := id } := by
  induction members generalizing journal with
  | nil =>
    cases inserted
    exact ⟨_, rfl, (List.append_nil _).symm⟩
  | cons id rest inductionHypothesis =>
    rw [insertMembers] at inserted
    split at inserted
    · exact nomatch inserted
    · rename_i listed found
      obtain ⟨-, rows⟩ := journal.batchMembers.insert_eq_some.mp found
      obtain ⟨final, result, finalRows⟩ := inductionHypothesis inserted
      refine ⟨final, result, finalRows.trans ?_⟩
      rw [rows, List.append_assoc, List.singleton_append, List.map_cons]

/-- What a transaction that journals a signed attempt does: the lane was free and without a
sweep, the attempt stands behind the others, its mark is on record, and besides it touches the
states of the work and the member lists alone. -/
structure Signs (journal after : Journal) (attempt : Attempt) (mark : Option Mark) : Prop where
  free : journal.LaneFree attempt
  sweepless : journal.sweepAttempt = none
  new : attempt.hash ∉ journal.txs.rows.map Attempt.hash
  rows : after.txs.rows = journal.txs.rows ++ [attempt.inserted (nextId journal.txs.rows)]
  marked : ∀ present, mark = some present → after.Records present
  marksKept : ∀ old ∈ journal.softMarks.rows, old ∈ after.softMarks.rows
  floor : after.nonceFloor = journal.nonceFloor
  sweep : after.sweepAttempt = journal.sweepAttempt
  fill : after.fill = journal.fill
  receipts : after.finalizedReceipts = journal.finalizedReceipts
  jobIds : after.jobs.rows.map Job.id = journal.jobs.rows.map Job.id
  workKeys : after.epochWork.rows.map EpochWork.key = journal.epochWork.rows.map EpochWork.key

theorem Signs.of_claim {claimed marked : Journal} (claim : journal.claimLane attempt = .ok claimed)
    (write : claimed.writeMarks mark = .ok marked) :
    Signs journal marked attempt mark ∧ marked.batchMembers = journal.batchMembers := by
  obtain ⟨free, sweepless, new, txs, rows, claimedEq⟩ := claimLane_ok.mp claim
  obtain ⟨marks, markedEq, kept, recorded⟩ := writeMarks_ok write
  subst claimedEq markedEq
  refine ⟨?_, rfl⟩
  exact
    { free, sweepless, new, rows, marked := recorded, marksKept := kept
      floor := rfl
      sweep := rfl
      fill := rfl
      receipts := rfl
      jobIds := rfl
      workKeys := rfl }

theorem Signs.withJobs (signs : Signs journal after attempt mark) {jobs : Table Job String Job.id}
    (ids : jobs.rows.map Job.id = after.jobs.rows.map Job.id) :
    Signs journal { after with jobs := jobs } attempt mark :=
  { signs with jobIds := ids.trans signs.jobIds }

/-- What the work of an attempt that is not a batch must be: an epoch of the journal, a batch
whose nonce is cancelled, or a request of the journal. -/
structure Serves (journal : Journal) (attempt : Attempt) : Prop where
  notBatch : attempt.kind ≠ .fulfillBatch
  epoch : attempt.kind.isEpoch = true → attempt.job ∈ journal.epochWork.rows.map EpochWork.key
  batch : attempt.kind.isEpoch = false → isBatchJob attempt.job = true →
    attempt.kind = .cancel ∧ journal.membersIn attempt.job ≠ []
  single : attempt.kind.isEpoch = false → isBatchJob attempt.job = false →
    attempt.job ∈ journal.jobs.rows.map Job.id

/-- A signed transaction that is not a batch commits only as a signing for work it serves. -/
theorem signedMarked_ok (signed : journal.signedMarked attempt mark = .ok after) :
    Signs journal after attempt mark ∧ Serves journal attempt ∧
      after.batchMembers = journal.batchMembers := by
  unfold signedMarked at signed
  obtain ⟨_, notBatch, signed⟩ := bind_eq_ok.mp signed
  obtain ⟨_, notSingle, signed⟩ := bind_eq_ok.mp signed
  obtain ⟨claimed, claim, signed⟩ := bind_eq_ok.mp signed
  obtain ⟨marked, write, signed⟩ := bind_eq_ok.mp signed
  rw [ensure_eq_ok] at notBatch notSingle
  obtain ⟨signs, sameMembers⟩ := Signs.of_claim claim write
  cases epoch : attempt.kind.isEpoch with
  | true =>
    rw [if_pos epoch] at signed
    obtain ⟨_, found, signed⟩ := bind_eq_ok.mp signed
    cases signed
    rw [ensure_eq_ok] at found
    refine ⟨{ signs with workKeys := setEpochState_keys.trans signs.workKeys }, ?_,
      sameMembers⟩
    refine ⟨notBatch, fun _ => ?_, by simp [epoch], by simp [epoch]⟩
    rw [← signs.workKeys]
    exact marked.epochWork.mem_keys_of_count found
  | false =>
    rw [if_neg (by simp [epoch])] at signed
    cases batch : isBatchJob attempt.job with
    | true =>
      rw [if_pos batch] at signed
      obtain ⟨_, found, signed⟩ := bind_eq_ok.mp signed
      rw [ensure_eq_ok] at found
      obtain ⟨jobs, same, ids⟩ := markMembersSigned_ok signed
      subst same
      refine ⟨signs.withJobs ids, ⟨notBatch, by simp [epoch], fun _ _ => ⟨?_, ?_⟩,
        by simp [batch]⟩, sameMembers⟩
      · cases kind : attempt.kind with
        | cancel => rfl
        | fulfill => exact absurd ⟨kind, batch⟩ notSingle
        | fulfillBatch => exact absurd kind notBatch
        | epoch | epochCancel => simp [kind, TxKind.isEpoch] at epoch
      · unfold membersIn at found ⊢
        rw [← sameMembers]
        exact found
    | false =>
      rw [if_neg (by simp [batch])] at signed
      obtain ⟨_, found, signed⟩ := bind_eq_ok.mp signed
      rw [ensure_eq_ok] at found
      cases signed
      refine ⟨{ signs with jobIds := updateJobs_ids.trans signs.jobIds }, ⟨notBatch,
        by simp [epoch], by simp [batch], fun _ _ => ?_⟩, sameMembers⟩
      rw [← signs.jobIds]
      exact marked.jobs.mem_keys_of_count found

theorem batchKey_ok {digest : String → String} (keyed : batchKey digest members = .ok key) :
    2 ≤ members.length ∧ members.length ≤ maxBatchMembers ∧ isBatchJob key = true := by
  obtain ⟨_, size, keyed⟩ := bind_eq_ok.mp keyed
  rw [ensure_eq_ok] at size
  cases keyed
  refine ⟨size.1, size.2, ?_⟩
  unfold isBatchJob
  rw [String.toList_append, List.isPrefixOf_iff_prefix]
  exact List.prefix_append _ _

/-- The members of jobs after a list was inserted. -/
theorem membersIn_insertMembers (inserted : journal.insertMembers job members = .ok after)
    (other : String) :
    after.membersIn other = journal.membersIn other ++ if other = job then members else [] := by
  obtain ⟨listed, same, rows⟩ := insertMembers_ok inserted
  subst same
  unfold membersIn
  rw [rows, List.filter_append, List.map_append]
  congr 1
  split
  · rename_i same
    rw [List.filter_eq_self.mpr, List.map_map]
    · exact List.map_id members
    · intro member listedMember
      obtain ⟨id, _, rfl⟩ := List.mem_map.mp listedMember
      exact beq_iff_eq.mpr same.symm
  · rename_i different
    rw [List.filter_eq_nil_iff.mpr, List.map_nil]
    intro member listedMember
    obtain ⟨id, _, rfl⟩ := List.mem_map.mp listedMember
    simp only [beq_iff_eq]
    exact Ne.symm different

/-- What a signed batch is: its key is the key of its members, its list is on record afterwards,
and no other batch's list changed. -/
structure ServesBatch (digest : String → String) (journal after : Journal) (attempt : Attempt)
    (members : List String) : Prop where
  kind : attempt.kind = .fulfillBatch
  key : batchKey digest members = .ok attempt.job
  listed : after.membersIn attempt.job = members
  before : journal.membersIn attempt.job = [] ∨ journal.membersIn attempt.job = members
  others : ∀ job, job ≠ attempt.job → after.membersIn job = journal.membersIn job
  known : ∀ id ∈ members, id ∈ journal.jobs.rows.map Job.id

/-- The members that were marked signed are jobs of the journal. -/
theorem markMembersSigned_known (marked : journal.markMembersSigned members = .ok after) :
    ∀ id ∈ members, id ∈ journal.jobs.rows.map Job.id := by
  induction members generalizing journal with
  | nil => exact fun _ member => nomatch member
  | cons id rest inductionHypothesis =>
    obtain ⟨_, found, marked⟩ := bind_eq_ok.mp marked
    rw [ensure_eq_ok] at found
    intro wanted member
    rcases List.mem_cons.mp member with rfl | later
    · have positive : 0 < journal.jobs.rows.countP fun job => job.id == wanted && job.canSign :=
        Nat.lt_of_lt_of_eq Nat.one_pos found.symm
      obtain ⟨job, jobMem, same⟩ := List.countP_pos_iff.mp positive
      rw [Bool.and_eq_true, beq_iff_eq] at same
      exact List.mem_map.mpr ⟨job, jobMem, same.1⟩
    · have old := inductionHypothesis marked wanted later
      rwa [updateJobs_ids] at old

/-- A signed batch commits only as a signing for its members. -/
theorem signedBatchMarked_ok {digest : String → String}
    (signed : signedBatchMarked digest journal attempt members mark = .ok after) :
    Signs journal after attempt mark ∧ ServesBatch digest journal after attempt members := by
  unfold signedBatchMarked at signed
  obtain ⟨_, kind, signed⟩ := bind_eq_ok.mp signed
  obtain ⟨key, keyed, signed⟩ := bind_eq_ok.mp signed
  obtain ⟨_, sameKey, signed⟩ := bind_eq_ok.mp signed
  obtain ⟨_, _, signed⟩ := bind_eq_ok.mp signed
  obtain ⟨_, _, signed⟩ := bind_eq_ok.mp signed
  obtain ⟨claimed, claim, signed⟩ := bind_eq_ok.mp signed
  obtain ⟨marked, write, signed⟩ := bind_eq_ok.mp signed
  rw [ensure_eq_ok] at kind sameKey
  rw [← sameKey] at keyed
  obtain ⟨signs, sameMembers⟩ := Signs.of_claim claim write
  dsimp only at signed
  have lists : ∀ job, marked.membersIn job = journal.membersIn job := by
    intro job
    unfold membersIn
    rw [sameMembers]
  by_cases absent : marked.membersIn attempt.job = []
  · rw [if_pos absent] at signed
    obtain ⟨listed, inserted, signed⟩ := bind_eq_ok.mp signed
    obtain ⟨jobs, sameJobs, ids⟩ := markMembersSigned_ok signed
    have known := markMembersSigned_known signed
    have list := membersIn_insertMembers inserted attempt.job
    rw [absent, if_pos rfl, List.nil_append] at list
    have other : ∀ job, job ≠ attempt.job → listed.membersIn job = marked.membersIn job := by
      intro job different
      rw [membersIn_insertMembers inserted, if_neg different, List.append_nil]
    obtain ⟨rows, sameListed, -⟩ := insertMembers_ok inserted
    subst sameListed sameJobs
    refine ⟨{ signs with jobIds := ids.trans signs.jobIds }, ?_⟩
    exact
      { kind, key := keyed, listed := list
        before := .inl ((lists _).symm.trans absent)
        others := fun job different => (other job different).trans (lists job)
        known := fun id member => signs.jobIds ▸ known id member }
  · rw [if_neg absent] at signed
    obtain ⟨_, same, signed⟩ := bind_eq_ok.mp signed
    rw [ensure_eq_ok] at same
    have known := markMembersSigned_known signed
    obtain ⟨jobs, sameJobs, ids⟩ := markMembersSigned_ok signed
    subst sameJobs
    refine ⟨signs.withJobs ids, ?_⟩
    exact
      { kind, key := keyed, listed := same
        before := .inr ((lists _).symm.trans same)
        others := fun job _ => lists job
        known := fun id member => signs.jobIds ▸ known id member }

/-! ### Resolving -/

/-- What a transaction that resolves a nonce does: every attempt of it is resolved, the floor
moves past it, and besides it changes the marks, the states of the work and texts of `meta`. -/
structure Resolves (journal after : Journal) (nonce : ℕ) : Prop where
  fits : nonce + 1 ≤ maxI64
  txs : after.txs = (journal.setTxState (fun attempt => attempt.nonce == nonce)
    fun _ => .resolved).txs
  floor : after.nonceFloor = max (castInteger journal.nonceFloor) (castInteger (nonce + 1))
  sweep : after.sweepAttempt = journal.sweepAttempt
  fill : after.fill = journal.fill
  receipts : after.finalizedReceipts = journal.finalizedReceipts
  marksKept : ∀ old ∈ journal.softMarks.rows, old ∈ after.softMarks.rows
  members : after.batchMembers = journal.batchMembers
  jobIds : after.jobs.rows.map Job.id = journal.jobs.rows.map Job.id
  workKeys : after.epochWork.rows.map EpochWork.key = journal.epochWork.rows.map EpochWork.key

theorem Resolves.of_settle {marked : Journal} {next : ℕ} (counted : nextNonce nonce = .ok next)
    (write : journal.writeMarks mark = .ok marked) :
    Resolves journal (marked.settleNonce nonce next) nonce := by
  obtain ⟨fits, same⟩ := nextNonce_eq_ok.mp counted
  obtain ⟨marks, markedEq, kept, -⟩ := writeMarks_ok write
  subst same markedEq
  exact
    { fits
      txs := rfl
      floor := rfl
      sweep := rfl
      fill := rfl
      receipts := rfl
      marksKept := kept
      members := rfl
      jobIds := rfl
      workKeys := rfl }

/-- Touching jobs and texts of `meta` afterwards keeps what resolving did. -/
theorem Resolves.withJobs (resolves : Resolves journal after nonce)
    {jobs : Table Job String Job.id} {texts : String → Option String}
    (ids : jobs.rows.map Job.id = after.jobs.rows.map Job.id) :
    Resolves journal { after with jobs := jobs, metaText := texts } nonce :=
  { resolves with jobIds := ids.trans resolves.jobIds }

theorem resolveNonce_ok (resolved : journal.resolveNonce nonce = .ok after) :
    Resolves journal after nonce := by
  obtain ⟨next, counted, resolved⟩ := bind_eq_ok.mp resolved
  cases resolved
  have write : journal.writeMarks none = .ok journal := rfl
  exact Resolves.of_settle counted write

/-- The state a resolved job takes touches its row and texts of `meta` alone. -/
theorem setResolvedState_eq (journal : Journal) (job : String) (state : Resolution) :
    ∃ jobs texts, journal.setResolvedState job state =
        { journal with jobs := jobs, metaText := texts } ∧
      jobs.rows.map Job.id = journal.jobs.rows.map Job.id := by
  cases state with
  | state =>
    refine ⟨_, _, rfl, journal.jobs.map_key_update _ _ ?_⟩
    exact fun _ => rfl
  | reprove =>
    refine ⟨_, _, rfl, journal.jobs.map_key_update _ _ ?_⟩
    exact fun _ => rfl

theorem resolveNonceJobMarked_ok {state : Resolution}
    (resolved : journal.resolveNonceJobMarked nonce job state mark = .ok after) :
    Resolves journal after nonce := by
  obtain ⟨next, counted, resolved⟩ := bind_eq_ok.mp resolved
  obtain ⟨marked, write, resolved⟩ := bind_eq_ok.mp resolved
  obtain ⟨_, _, resolved⟩ := bind_eq_ok.mp resolved
  cases resolved
  obtain ⟨jobs, texts, same, ids⟩ := setResolvedState_eq (marked.settleNonce nonce next) job state
  rw [same]
  exact (Resolves.of_settle counted write).withJobs ids

theorem resolveNonceEpochMarked_ok {state : EpochState}
    (resolved : journal.resolveNonceEpochMarked nonce key state mark = .ok after) :
    Resolves journal after nonce := by
  obtain ⟨next, counted, resolved⟩ := bind_eq_ok.mp resolved
  obtain ⟨marked, write, resolved⟩ := bind_eq_ok.mp resolved
  obtain ⟨_, _, resolved⟩ := bind_eq_ok.mp resolved
  cases resolved
  have resolves := Resolves.of_settle counted write
  exact { resolves with workKeys := setEpochState_keys.trans resolves.workKeys }

/-- The state of a resolved member touches its row and texts of `meta` alone. -/
theorem resolveMember_eq (journal : Journal) (id : String) (state : Resolution) :
    ∃ jobs texts, journal.resolveMember id state =
        { journal with jobs := jobs, metaText := texts } ∧
      jobs.rows.map Job.id = journal.jobs.rows.map Job.id := by
  unfold resolveMember
  split
  · unfold setMetaOnce
    split
    all_goals
      refine ⟨_, _, rfl, journal.jobs.map_key_update _ _ ?_⟩
      exact fun _ => rfl
  · exact setResolvedState_eq journal id _

theorem resolveMembers_ok {states : List (String × Resolution)}
    (resolved : journal.resolveMembers states = .ok after) :
    ∃ jobs texts, after = { journal with jobs := jobs, metaText := texts } ∧
      jobs.rows.map Job.id = journal.jobs.rows.map Job.id := by
  induction states generalizing journal with
  | nil =>
    cases resolved
    exact ⟨_, _, rfl, rfl⟩
  | cons entry rest inductionHypothesis =>
    obtain ⟨_, _, resolved⟩ := bind_eq_ok.mp resolved
    obtain ⟨jobs, texts, result, ids⟩ := inductionHypothesis resolved
    obtain ⟨_, _, same, oldIds⟩ := resolveMember_eq journal entry.1 entry.2
    rw [same] at result ids
    exact ⟨jobs, texts, result, ids.trans oldIds⟩

theorem resolveNonceBatchMarked_ok {states : List (String × Resolution)}
    (resolved : journal.resolveNonceBatchMarked nonce key states mark = .ok after) :
    Resolves journal after nonce := by
  obtain ⟨next, counted, resolved⟩ := bind_eq_ok.mp resolved
  obtain ⟨_, _, resolved⟩ := bind_eq_ok.mp resolved
  obtain ⟨_, _, resolved⟩ := bind_eq_ok.mp resolved
  obtain ⟨marked, write, resolved⟩ := bind_eq_ok.mp resolved
  obtain ⟨jobs, texts, same, ids⟩ := resolveMembers_ok resolved
  rw [same]
  exact (Resolves.of_settle counted write).withJobs ids

/-! ### Recovery -/

/-- The attempts after a nonce is reopened: its own are submitted again and unbroadcast, and the
other live ones are parked. -/
def reopenedRow (nonce now : ℕ) (attempt : Attempt) : Attempt :=
  if attempt.nonce = nonce then
    { attempt with state := .submitted, created := now, broadcast := 0 }
  else { attempt with state := attempt.state.park }

theorem mem_submitJobs {condition : Job → Bool} {row : Job}
    (member : row ∈ (journal.updateJobs condition (fun row => { row with state := .submitted })
      fun _ => rfl).jobs.rows) :
    row.state = .submitted ∨ (row ∈ journal.jobs.rows ∧ condition row = false) := by
  obtain ⟨old, oldMem, rfl⟩ := mem_updateJobs.mp member
  split
  case isTrue => exact .inl rfl
  case isFalse unmet => exact .inr ⟨oldMem, Bool.eq_false_iff.mpr unmet⟩

theorem reopenWork_batch (batch : isBatchJob job = true) :
    journal.reopenWork (job, false) =
      journal.updateJobs (fun row => (journal.membersIn job).contains row.id)
        (fun row => { row with state := .submitted }) fun _ => rfl :=
  if_pos batch

theorem reopenWork_single (single : isBatchJob job = false) :
    journal.reopenWork (job, false) =
      journal.updateJobs (fun row => row.id == job)
        (fun row => { row with state := .submitted }) fun _ => rfl :=
  if_neg (Bool.eq_false_iff.mp single)

/-- Reopening the work of one attempt touches the states of jobs and epochs alone: a job is as it
was or submitted, and the members of a batch are submitted. -/
theorem reopenWork_eq (journal : Journal) (entry : String × Bool) :
    ∃ jobs work, journal.reopenWork entry =
        { journal with jobs := jobs, epochWork := work } ∧
      jobs.rows.map Job.id = journal.jobs.rows.map Job.id ∧
      work.rows.map EpochWork.key = journal.epochWork.rows.map EpochWork.key ∧
      (∀ row ∈ jobs.rows, row.state = .submitted ∨ row ∈ journal.jobs.rows) ∧
      (entry.2 = false → isBatchJob entry.1 = true →
        ∀ row ∈ jobs.rows, row.id ∈ journal.membersIn entry.1 → row.state = .submitted) := by
  obtain ⟨job, epoch⟩ := entry
  cases epoch with
  | true => exact ⟨_, _, rfl, rfl, setEpochState_keys, fun row member => .inr member, nofun⟩
  | false =>
    cases batch : isBatchJob job with
    | true =>
      rw [reopenWork_batch batch]
      refine ⟨_, _, rfl, journal.jobs.map_key_update _ _ ?_, rfl, fun row member => ?_,
        fun _ _ row member listed => ?_⟩
      · exact fun _ => rfl
      · exact (mem_submitJobs member).imp_right And.left
      · rcases mem_submitJobs member with submitted | ⟨-, unlisted⟩
        · exact submitted
        · rw [← Bool.not_eq_true, List.contains_iff_mem] at unlisted
          exact absurd listed unlisted
    | false =>
      rw [reopenWork_single batch]
      refine ⟨_, _, rfl, journal.jobs.map_key_update _ _ ?_, rfl, fun row member => ?_, ?_⟩
      · exact fun _ => rfl
      · exact (mem_submitJobs member).imp_right And.left
      · exact fun _ isBatch => nomatch isBatch

/-- Reopening the work of several attempts. -/
theorem foldl_reopenWork_eq (entries : List (String × Bool)) (journal : Journal) :
    ∃ jobs work, entries.foldl reopenWork journal =
        { journal with jobs := jobs, epochWork := work } ∧
      jobs.rows.map Job.id = journal.jobs.rows.map Job.id ∧
      work.rows.map EpochWork.key = journal.epochWork.rows.map EpochWork.key ∧
      (∀ row ∈ jobs.rows, row.state = .submitted ∨ row ∈ journal.jobs.rows) ∧
      ∀ job, (job, false) ∈ entries → isBatchJob job = true →
        ∀ row ∈ jobs.rows, row.id ∈ journal.membersIn job → row.state = .submitted := by
  induction entries generalizing journal with
  | nil => exact ⟨_, _, rfl, rfl, rfl, fun row member => .inr member, nofun⟩
  | cons entry rest inductionHypothesis =>
    obtain ⟨jobs, work, same, ids, keys, kept, first⟩ := journal.reopenWork_eq entry
    obtain ⟨jobs', work', same', ids', keys', kept', later⟩ :=
      inductionHypothesis (journal.reopenWork entry)
    rw [List.foldl_cons, same']
    rw [same] at ids' keys' kept' later ⊢
    refine ⟨jobs', work', rfl, ids'.trans ids, keys'.trans keys, fun row member => ?_, ?_⟩
    · rcases kept' row member with submitted | old
      · exact .inl submitted
      · exact kept row old
    · intro job listed batch row member rowListed
      rcases List.mem_cons.mp listed with head | tail
      · rcases kept' row member with submitted | old
        · exact submitted
        · rw [← head] at first
          exact first rfl batch row old rowListed
      · exact later job tail batch row member rowListed

/-- What a transaction that reopens a nonce does. -/
structure Reopens (journal after : Journal) (nonce now : ℕ) : Prop where
  bytes : bytesGone (journal.attemptsOf nonce) = false
  rows : after.txs.rows = journal.txs.rows.map (reopenedRow nonce now)
  floor : after.nonceFloor = journal.nonceFloor
  sweep : after.sweepAttempt = journal.sweepAttempt
  fill : after.fill = journal.fill
  receipts : after.finalizedReceipts = journal.finalizedReceipts
  members : after.batchMembers = journal.batchMembers
  marksKept : ∀ mark ∈ journal.softMarks.rows, mark.kind = .sign → mark ∈ after.softMarks.rows
  marks : ∀ mark ∈ after.softMarks.rows, mark ∈ journal.softMarks.rows
  jobIds : after.jobs.rows.map Job.id = journal.jobs.rows.map Job.id
  workKeys : after.epochWork.rows.map EpochWork.key = journal.epochWork.rows.map EpochWork.key
  submitted : ∀ attempt ∈ journal.txs.rows, attempt.nonce = nonce →
    attempt.kind.isEpoch = false → isBatchJob attempt.job = true →
    ∀ row ∈ after.jobs.rows, row.id ∈ journal.membersIn attempt.job → row.state = .submitted

/-- The rows after parking the others and restarting a nonce. -/
theorem restartAttempts_rows (journal : Journal) (nonce now : ℕ) :
    ((journal.setTxState (fun attempt => attempt.state.active && attempt.nonce != nonce)
        TxState.park).restartAttempts nonce now).txs.rows =
      journal.txs.rows.map (reopenedRow nonce now) := by
  unfold restartAttempts setTxState
  rw [Table.update_rows, Table.update_rows, List.map_map]
  refine List.map_congr_left fun attempt _ => ?_
  unfold reopenedRow
  simp only [Function.comp_apply]
  by_cases same : attempt.nonce = nonce
  · have unparked : ¬(attempt.state.active && attempt.nonce != nonce) = true := by simp [same]
    simp only [if_neg unparked, beq_iff_eq, if_pos same]
  · have bne : (attempt.nonce != nonce) = true := bne_iff_ne.mpr same
    rw [if_neg same, bne, Bool.and_true]
    cases state : attempt.state <;>
      simp only [TxState.active, TxState.park, if_true, beq_iff_eq, if_neg same,
        Bool.false_eq_true, if_false]
    all_goals rw [← state]

/-- A nonce is reopened, or there are no bytes for it and nothing changes. -/
theorem reopenNonce_ok {chainTime wallTime : ℕ} {outcome : Reopened}
    (reopened : journal.reopenNonce nonce chainTime wallTime = .ok (outcome, after)) :
    (outcome = .noBytes ∧ after = journal ∧ bytesGone (journal.attemptsOf nonce) = true) ∨
      (outcome = .lane ∧ Reopens journal after nonce chainTime) := by
  unfold reopenNonce at reopened
  obtain ⟨_, fits, reopened⟩ := bind_eq_ok.mp reopened
  obtain ⟨_, timeFits, reopened⟩ := bind_eq_ok.mp reopened
  obtain ⟨_, rfl⟩ := tryI64_eq_ok.mp fits
  obtain ⟨_, rfl⟩ := tryI64_eq_ok.mp timeFits
  dsimp only at reopened
  split at reopened
  case isTrue blank =>
    cases reopened
    exact .inl ⟨rfl, rfl, blank⟩
  case isFalse present =>
    cases reopened
    refine .inr ⟨rfl, ?_⟩
    obtain ⟨jobs, work, same, ids, keys, -, submitted⟩ := foldl_reopenWork_eq
      ((journal.attemptsOf nonce).map fun attempt => (attempt.job, attempt.kind.isEpoch)).dedup
      (((journal.setTxState (fun attempt => attempt.state.active && attempt.nonce != nonce)
        TxState.park).deleteMarks ((journal.attemptsOf nonce).map Attempt.hash)
          nonce).restartAttempts nonce chainTime)
    rw [same]
    exact
      { bytes := Bool.eq_false_iff.mpr present
        rows := restartAttempts_rows journal nonce chainTime
        floor := rfl
        sweep := rfl
        fill := rfl
        receipts := rfl
        members := rfl
        marksKept := by
          intro mark member sign
          refine (Table.mem_delete _ _).mpr ⟨member, ?_⟩
          simp [sign]
        marks := fun mark member => ((Table.mem_delete _ _).mp member).1
        jobIds := ids
        workKeys := keys
        submitted := by
          intro attempt member sameNonce single batch row rowMem listed
          refine submitted attempt.job ?_ batch row rowMem listed
          rw [List.mem_dedup, List.mem_map]
          exact ⟨attempt, List.mem_filter.mpr ⟨member, beq_iff_eq.mpr sameNonce⟩,
            by rw [single]⟩ }

theorem setFillMarked_ok {fill : Fill} (saved : journal.setFillMarked fill mark = .ok after) :
    ∃ marks, after = { journal with fill := some fill, softMarks := marks } ∧
      (∀ old ∈ journal.softMarks.rows, old ∈ marks.rows) ∧
      ∀ present, mark = some present → after.Records present := by
  obtain ⟨marks, same, kept, recorded⟩ := writeMarks_ok saved
  exact ⟨marks, same, kept, recorded⟩

theorem settleFill_ok {hashes : List String}
    (settled : journal.settleFill nonce hashes mark = .ok after) :
    ∃ marks, after = { journal with fill := none, softMarks := marks } ∧
      ∀ old ∈ journal.softMarks.rows, old.kind = .sign → old ∈ marks.rows := by
  obtain ⟨marked, write, settled⟩ := bind_eq_ok.mp settled
  cases settled
  obtain ⟨marks, same, kept, -⟩ := writeMarks_ok write
  subst same
  refine ⟨marks, rfl, fun old member sign => kept old ((Table.mem_delete _ _).mpr ⟨member, ?_⟩)⟩
  simp [sign]

theorem dropFinalized_eq (journal : Journal) (recorded : Option Mismatch) :
    ∃ receipts checkpoint, journal.dropFinalized recorded =
      { journal with finalizedReceipts := receipts, finalizedCheckpoint := checkpoint } := by
  cases recorded with
  | none => exact ⟨_, _, rfl⟩
  | some mismatch =>
    unfold dropFinalized
    cases kind : mismatch.kind <;> simp only [kind] <;> exact ⟨_, _, rfl⟩

/-- A cleared incident returns the parked attempts and touches the records of the recovery. -/
theorem clearFinalityIncident_eq (journal : Journal) (summary : String) :
    ∃ receipts checkpoint texts, journal.clearFinalityIncident summary =
      { journal.unparkLanes with
        finalizedReceipts := receipts, finalizedCheckpoint := checkpoint, mismatch := none,
        fill := none, metaText := texts } := by
  obtain ⟨receipts, checkpoint, same⟩ := journal.dropFinalized_eq journal.mismatch
  unfold clearFinalityIncident
  rw [same]
  exact ⟨_, _, _, rfl⟩

/-! ### Sweeps -/

/-- A sweep starts only while no attempt is live and none is in flight, at a nonce that is not
below the floor. -/
theorem sweepStartMarked_ok {attempt : SweepAttempt}
    (started : journal.sweepStartMarked attempt mark = .ok after) :
    (∀ live ∈ journal.txs.rows, live.state.active = false) ∧ attempt.nonce ≤ maxI64 ∧
      castInteger journal.nonceFloor ≤ attempt.nonce ∧ journal.sweepAttempt = none ∧
      ∃ marks, after =
          { journal with
            sweepRequest := none, sweepAttempt := some attempt, softMarks := marks } ∧
        (∀ old ∈ journal.softMarks.rows, old ∈ marks.rows) ∧
        ∀ present, mark = some present → after.Records present := by
  obtain ⟨_, idle, started⟩ := bind_eq_ok.mp started
  obtain ⟨nonce, fits, started⟩ := bind_eq_ok.mp started
  obtain ⟨_, above, started⟩ := bind_eq_ok.mp started
  obtain ⟨_, _, started⟩ := bind_eq_ok.mp started
  obtain ⟨_, absent, started⟩ := bind_eq_ok.mp started
  obtain ⟨small, same⟩ := tryI64_eq_ok.mp fits
  rw [ensure_eq_ok] at idle above absent
  rw [← same] at above
  obtain ⟨marks, same, kept, recorded⟩ := writeMarks_ok started
  exact ⟨Table.count_eq_zero.mp idle, small, above, absent, marks, same, kept, recorded⟩

theorem sweepSaveMarked_ok {attempt : SweepAttempt}
    (saved : journal.sweepSaveMarked attempt mark = .ok after) :
    journal.sweepAttempt.isSome = true ∧
      ∃ marks, after = { journal with sweepAttempt := some attempt, softMarks := marks } ∧
        (∀ old ∈ journal.softMarks.rows, old ∈ marks.rows) ∧
        ∀ present, mark = some present → after.Records present := by
  obtain ⟨_, present, saved⟩ := bind_eq_ok.mp saved
  rw [ensure_eq_ok] at present
  obtain ⟨marks, same, kept, recorded⟩ := writeMarks_ok saved
  exact ⟨present, marks, same, kept, recorded⟩

/-- A finished sweep leaves the record and raises the floor. -/
theorem sweepFinishMarked_ok {outcome : SweepOutcome}
    (finished : journal.sweepFinishMarked nonce outcome mark = .ok after) :
    journal.sweepAttempt.isSome = true ∧
      ∃ marks, after =
          { journal with
            sweepAttempt := none, sweepLast := some outcome, softMarks := marks,
            nonceFloor := max (castInteger journal.nonceFloor) (castInteger (nonce + 1)) } ∧
        ∀ old ∈ journal.softMarks.rows, old ∈ marks.rows := by
  obtain ⟨_, _, finished⟩ := bind_eq_ok.mp finished
  obtain ⟨marked, write, finished⟩ := bind_eq_ok.mp finished
  obtain ⟨_, present, finished⟩ := bind_eq_ok.mp finished
  rw [ensure_eq_ok] at present
  cases finished
  obtain ⟨marks, same, kept, -⟩ := writeMarks_ok write
  subst same
  exact ⟨present, marks, rfl, kept⟩

/-! ### Compaction -/

/-- The attempts whose bytes a compaction removes. -/
def compactedIds (journal : Journal) (mode : FinalityMode) : List ℕ :=
  ((journal.txs.rows.filter (journal.compactableTx mode)).map Attempt.id).take compactLimit

/-- An attempt after a compaction. -/
def compactedRow (ids : List ℕ) (attempt : Attempt) : Attempt :=
  if ids.contains attempt.id then { attempt with raw := "", payload := "" } else attempt

/-- A compaction removes bytes, proofs and packets, and changes nothing else. -/
theorem compactHistoryFor_ok {now : ℕ} {mode : FinalityMode}
    (compacted : journal.compactHistoryFor now mode = .ok after) :
    (now < journal.compactAfter ∧ after = journal) ∨
      ¬now < journal.compactAfter ∧ ∃ jobs work txs due, after =
          { journal with jobs := jobs, epochWork := work, txs := txs, compactAfter := due } ∧
        txs.rows = journal.txs.rows.map (compactedRow (journal.compactedIds mode)) ∧
        jobs.rows.map Job.id = journal.jobs.rows.map Job.id ∧
        work.rows.map EpochWork.key = journal.epochWork.rows.map EpochWork.key := by
  obtain ⟨_, fits, compacted⟩ := bind_eq_ok.mp compacted
  obtain ⟨_, rfl⟩ := tryI64_eq_ok.mp fits
  dsimp only at compacted
  split at compacted
  case isTrue early =>
    cases compacted
    exact .inl ⟨early, rfl⟩
  case isFalse due =>
    cases compacted
    refine .inr ⟨due, _, _, _, _, rfl, rfl, journal.jobs.map_key_update _ _ ?_,
      journal.epochWork.map_key_update _ _ ?_⟩
    · exact fun _ => rfl
    · exact fun _ => rfl

end D20.Journal
