/-
This file lists the transactions of the journal as data, and says once what each of them does when
it commits: how it changes the attempts that are there, which one it inserts, what it leaves of the
sweep and of the fill, and which records it keeps. The results about runs, whatever they are about,
read a call through this.
-/

import D20Keeper.JournalSteps

namespace D20.Journal

/-! ### Calls -/

/-- A transaction of the journal with its arguments. The updates of jobs and of epoch work stand
for every other statement on those tables, and `setFinality` for every transaction of the audit,
of the walk through the marks and of the soft checkpoint. -/
inductive Call
  | signed (attempt : Attempt) (mark : Option Mark)
  | signedBatch (attempt : Attempt) (members : List String) (mark : Option Mark)
  | txSubmitted (id : ℕ)
  | broadcastAttempt (id now : ℕ)
  | resolveNonce (nonce : ℕ)
  | resolveNonceJob (nonce : ℕ) (job : String) (state : Resolution) (mark : Option Mark)
  | resolveNonceEpoch (nonce : ℕ) (key : String) (state : EpochState) (mark : Option Mark)
  | resolveNonceBatch (nonce : ℕ) (key : String) (states : List (String × Resolution))
      (mark : Option Mark)
  | reopenNonce (nonce chainTime wallTime : ℕ)
  | beginFill (fill : Fill)
  | setFill (fill : Fill) (mark : Option Mark)
  | settleFill (nonce : ℕ) (hashes : List String) (mark : Option Mark)
  | unparkLanes
  | clearFinalityIncident (summary : String)
  | compactHistory (now : ℕ) (mode : FinalityMode)
  | sweepSubmit (request : SweepRequest)
  | sweepCancelRequest
  | sweepRefuse (request : SweepRequest) (detail : String) (now : ℕ)
  | sweepStart (attempt : SweepAttempt) (mark : Option Mark)
  | sweepSave (attempt : SweepAttempt) (mark : Option Mark)
  | sweepFinish (nonce : ℕ) (outcome : SweepOutcome) (mark : Option Mark)
  | openFor
  | discovered (id : String) (deadline : ℤ) (next : String)
  | epochFound (key : String)
  | prepared (id proof call : String)
  | membersState (job : String) (state : JobState)
  | expireUnstarted (now : ℤ)
  | updateJobs (condition : Job → Bool) (change : Job → Job)
      (kept : ∀ job, (change job).id = job.id)
  | epochState (key : String) (state : EpochState)
  | updateWork (condition : EpochWork → Bool) (change : EpochWork → EpochWork)
      (kept : ∀ work, (change work).key = work.key)
  | laneStarted (nonce now : ℕ)
  | setFinality (marks : Table Mark (ℕ × MarkKind × String) Mark.key)
      (receipts : Table FinalizedReceipt String FinalizedReceipt.hash)
      (checkpoint : Option (ℕ × String)) (mismatch : Option Mismatch)

/-- What a call does to the journal. Reopening a nonce without bytes commits and changes
nothing. -/
def Call.apply (digest : String → String) (journal : Journal) : Call → Except String Journal
  | .signed attempt mark => journal.signedMarked attempt mark
  | .signedBatch attempt members mark => signedBatchMarked digest journal attempt members mark
  | .txSubmitted id => .ok (journal.txSubmitted id)
  | .broadcastAttempt id now => .ok (journal.broadcastAttempt id now)
  | .resolveNonce nonce => journal.resolveNonce nonce
  | .resolveNonceJob nonce job state mark => journal.resolveNonceJobMarked nonce job state mark
  | .resolveNonceEpoch nonce key state mark =>
    journal.resolveNonceEpochMarked nonce key state mark
  | .resolveNonceBatch nonce key states mark =>
    journal.resolveNonceBatchMarked nonce key states mark
  | .reopenNonce nonce chainTime wallTime =>
    (journal.reopenNonce nonce chainTime wallTime).map Prod.snd
  | .beginFill fill => .ok (journal.beginFill fill)
  | .setFill fill mark => journal.setFillMarked fill mark
  | .settleFill nonce hashes mark => journal.settleFill nonce hashes mark
  | .unparkLanes => .ok journal.unparkLanes
  | .clearFinalityIncident summary => .ok (journal.clearFinalityIncident summary)
  | .compactHistory now mode => journal.compactHistoryFor now mode
  | .sweepSubmit request => journal.sweepSubmit request
  | .sweepCancelRequest => .ok journal.sweepCancelRequest
  | .sweepRefuse request detail now => .ok (journal.sweepRefuse request detail now)
  | .sweepStart attempt mark => journal.sweepStartMarked attempt mark
  | .sweepSave attempt mark => journal.sweepSaveMarked attempt mark
  | .sweepFinish nonce outcome mark => journal.sweepFinishMarked nonce outcome mark
  | .openFor => .ok journal.openFor
  | .discovered id deadline next => .ok (journal.discovered id deadline next)
  | .epochFound key => .ok (journal.epochFound key)
  | .prepared id proof call => .ok (journal.prepared id proof call)
  | .membersState job state => .ok (journal.membersState job state)
  | .expireUnstarted now => .ok (journal.expireUnstarted now)
  | .updateJobs condition change kept => .ok (journal.updateJobs condition change kept)
  | .epochState key state => .ok (journal.setEpochState key state)
  | .updateWork condition change kept => .ok (journal.updateWork condition change kept)
  | .laneStarted nonce now =>
    .ok (journal.setMetaOnce ("nonce_started:" ++ toString nonce) (toString now))
  | .setFinality marks receipts checkpoint mismatch =>
    .ok { journal with
      softMarks := marks, finalizedReceipts := receipts, finalizedCheckpoint := checkpoint,
      mismatch := mismatch }

/-! ### What a call does -/

/-- An attempt after one is stamped as submitted. -/
def submittedRow (id : ℕ) (attempt : Attempt) : Attempt :=
  if attempt.id = id then { attempt with state := .submitted } else attempt

/-- An attempt after the broadcast of one is recorded. -/
def broadcastRow (id now : ℕ) (attempt : Attempt) : Attempt :=
  if attempt.id = id then { attempt with broadcast := now } else attempt

/-- An attempt after a nonce is resolved. -/
def resolvedRow (nonce : ℕ) (attempt : Attempt) : Attempt :=
  if attempt.nonce = nonce then { attempt with state := .resolved } else attempt

/-- An attempt after every live one is parked. -/
def parkedRow (attempt : Attempt) : Attempt := { attempt with state := attempt.state.park }

theorem parkedRow_eq (attempt : Attempt) :
    (if attempt.state.active then { attempt with state := attempt.state.park } else attempt) =
      parkedRow attempt := by
  obtain ⟨_, _, _, _, _, _, _, state⟩ := attempt
  cases state <;> rfl

/-- An attempt after every parked one has returned. -/
def unparkedRow (attempt : Attempt) : Attempt := { attempt with state := attempt.state.unpark }

theorem unparkedRow_eq (attempt : Attempt) :
    (if attempt.state.parked then { attempt with state := attempt.state.unpark } else attempt) =
      unparkedRow attempt := by
  obtain ⟨_, _, _, _, _, _, _, state⟩ := attempt
  cases state <;> rfl

/-- The attempt a call inserts. -/
def Call.inserted (journal : Journal) : Call → List Attempt
  | .signed attempt _ | .signedBatch attempt _ _ => [attempt.inserted (nextId journal.txs.rows)]
  | _ => []

variable (journal : Journal)

/-- How a call changes the attempts that are there. -/
def Call.change : Call → Attempt → Attempt
  | .txSubmitted id => submittedRow id
  | .broadcastAttempt id now => broadcastRow id now
  | .resolveNonce nonce | .resolveNonceJob nonce _ _ _ | .resolveNonceEpoch nonce _ _ _
  | .resolveNonceBatch nonce _ _ _ => resolvedRow nonce
  | .reopenNonce nonce chainTime _ =>
    if bytesGone (journal.attemptsOf nonce) then id else reopenedRow nonce chainTime
  | .beginFill _ => parkedRow
  | .unparkLanes | .clearFinalityIncident _ => unparkedRow
  | .compactHistory now mode =>
    if now < journal.compactAfter then id else compactedRow (journal.compactedIds mode)
  | _ => id

/-- Two states of one transaction: what it is signed for does not change. -/
structure SameTx (before after : Attempt) : Prop where
  id : after.id = before.id
  job : after.job = before.job
  nonce : after.nonce = before.nonce
  hash : after.hash = before.hash
  kind : after.kind = before.kind

theorem SameTx.trans {first second third : Attempt} (one : SameTx first second)
    (two : SameTx second third) : SameTx first third :=
  ⟨two.id.trans one.id, two.job.trans one.job, two.nonce.trans one.nonce, two.hash.trans one.hash,
    two.kind.trans one.kind⟩

/-- No call changes what an attempt is signed for. -/
theorem Call.change_same (call : Call) (journal : Journal) (attempt : Attempt) :
    SameTx attempt (call.change journal attempt) := by
  have conditional : ∀ (condition : Prop) [Decidable condition] (changed : Attempt),
      SameTx attempt changed → SameTx attempt (if condition then changed else attempt) := by
    intro condition _ changed same
    split
    · exact same
    · exact ⟨rfl, rfl, rfl, rfl, rfl⟩
  cases call with
  | txSubmitted | broadcastAttempt | resolveNonce | resolveNonceJob | resolveNonceEpoch
  | resolveNonceBatch => exact conditional _ _ ⟨rfl, rfl, rfl, rfl, rfl⟩
  | reopenNonce =>
    unfold Call.change
    dsimp only
    split
    · exact ⟨rfl, rfl, rfl, rfl, rfl⟩
    · unfold reopenedRow
      split <;> exact ⟨rfl, rfl, rfl, rfl, rfl⟩
  | compactHistory =>
    unfold Call.change
    dsimp only
    split
    · exact ⟨rfl, rfl, rfl, rfl, rfl⟩
    · exact conditional _ _ ⟨rfl, rfl, rfl, rfl, rfl⟩
  | _ => exact ⟨rfl, rfl, rfl, rfl, rfl⟩

/-- The sweep on record after a call. -/
def Call.sweepAfter : Call → Option SweepAttempt
  | .sweepStart attempt _ | .sweepSave attempt _ => some attempt
  | .sweepFinish _ _ _ => none
  | _ => journal.sweepAttempt

/-- The fill on record after a call. -/
def Call.fillAfter : Call → Option Fill
  | .beginFill fill | .setFill fill _ => some fill
  | .settleFill _ _ _ | .clearFinalityIncident _ => none
  | _ => journal.fill

/-- The mark a call writes beside what it saves of signed transactions. -/
def Call.signMark : Call → Option Mark
  | .signed _ mark | .signedBatch _ _ mark | .sweepStart _ mark | .sweepSave _ mark
  | .setFill _ mark => mark
  | _ => none

/-- The batch whose member list a call may insert. -/
def Call.lists : Call → Option String
  | .signedBatch attempt _ _ => some attempt.job
  | _ => none

/-- The finalized receipts after a call. -/
def Call.receiptsAfter :
    Call → Table FinalizedReceipt String FinalizedReceipt.hash
  | .setFinality _ receipts _ _ => receipts
  | .clearFinalityIncident _ => (journal.dropFinalized journal.mismatch).finalizedReceipts
  | _ => journal.finalizedReceipts

/-- What a call that committed did. -/
structure Call.Does (call : Call) (journal after : Journal) : Prop where
  rows : after.txs.rows = journal.txs.rows.map (call.change journal) ++ call.inserted journal
  sweep : after.sweepAttempt = call.sweepAfter journal
  fill : after.fill = call.fillAfter journal
  recorded : ∀ mark, call.signMark = some mark → after.Records mark
  members : ∀ job, call.lists ≠ some job → after.membersIn job = journal.membersIn job
  jobIds : ∀ id ∈ journal.jobs.rows.map Job.id, id ∈ after.jobs.rows.map Job.id
  workKeys : ∀ key ∈ journal.epochWork.rows.map EpochWork.key,
    key ∈ after.epochWork.rows.map EpochWork.key
  receipts : after.finalizedReceipts = call.receiptsAfter journal

theorem rows_of_untouched {rows : List Attempt} : rows = rows.map id ++ [] := by
  rw [List.map_id, List.append_nil]

variable {call : Call} {journal after : Journal}

/-- The rows after an update of the states of attempts. -/
theorem setTxState_rows {condition : Attempt → Bool} {state : TxState → TxState}
    {change : Attempt → Attempt} (agrees : ∀ attempt, (if condition attempt then
      { attempt with state := state attempt.state } else attempt) = change attempt) :
    (journal.setTxState condition state).txs.rows = journal.txs.rows.map change ++ [] := by
  unfold setTxState
  rw [Table.update_rows, List.append_nil]
  exact List.map_congr_left fun attempt _ => agrees attempt

theorem Signs.rows_eq {attempt : Attempt} {mark : Option Mark}
    (signs : Signs journal after attempt mark) :
    after.txs.rows =
      journal.txs.rows.map id ++ [attempt.inserted (nextId journal.txs.rows)] := by
  rw [List.map_id]
  exact signs.rows

theorem membersIn_congr (members : after.batchMembers = journal.batchMembers) (job : String) :
    after.membersIn job = journal.membersIn job := by
  unfold membersIn
  rw [members]

/-- Resolving a nonce, as a call. -/
theorem Resolves.does {nonce : ℕ} (resolves : Resolves journal after nonce)
    (change : call.change journal = resolvedRow nonce) (inserted : call.inserted journal = [])
    (sweep : call.sweepAfter journal = journal.sweepAttempt)
    (fill : call.fillAfter journal = journal.fill) (mark : call.signMark = none)
    (receipts : call.receiptsAfter journal = journal.finalizedReceipts) :
    call.Does journal after where
  rows := by
    rw [resolves.txs, change, inserted]
    refine setTxState_rows fun attempt => ?_
    simp only [beq_iff_eq]
    rfl
  sweep := resolves.sweep.trans sweep.symm
  fill := resolves.fill.trans fill.symm
  recorded := by
    intro written present
    rw [mark] at present
    exact nomatch present
  members := fun job _ => membersIn_congr resolves.members job
  jobIds := fun _ member => resolves.jobIds ▸ member
  workKeys := fun _ member => resolves.workKeys ▸ member
  receipts := resolves.receipts.trans receipts.symm

/-- Every call that commits does what its data say. -/
theorem Call.does {digest : String → String} (committed : call.apply digest journal = .ok after) :
    call.Does journal after := by
  cases call with
  | signed =>
    obtain ⟨signs, -, members⟩ := signedMarked_ok committed
    exact
      { rows := signs.rows_eq
        sweep := signs.sweep
        fill := signs.fill
        recorded := signs.marked
        members := fun job _ => membersIn_congr members job
        jobIds := fun _ member => signs.jobIds ▸ member
        workKeys := fun _ member => signs.workKeys ▸ member
        receipts := signs.receipts }
  | signedBatch attempt members =>
    obtain ⟨signs, batch⟩ := signedBatchMarked_ok committed
    exact
      { rows := signs.rows_eq
        sweep := signs.sweep
        fill := signs.fill
        recorded := signs.marked
        members := fun job other => batch.others job fun same => other (same ▸ rfl)
        jobIds := fun _ member => signs.jobIds ▸ member
        workKeys := fun _ member => signs.workKeys ▸ member
        receipts := signs.receipts }
  | resolveNonce => exact (resolveNonce_ok committed).does rfl rfl rfl rfl rfl rfl
  | resolveNonceJob =>
    exact (resolveNonceJobMarked_ok committed).does rfl rfl rfl rfl rfl rfl
  | resolveNonceEpoch =>
    exact (resolveNonceEpochMarked_ok committed).does rfl rfl rfl rfl rfl rfl
  | resolveNonceBatch =>
    exact (resolveNonceBatchMarked_ok committed).does rfl rfl rfl rfl rfl rfl
  | reopenNonce nonce chainTime wallTime =>
    cases result : journal.reopenNonce nonce chainTime wallTime with
    | error =>
      rw [Call.apply, result] at committed
      exact nomatch committed
    | ok =>
      rw [Call.apply, result] at committed
      cases committed
      rcases reopenNonce_ok result with ⟨-, same, blank⟩ | ⟨-, reopens⟩
      · have unchanged : (Call.reopenNonce nonce chainTime wallTime).change journal = id :=
          if_pos blank
        rw [same]
        exact ⟨unchanged ▸ rows_of_untouched, rfl, rfl, nofun, fun _ _ => rfl,
          fun _ member => member, fun _ member => member, rfl⟩
      · have changed : (Call.reopenNonce nonce chainTime wallTime).change journal =
            reopenedRow nonce chainTime := if_neg (Bool.eq_false_iff.mp reopens.bytes)
        refine ⟨?_, reopens.sweep, reopens.fill, nofun,
          fun job _ => membersIn_congr reopens.members job,
          fun _ member => reopens.jobIds ▸ member, fun _ member => reopens.workKeys ▸ member,
          reopens.receipts⟩
        rw [changed]
        exact reopens.rows.trans (List.append_nil _).symm
  | txSubmitted =>
    cases committed
    refine ⟨setTxState_rows fun attempt => ?_, rfl, rfl, nofun, fun _ _ => rfl,
      fun _ member => member, fun _ member => member, rfl⟩
    simp only [beq_iff_eq]
    rfl
  | broadcastAttempt =>
    cases committed
    refine ⟨?_, rfl, rfl, nofun, fun _ _ => rfl, fun _ member => member,
      fun _ member => member, rfl⟩
    unfold Journal.broadcastAttempt
    rw [Table.update_rows]
    refine (List.map_congr_left fun attempt _ => ?_).trans (List.append_nil _).symm
    simp only [beq_iff_eq]
    rfl
  | beginFill =>
    cases committed
    exact ⟨setTxState_rows parkedRow_eq, rfl, rfl, nofun, fun _ _ => rfl,
      fun _ member => member, fun _ member => member, rfl⟩
  | setFill =>
    obtain ⟨marks, same, -, recorded⟩ := setFillMarked_ok committed
    subst same
    exact ⟨rows_of_untouched, rfl, rfl, recorded, fun _ _ => rfl, fun _ member => member,
      fun _ member => member, rfl⟩
  | settleFill =>
    obtain ⟨marks, same, -⟩ := settleFill_ok committed
    subst same
    exact ⟨rows_of_untouched, rfl, rfl, nofun, fun _ _ => rfl, fun _ member => member,
      fun _ member => member, rfl⟩
  | unparkLanes =>
    cases committed
    exact ⟨setTxState_rows unparkedRow_eq, rfl, rfl, nofun, fun _ _ => rfl,
      fun _ member => member, fun _ member => member, rfl⟩
  | clearFinalityIncident summary =>
    cases committed
    have receipts : (journal.clearFinalityIncident summary).finalizedReceipts =
      (Call.clearFinalityIncident summary).receiptsAfter journal := rfl
    obtain ⟨_, _, _, same⟩ := journal.clearFinalityIncident_eq summary
    rw [same] at receipts ⊢
    exact ⟨setTxState_rows unparkedRow_eq, rfl, rfl, nofun, fun _ _ => rfl,
      fun _ member => member, fun _ member => member, receipts⟩
  | compactHistory now mode =>
    rcases compactHistoryFor_ok committed with
      ⟨early, same⟩ | ⟨due, jobs, work, txs, later, same, rows, ids, keys⟩
    · have unchanged : (Call.compactHistory now mode).change journal = id := if_pos early
      subst same
      exact ⟨unchanged ▸ rows_of_untouched, rfl, rfl, nofun, fun _ _ => rfl,
        fun _ member => member, fun _ member => member, rfl⟩
    · have changed : (Call.compactHistory now mode).change journal =
          compactedRow (journal.compactedIds mode) := if_neg due
      subst same
      refine ⟨?_, rfl, rfl, nofun, fun _ _ => rfl, fun _ member => ids ▸ member,
        fun _ member => keys ▸ member, rfl⟩
      rw [changed]
      exact rows.trans (List.append_nil _).symm
  | sweepSubmit =>
    obtain ⟨_, _, committed⟩ := bind_eq_ok.mp committed
    cases committed
    exact ⟨rows_of_untouched, rfl, rfl, nofun, fun _ _ => rfl, fun _ member => member,
      fun _ member => member, rfl⟩
  | sweepStart =>
    obtain ⟨-, -, -, -, marks, same, -, recorded⟩ := sweepStartMarked_ok committed
    subst same
    exact ⟨rows_of_untouched, rfl, rfl, recorded, fun _ _ => rfl, fun _ member => member,
      fun _ member => member, rfl⟩
  | sweepSave =>
    obtain ⟨-, marks, same, -, recorded⟩ := sweepSaveMarked_ok committed
    subst same
    exact ⟨rows_of_untouched, rfl, rfl, recorded, fun _ _ => rfl, fun _ member => member,
      fun _ member => member, rfl⟩
  | sweepFinish =>
    obtain ⟨-, marks, same, -⟩ := sweepFinishMarked_ok committed
    subst same
    exact ⟨rows_of_untouched, rfl, rfl, nofun, fun _ _ => rfl, fun _ member => member,
      fun _ member => member, rfl⟩
  | discovered =>
    cases committed
    refine ⟨rows_of_untouched, rfl, rfl, nofun, fun _ _ => rfl, fun known member => ?_,
      fun _ member => member, rfl⟩
    obtain ⟨job, jobMem, same⟩ := List.mem_map.mp member
    exact List.mem_map.mpr ⟨job, journal.jobs.mem_insertOrIgnore jobMem, same⟩
  | epochFound =>
    cases committed
    refine ⟨rows_of_untouched, rfl, rfl, nofun, fun _ _ => rfl, fun _ member => member,
      fun known member => ?_, rfl⟩
    obtain ⟨work, workMem, same⟩ := List.mem_map.mp member
    exact List.mem_map.mpr ⟨work, journal.epochWork.mem_insertOrIgnore workMem, same⟩
  | laneStarted =>
    cases committed
    unfold setMetaOnce
    split <;>
      exact ⟨rows_of_untouched, rfl, rfl, nofun, fun _ _ => rfl, fun _ member => member,
        fun _ member => member, rfl⟩
  | prepared | membersState | expireUnstarted | updateJobs =>
    cases committed
    exact ⟨rows_of_untouched, rfl, rfl, nofun, fun _ _ => rfl,
      fun _ member => updateJobs_ids.symm ▸ member, fun _ member => member, rfl⟩
  | epochState | updateWork =>
    cases committed
    exact ⟨rows_of_untouched, rfl, rfl, nofun, fun _ _ => rfl, fun _ member => member,
      fun _ member => updateWork_keys.symm ▸ member, rfl⟩
  | openFor | sweepCancelRequest | sweepRefuse | setFinality =>
    cases committed
    exact ⟨rows_of_untouched, rfl, rfl, nofun, fun _ _ => rfl, fun _ member => member,
      fun _ member => member, rfl⟩

/-! ### The identifiers of the attempts -/

/-- The identifier of a new row is new. -/
theorem nextId_not_mem (rows : List Attempt) : nextId rows ∉ rows.map Attempt.id := by
  have bound : ∀ (ids : List ℕ), ∀ id ∈ ids, id ≤ ids.foldr max 0 := by
    intro ids
    induction ids with
    | nil => exact fun _ member => nomatch member
    | cons first rest inductionHypothesis =>
      intro id member
      rw [List.foldr_cons]
      rcases List.mem_cons.mp member with rfl | later
      · exact Nat.le_max_left _ _
      · exact Nat.le_trans (inductionHypothesis id later) (Nat.le_max_right _ _)
  intro member
  have small := bound _ _ member
  unfold nextId at small
  omega

/-- A call inserts nothing, or one attempt with the next identifier. -/
theorem Call.inserted_cases (call : Call) (journal : Journal) :
    call.inserted journal = [] ∨
      ∃ attempt, call.inserted journal = [attempt] ∧ attempt.id = nextId journal.txs.rows := by
  cases call with
  | signed attempt | signedBatch attempt => exact .inr ⟨_, rfl, rfl⟩
  | _ => exact .inl rfl

/-- No two attempts get one identifier. -/
theorem Call.Does.ids (does : call.Does journal after)
    (distinct : (journal.txs.rows.map Attempt.id).Nodup) :
    (after.txs.rows.map Attempt.id).Nodup := by
  have ids : (journal.txs.rows.map (call.change journal)).map Attempt.id =
      journal.txs.rows.map Attempt.id := by
    rw [List.map_map]
    exact List.map_congr_left fun attempt _ => (call.change_same journal attempt).id
  rw [does.rows, List.map_append, ids]
  rcases call.inserted_cases journal with none | ⟨attempt, one, isNext⟩
  · rw [none, List.map_nil, List.append_nil]
    exact distinct
  · rw [one, List.map_singleton, isNext]
    refine List.nodup_append.mpr ⟨distinct, List.nodup_singleton _, ?_⟩
    intro first firstMem second secondMem equal
    rw [List.mem_singleton] at secondMem
    exact nextId_not_mem _ (secondMem ▸ equal ▸ firstMem)

end D20.Journal
