/-
This file models the keeper's journal: the tables of the SQLite database the keeper writes before
it acts, and the transactions on them that move the nonce lane. A transaction is a function on
the journal that either commits, with the journal it leaves, or fails with the message of the
check that failed and changes nothing. The keys of `meta` that hold a record of their own (the
nonce floor, an operator's sweep, a recovery's fill, a finality mismatch) are fields here; every
other key is a text in `meta`.
-/

import Mathlib.Algebra.Group.Nat.Defs
import Mathlib.Data.List.Dedup
import D20Keeper.Table

/-- A block the keeper decides on. -/
structure D20.Worker.Head where
  number : ℕ
  hash : String
  timestamp : ℕ
  deriving DecidableEq, Repr

namespace D20.Journal

/-! ### Failing statements -/

/-- A check with the message it fails with. -/
def ensure (condition : Prop) [Decidable condition] (message : String) : Except String Unit :=
  if condition then .ok () else .error message

/-- A check passes exactly when its condition holds. -/
@[simp]
theorem ensure_eq_ok {condition : Prop} [Decidable condition] {message : String} {value : Unit} :
    ensure condition message = .ok value ↔ condition := by
  unfold ensure
  split
  case isTrue holds => exact ⟨fun _ => holds, fun _ => rfl⟩
  case isFalse fails => exact ⟨nofun, fun holds => absurd holds fails⟩

theorem ensure_of {condition : Prop} [Decidable condition] {message : String}
    (holds : condition) : ensure condition message = .ok () := ensure_eq_ok.mpr holds

/-- A sequence of statements commits exactly when each of them succeeds in turn. -/
theorem bind_eq_ok {First Second : Type} {first : Except String First}
    {next : First → Except String Second} {result : Second} :
    (first >>= next) = .ok result ↔ ∃ value, first = .ok value ∧ next value = .ok result := by
  cases first with
  | error => exact ⟨nofun, nofun⟩
  | ok value =>
    exact ⟨fun rest => ⟨value, rfl, rest⟩, fun ⟨_, same, rest⟩ => by cases same; exact rest⟩

/-- The greatest value of a signed 64-bit integer. -/
def maxI64 : ℕ := 2 ^ 63 - 1

/-- `i64::try_from` of an unsigned value. -/
def tryI64 (value : ℕ) : Except String ℕ :=
  if value ≤ maxI64 then .ok value
  else .error "out of range integral type conversion attempted"

@[simp]
theorem tryI64_eq_ok {value result : ℕ} :
    tryI64 value = .ok result ↔ value ≤ maxI64 ∧ value = result := by
  unfold tryI64
  split
  case isTrue small => simp only [Except.ok.injEq, small, true_and]
  case isFalse large => simp only [large, false_and, reduceCtorEq]

/-- `CAST(text AS INTEGER)` of a decimal: a value above the largest integer becomes the largest. -/
def castInteger (value : ℕ) : ℕ := min value maxI64

/-! ### Rows -/

/-- The transactions the lane carries: a fulfillment, a batch, an epoch commit, and the zero-value
transactions that cancel the nonce of one of them. -/
inductive TxKind
  | fulfill
  | cancel
  | epoch
  | epochCancel
  | fulfillBatch
  deriving DecidableEq, Repr

/-- `kind.starts_with("epoch")`. -/
def TxKind.isEpoch : TxKind → Bool
  | .epoch | .epochCancel => true
  | .fulfill | .cancel | .fulfillBatch => false

/-- The states of an attempt. -/
inductive TxState
  | signed
  | submitted
  | parkedSigned
  | parkedSubmitted
  | resolved
  deriving DecidableEq, Repr

/-- `state IN ('signed','submitted')`: the attempt is in the nonce lane. -/
def TxState.active : TxState → Bool
  | .signed | .submitted => true
  | .parkedSigned | .parkedSubmitted | .resolved => false

/-- `state IN ('parked_signed','parked_submitted')`. -/
def TxState.parked : TxState → Bool
  | .parkedSigned | .parkedSubmitted => true
  | .signed | .submitted | .resolved => false

/-- `'parked_'||state` of an active attempt. -/
def TxState.park : TxState → TxState
  | .signed => .parkedSigned
  | .submitted => .parkedSubmitted
  | other => other

/-- `substr(state,8)` of a parked attempt. -/
def TxState.unpark : TxState → TxState
  | .parkedSigned => .signed
  | .parkedSubmitted => .submitted
  | other => other

/-- A row of `txs`: one signed transaction and the work it was signed for. -/
structure Attempt where
  id : ℕ := 0
  job : String
  nonce : ℕ
  hash : String
  raw : String
  kind : TxKind
  fee : String
  state : TxState := .signed
  gas : ℕ
  priority : String
  payload : String
  created : ℕ
  broadcast : ℕ := 0
  deriving DecidableEq, Repr

/-- The states of a request's job. -/
inductive JobState
  | pending
  | prepared
  | blocked
  | signed
  | submitted
  | served
  | callbackFailed
  | refunded
  | expired
  | ignored
  | vanished
  | inconsistent
  deriving DecidableEq, Repr

/-- A row of `jobs`. -/
structure Job where
  id : String
  deadline : ℤ
  state : JobState := .pending
  proof : Option String := none
  call : Option String := none
  deriving DecidableEq, Repr

theorem Job.id_withState (state : JobState) (job : Job) :
    ({ job with state := state } : Job).id = job.id := rfl

theorem Job.id_unproved (job : Job) :
    ({ job with state := .pending, proof := none, call := none } : Job).id = job.id := rfl

/-- The states of an epoch's work. -/
inductive EpochState
  | pending
  | prepared
  | blocked
  | signed
  | submitted
  | committed
  | expired
  | inconsistent
  deriving DecidableEq, Repr

/-- A row of `epoch_work`, with the columns the lane and the compaction touch. -/
structure EpochWork where
  key : String
  state : EpochState := .pending
  api : Option String := none
  selection : Option String := none
  deriving DecidableEq, Repr

/-- A row of `batch_members`. The rows of one batch stand in the order of their position. -/
structure BatchMember where
  job : String
  requestId : String
  deriving DecidableEq, Repr

/-- What a soft mark records. -/
inductive MarkKind
  | receipt
  | head
  | sign
  | nonce
  deriving DecidableEq, Repr

/-- A row of `soft_marks`: a block the keeper acted on, written with the action. -/
structure Mark where
  kind : MarkKind
  number : ℕ
  hash : String
  reference : String
  created : ℕ
  status : Option ℕ := none
  deriving DecidableEq, Repr

/-- The primary key of `soft_marks`. -/
def Mark.key (mark : Mark) : ℕ × MarkKind × String := (mark.number, mark.kind, mark.reference)

/-- A row of `finalized_receipts`. -/
structure FinalizedReceipt where
  hash : String
  blockNumber : ℕ
  blockHash : String
  status : ℕ
  deriving DecidableEq, Repr

/-! ### Records kept under keys of `meta` -/

/-- What an operator's sweep sends: an amount, or everything above an amount. -/
inductive SweepMode
  | amount
  | keep
  deriving DecidableEq, Repr

/-- A queued sweep. -/
structure SweepRequest where
  mode : SweepMode
  wei : String
  requestedAt : ℕ
  deriving DecidableEq, Repr

/-- The transactions of a sweep or a fill: the transfer, or a zero-value cancellation. -/
inductive TransferKind
  | sweep
  | cancel
  deriving DecidableEq, Repr

/-- A signed transfer that is kept outside `txs`. -/
structure SignedTx where
  kind : TransferKind
  hash : String
  raw : String
  gas : ℕ
  fee : String
  priority : String
  created : ℕ
  broadcast : ℕ := 0
  deriving DecidableEq, Repr

/-- A sweep in flight: its nonce and the transactions signed for it. -/
structure SweepAttempt where
  request : SweepRequest
  nonce : ℕ
  recipient : String
  value : String
  txs : List SignedTx
  deriving DecidableEq, Repr

/-- How a sweep ended. -/
inductive SweepState
  | sent
  | reverted
  | cancelled
  | refused
  deriving DecidableEq, Repr

/-- The record of the last sweep. -/
structure SweepOutcome where
  state : SweepState
  detail : String
  recipient : Option String
  value : Option String
  txHash : Option String
  requestedAt : ℕ
  finishedAt : ℕ
  deriving DecidableEq, Repr

/-- A nonce the recovery fills with a zero-value transfer. -/
structure Fill where
  nonce : ℕ
  stale : Bool
  known : List String
  txs : List SignedTx
  deriving DecidableEq, Repr

/-- The records of the journal that a finality mismatch can name. -/
inductive MismatchKind
  | mark (kind : MarkKind)
  | softCheckpoint
  | finalizedReceipt
  | finalizedCheckpoint
  deriving DecidableEq, Repr

/-- A block the keeper acted on that is not the chain's. -/
structure Mismatch where
  kind : MismatchKind
  number : ℕ
  reference : String
  expected : String
  actual : String
  detectedAt : ℕ
  deriving DecidableEq, Repr

/-- Whether the keeper decides on finalized blocks or on the sequencer's latest ones. -/
inductive FinalityMode
  | finalized
  | soft
  deriving DecidableEq, Repr

end D20.Journal

/-- The journal: its tables, and the keys of `meta` with a record of their own. -/
structure D20.Journal where
  jobs : Table Journal.Job String Journal.Job.id
  txs : Table Journal.Attempt String Journal.Attempt.hash
  epochWork : Table Journal.EpochWork String Journal.EpochWork.key
  batchMembers : Table Journal.BatchMember (String × String) fun member =>
    (member.job, member.requestId)
  softMarks : Table Journal.Mark (ℕ × Journal.MarkKind × String) Journal.Mark.key
  finalizedReceipts : Table Journal.FinalizedReceipt String Journal.FinalizedReceipt.hash
  nonceFloor : ℕ
  sweepRequest : Option Journal.SweepRequest
  sweepAttempt : Option Journal.SweepAttempt
  sweepLast : Option Journal.SweepOutcome
  fill : Option Journal.Fill
  mismatch : Option Journal.Mismatch
  finalizedCheckpoint : Option (ℕ × String)
  compactAfter : ℕ
  metaText : String → Option String

namespace D20.Journal

/-- The journal of a keeper that has just created it. -/
def fresh : Journal where
  jobs := .empty
  txs := .empty
  epochWork := .empty
  batchMembers := .empty
  softMarks := .empty
  finalizedReceipts := .empty
  nonceFloor := 0
  sweepRequest := none
  sweepAttempt := none
  sweepLast := none
  fill := none
  mismatch := none
  finalizedCheckpoint := none
  compactAfter := 0
  metaText := fun _ => none

/-! ### Statements that several transactions issue -/

/-- `INSERT … ON CONFLICT(key) DO UPDATE SET value=excluded.value`. -/
def setMeta (journal : Journal) (key value : String) : Journal :=
  { journal with metaText := fun other => if other = key then some value else journal.metaText other }

/-- `INSERT OR IGNORE INTO meta`. -/
def setMetaOnce (journal : Journal) (key value : String) : Journal :=
  if (journal.metaText key).isSome then journal else journal.setMeta key value

/-- `DELETE FROM meta WHERE …`. -/
def deleteMeta (journal : Journal) (condition : String → Bool) : Journal :=
  { journal with metaText := fun key => if condition key then none else journal.metaText key }

variable {journal : Journal} {key : String}

/-- A key other than the one that is set keeps its text. -/
theorem metaText_setMeta_of_ne {other value : String} (different : key ≠ other) :
    (journal.setMeta other value).metaText key = journal.metaText key := by
  unfold setMeta
  exact if_neg different

/-- `UPDATE jobs SET … WHERE …`. -/
def updateJobs (journal : Journal) (condition : Job → Bool) (change : Job → Job)
    (kept : ∀ job, (change job).id = job.id) : Journal :=
  { journal with jobs := journal.jobs.update condition change kept }

/-- An update of jobs keeps their identifiers. -/
theorem updateJobs_ids {journal : Journal} {condition : Job → Bool} {change : Job → Job}
    {kept : ∀ job, (change job).id = job.id} :
    (journal.updateJobs condition change kept).jobs.rows.map Job.id =
      journal.jobs.rows.map Job.id :=
  journal.jobs.map_key_update condition change kept

/-- The jobs after an update. -/
theorem mem_updateJobs {condition : Job → Bool} {change : Job → Job}
    {kept : ∀ job, (change job).id = job.id} {job : Job} :
    job ∈ (journal.updateJobs condition change kept).jobs.rows ↔
      ∃ old ∈ journal.jobs.rows, (if condition old then change old else old) = job :=
  journal.jobs.mem_update condition change kept

/-- `UPDATE epoch_work SET … WHERE …`. -/
def updateWork (journal : Journal) (condition : EpochWork → Bool)
    (change : EpochWork → EpochWork) (kept : ∀ work, (change work).key = work.key) : Journal :=
  { journal with epochWork := journal.epochWork.update condition change kept }

/-- An update of epoch work keeps its keys. -/
theorem updateWork_keys {condition : EpochWork → Bool} {change : EpochWork → EpochWork}
    {kept : ∀ work, (change work).key = work.key} :
    (journal.updateWork condition change kept).epochWork.rows.map EpochWork.key =
      journal.epochWork.rows.map EpochWork.key :=
  journal.epochWork.map_key_update condition change kept

/-- `UPDATE epoch_work SET state=? WHERE key=?`. -/
def setEpochState (journal : Journal) (key : String) (state : EpochState) : Journal :=
  journal.updateWork (fun work => work.key == key) (fun work => { work with state := state })
    fun _ => rfl

theorem setEpochState_keys {state : EpochState} :
    (journal.setEpochState key state).epochWork.rows.map EpochWork.key =
      journal.epochWork.rows.map EpochWork.key := updateWork_keys

variable (journal)

/-- `UPDATE txs SET state=… WHERE …`. -/
def setTxState (condition : Attempt → Bool) (state : TxState → TxState) :
    Journal :=
  { journal with
    txs := journal.txs.update condition
      (fun attempt => { attempt with state := state attempt.state }) fun _ => rfl }

/-- The update of `nonce_floor`, which never lowers it. -/
def raiseFloor (next : ℕ) : Journal :=
  { journal with nonceFloor := max (castInteger journal.nonceFloor) (castInteger next) }

/-- `SELECT request_id FROM batch_members WHERE job=? ORDER BY position`. -/
def membersIn (job : String) : List String :=
  (journal.batchMembers.rows.filter fun member => member.job == job).map BatchMember.requestId

/-- `SELECT * FROM txs WHERE state IN ('signed','submitted') ORDER BY id`. -/
def unresolved : List Attempt :=
  journal.txs.rows.filter fun attempt => attempt.state.active

/-- Record a mark in the transaction of the action it justifies. The same mark again changes
nothing; another hash or status for the same block, kind and reference is a conflict. -/
def writeMark (mark : Mark) : Except String Journal := do
  ensure (mark.kind ≠ .head) "A head mark is written with the soft checkpoint"
  let _ ← tryI64 mark.number
  let _ ← tryI64 (mark.status.getD 0)
  let _ ← tryI64 mark.created
  let marks := journal.softMarks.insertOrIgnore mark
  ensure (marks.rows.any fun stored =>
    stored.key == mark.key && stored.hash == mark.hash && stored.status == mark.status)
    "Soft mark conflict"
  return { journal with softMarks := marks }

/-- `if let Some(mark) = mark`. -/
def writeMarks : Option Mark → Except String Journal
  | none => .ok journal
  | some mark => journal.writeMark mark

/-! ### Signing -/

/-- Batch attempts own a synthetic job key. -/
def isBatchJob (job : String) : Bool := "batch:".toList.isPrefixOf job.toList

/-- Coordinator limit on the members of a batch. -/
def maxBatchMembers : ℕ := 16

/-- The key of an ordered member list; `digest` is the hexadecimal text of the first eight bytes
of the keccak256 hash of a text. -/
def batchKey (digest : String → String) (members : List String) : Except String String := do
  ensure (2 ≤ members.length ∧ members.length ≤ maxBatchMembers) "Batch member count out of range"
  return "batch:" ++ (members.headD "" ++ ":" ++ toString members.length ++ ":" ++
    digest (",".intercalate members))

/-- The row identifier SQLite gives to the next row. -/
def nextId (rows : List Attempt) : ℕ := (rows.map Attempt.id).foldr max 0 + 1

/-- The columns an inserted attempt starts with. -/
def Attempt.inserted (attempt : Attempt) (id : ℕ) : Attempt :=
  { attempt with id := id, state := .signed, broadcast := 0 }

/-- Take the nonce lane for an attempt: no attempt of another nonce or another job is live, no
operator's sweep is on record, and then the signed transaction is inserted. -/
def claimLane (attempt : Attempt) : Except String Journal := do
  ensure (journal.txs.count (fun live => live.state.active &&
    (live.nonce != attempt.nonce || live.job != attempt.job)) = 0)
    "Another game or epoch already owns the nonce lane"
  ensure (journal.sweepAttempt = none) "An operator sweep owns the nonce lane"
  match journal.txs.insert (attempt.inserted (nextId journal.txs.rows)) with
  | none => .error "UNIQUE constraint failed: txs.hash"
  | some txs => .ok { journal with txs := txs }

variable {journal}

/-- Members enter a batch prepared and stay signed or submitted until the nonce resolves. -/
def Job.canSign (job : Job) : Bool :=
  job.state == .prepared || job.state == .signed || job.state == .submitted

/-- Mark every member of a batch signed, or fail at the first that is not prepared or live. -/
def markMembersSigned (journal : Journal) : List String → Except String Journal
  | [] => .ok journal
  | id :: rest => do
    ensure (journal.jobs.count (fun job => job.id == id && job.canSign) = 1)
      ("Batch member " ++ id ++ " is not prepared or live in the journal")
    (journal.updateJobs (fun job => job.id == id && job.canSign)
      (fun job => { job with state := .signed }) fun _ => rfl).markMembersSigned rest

/-- Journal a signed transaction that is not a batch: the lane, the mark and the state of the
work it serves commit together. -/
def signedMarked (journal : Journal) (attempt : Attempt) (mark : Option Mark) :
    Except String Journal := do
  ensure (attempt.kind ≠ .fulfillBatch) "Unknown transaction work kind"
  ensure (¬(attempt.kind = .fulfill ∧ isBatchJob attempt.job))
    "A single fulfillment cannot target a batch job"
  let claimed ← journal.claimLane attempt
  let marked ← claimed.writeMarks mark
  if attempt.kind.isEpoch then
    ensure (marked.epochWork.count (fun work => work.key == attempt.job) = 1)
      "Epoch work missing from journal"
    return marked.setEpochState attempt.job .signed
  else if isBatchJob attempt.job then
    let members := marked.membersIn attempt.job
    ensure (members ≠ []) "Batch members missing from journal"
    marked.markMembersSigned members
  else
    ensure (marked.jobs.count (fun job => job.id == attempt.job) = 1)
      "Game work missing from journal"
    return marked.updateJobs (fun job => job.id == attempt.job)
      (fun job => { job with state := .signed }) fun _ => rfl

/-- The live attempts of another job that carry a request. -/
def memberLaneConflicts (journal : Journal) (job id : String) : ℕ :=
  journal.txs.count fun live => live.state.active && live.job != job &&
    (live.job == id || journal.batchMembers.rows.any fun member =>
      member.requestId == id && member.job == live.job)

/-- No member of a batch is live in another nonce. -/
def checkMembers (journal : Journal) (job : String) : List String → Except String Unit
  | [] => .ok ()
  | id :: rest => do
    ensure (journal.memberLaneConflicts job id = 0)
      ("Request " ++ id ++ " is already live in another nonce; refusing a second attempt")
    journal.checkMembers job rest

/-- Insert the members of a batch in their order. -/
def insertMembers (journal : Journal) (job : String) : List String → Except String Journal
  | [] => .ok journal
  | id :: rest =>
    match journal.batchMembers.insert { job := job, requestId := id } with
    | none => .error "UNIQUE constraint failed: batch_members.job, batch_members.request_id"
    | some members => insertMembers { journal with batchMembers := members } job rest

/-- Journal a signed batch: the lane, the mark, the member list and every member's state commit
together. A replacement carries the identical member list. -/
def signedBatchMarked (digest : String → String) (journal : Journal) (attempt : Attempt)
    (members : List String) (mark : Option Mark) : Except String Journal := do
  ensure (attempt.kind = .fulfillBatch) "Not a batch attempt"
  let key ← batchKey digest members
  ensure (attempt.job = key) "Batch key does not match its members"
  ensure members.Nodup "Duplicate batch member"
  journal.checkMembers attempt.job members
  let claimed ← journal.claimLane attempt
  let marked ← claimed.writeMarks mark
  let existing := marked.membersIn attempt.job
  if existing = [] then
    let listed ← marked.insertMembers attempt.job members
    listed.markMembersSigned members
  else
    ensure (existing = members) "Batch member list changed between attempts"
    marked.markMembersSigned members

variable (journal)

/-- `tx_state(id, "submitted")` after a broadcast. -/
def txSubmitted (id : ℕ) : Journal :=
  journal.setTxState (fun attempt => attempt.id == id) fun _ => .submitted

/-- Record when an attempt was last broadcast. -/
def broadcastAttempt (id now : ℕ) : Journal :=
  { journal with
    txs := journal.txs.update (fun attempt => attempt.id == id)
      (fun attempt => { attempt with broadcast := now }) fun _ => rfl }

/-! ### Resolving a nonce -/

variable (nonce : ℕ)

/-- `nonce.checked_add(1)` of a signed 64-bit nonce. -/
def nextNonce : Except String ℕ :=
  if nonce + 1 ≤ maxI64 then .ok (nonce + 1) else .error "Nonce overflow"

@[simp]
theorem nextNonce_eq_ok {nonce next : ℕ} :
    nextNonce nonce = .ok next ↔ nonce + 1 ≤ maxI64 ∧ nonce + 1 = next := by
  unfold nextNonce
  split
  case isTrue small => simp only [Except.ok.injEq, small, true_and]
  case isFalse large => simp only [large, false_and, reduceCtorEq]

/-- Every attempt of a nonce is resolved and the floor moves past it. -/
def settleNonce (nonce next : ℕ) : Journal :=
  (journal.setTxState (fun attempt => attempt.nonce == nonce) fun _ => .resolved).raiseFloor next

/-- Resolve a nonce without touching the work it served. -/
def resolveNonce : Except String Journal := do
  let next ← nextNonce nonce
  return journal.settleNonce nonce next

/-- The state a job takes when its nonce resolves: one that is set as it is, or `reprove`. -/
inductive Resolution
  | state (state : JobState)
  | reprove
  deriving DecidableEq, Repr

/-- Forget a job's preparation and preflight backoffs and its exclusion from batches. -/
def clearBackoffs (job : String) : Journal :=
  journal.deleteMeta fun key => key == "prepare_retry_ms:" ++ job ||
    key == "preflight_retry:" ++ job || key == "batch_exclude:" ++ job

/-- The state of a job after its nonce resolved; `reprove` returns it to `pending` without its
proof, calldata and backoffs. -/
def setResolvedState (job : String) : Resolution → Journal
  | .state state => journal.updateJobs (fun row => row.id == job)
      (fun row => { row with state := state }) (Job.id_withState state)
  | .reprove => (journal.clearBackoffs job).updateJobs (fun row => row.id == job)
      (fun row => { row with state := .pending, proof := none, call := none }) Job.id_unproved

/-- Resolve the nonce of a single request. -/
def resolveNonceJobMarked (job : String) (state : Resolution)
    (mark : Option Mark) : Except String Journal := do
  let next ← nextNonce nonce
  let marked ← journal.writeMarks mark
  let settled := marked.settleNonce nonce next
  ensure (settled.jobs.count (fun row => row.id == job) = 1) "Receipt job missing from journal"
  return settled.setResolvedState job state

/-- Resolve the nonce of an epoch commit. -/
def resolveNonceEpochMarked (key : String) (state : EpochState)
    (mark : Option Mark) : Except String Journal := do
  let next ← nextNonce nonce
  let marked ← journal.writeMarks mark
  let settled := marked.settleNonce nonce next
  ensure (settled.epochWork.count (fun work => work.key == key) = 1)
    "Epoch receipt missing from journal"
  return settled.setEpochState key state

/-- The state of one member of a resolved batch. A member that returns to `prepared` keeps its
calldata, is left out of later batches and loses its preflight backoff. -/
def resolveMember (id : String) : Resolution → Journal
  | .state .prepared =>
    ((journal.updateJobs (fun row => row.id == id)
      (fun row => { row with state := if row.call.isNone then .pending else .prepared })
      fun _ => rfl).setMetaOnce ("batch_exclude:" ++ id) "1").deleteMeta
        fun key => key == "preflight_retry:" ++ id
  | state => journal.setResolvedState id state

variable {journal}

/-- Resolve the members of a batch one by one. -/
def resolveMembers (journal : Journal) : List (String × Resolution) → Except String Journal
  | [] => .ok journal
  | (id, state) :: rest => do
    ensure (journal.jobs.count (fun row => row.id == id) = 1)
      ("Batch member " ++ id ++ " missing from journal")
    (journal.resolveMember id state).resolveMembers rest

variable (journal)

/-- Resolve the nonce of a batch; the states account for exactly the journaled members. -/
def resolveNonceBatchMarked (key : String)
    (states : List (String × Resolution)) (mark : Option Mark) : Except String Journal := do
  let next ← nextNonce nonce
  let members := journal.membersIn key
  ensure (members ≠ []) "Batch members missing from journal"
  let accounted := (states.map Prod.fst).dedup
  ensure (accounted.length = states.length ∧ accounted.length = members.length ∧
    ∀ id ∈ members, id ∈ accounted)
    "Batch resolution does not account for every member exactly once"
  let marked ← journal.writeMarks mark
  (marked.settleNonce nonce next).resolveMembers states

/-! ### Recovery -/

/-- What `reopenNonce` did. -/
inductive Reopened
  | lane
  | noBytes
  deriving DecidableEq, Repr

/-- The work of a reopened attempt is submitted again: an epoch, the members of a batch or a
request. -/
def reopenWork : String × Bool → Journal
  | (job, true) => journal.setEpochState job .submitted
  | (job, false) =>
    if isBatchJob job then
      let members := journal.membersIn job
      journal.updateJobs (fun row => members.contains row.id)
        (fun row => { row with state := .submitted }) fun _ => rfl
    else
      journal.updateJobs (fun row => row.id == job)
        (fun row => { row with state := .submitted }) fun _ => rfl

/-- Delete the marks of the receipts of some transactions and of a nonce. -/
def deleteMarks (hashes : List String) (nonce : ℕ) : Journal :=
  { journal with
    softMarks := journal.softMarks.delete fun mark =>
      (mark.kind == .receipt && hashes.contains mark.reference) ||
        (mark.kind == .nonce && mark.reference == toString nonce) }

/-- The attempts of a nonce are submitted again, stamped with the chain's time and unbroadcast. -/
def restartAttempts (nonce now : ℕ) : Journal :=
  { journal with
    txs := journal.txs.update (fun attempt => attempt.nonce == nonce)
      (fun attempt => { attempt with state := .submitted, created := now, broadcast := 0 })
      fun _ => rfl }

/-- `SELECT … FROM txs WHERE nonce=? ORDER BY id`. -/
def attemptsOf : List Attempt :=
  journal.txs.rows.filter fun attempt => attempt.nonce == nonce

/-- There is no signed transaction, or the last one's bytes are gone. -/
def bytesGone (rows : List Attempt) : Bool := rows.getLast?.all fun last => last.raw == ""

/-- Take the attempts of a nonce back into the lane and park every other live attempt. Without
signed bytes for the last of them nothing is changed. -/
def reopenNonce (nonce chainTime wallTime : ℕ) :
    Except String (Reopened × Journal) := do
  let nonce ← tryI64 nonce
  let now ← tryI64 chainTime
  let rows := journal.attemptsOf nonce
  if bytesGone rows then
    return (.noBytes, journal)
  else
    let parked := journal.setTxState
      (fun attempt => attempt.state.active && attempt.nonce != nonce) TxState.park
    let unmarked := parked.deleteMarks (rows.map Attempt.hash) nonce
    let restarted := unmarked.restartAttempts nonce now
    let work := (rows.map fun attempt => (attempt.job, attempt.kind.isEpoch)).dedup
    return (.lane, (work.foldl reopenWork restarted).setMeta
      ("nonce_started:" ++ toString nonce) (toString wallTime))

/-- Start the recovery's fill of a nonce: every live attempt is parked and the fill is saved. -/
def beginFill (fill : Fill) : Journal :=
  { journal.setTxState (fun attempt => attempt.state.active) TxState.park with fill := some fill }

/-- `set_meta_marked` of the fill: a transaction signed to fill the nonce, with its mark. -/
def setFillMarked (fill : Fill) (mark : Option Mark) : Except String Journal :=
  ({ journal with fill := some fill } : Journal).writeMarks mark

/-- The fill of a nonce is settled: the old marks of the nonce go, the fresh one is written and
the fill is deleted. The nonce floor does not move. -/
def settleFill (hashes : List String) (mark : Option Mark) :
    Except String Journal := do
  let marked ← (journal.deleteMarks hashes nonce).writeMarks mark
  return { marked with fill := none }

/-- Return the parked attempts to the lane in the state they had. -/
def unparkLanes : Journal :=
  journal.setTxState (fun attempt => attempt.state.parked) TxState.unpark

/-- The finalized record a mismatch named goes with it. -/
def dropFinalized : Option Mismatch → Journal
  | none => journal
  | some recorded =>
    match recorded.kind with
    | .finalizedReceipt =>
      { journal with
        finalizedReceipts := journal.finalizedReceipts.delete fun receipt =>
          receipt.hash == recorded.reference && receipt.blockNumber == recorded.number &&
            receipt.blockHash == recorded.expected }
    | .finalizedCheckpoint =>
      { journal with
        finalizedCheckpoint :=
          if journal.finalizedCheckpoint = some (recorded.number, recorded.expected) then none
          else journal.finalizedCheckpoint }
    | .mark _ | .softCheckpoint => journal

/-- The keys a cleared incident deletes from `meta`, apart from the mismatch itself. -/
def incidentKey (key : String) : Bool :=
  key == "finality:ack" || key == "finality:alerted" || key == "finality:unconfirmed_alerted" ||
    key == "finality:suspected" || "finality:recovery:".toList.isPrefixOf key.toList

/-- The recovery is complete: the parked attempts return to the lane, and the mismatch and
everything the recovery kept go. -/
def clearFinalityIncident (summary : String) : Journal :=
  let unparked := (journal.dropFinalized journal.mismatch).unparkLanes
  ({ unparked.deleteMeta incidentKey with mismatch := none, fill := none } : Journal).setMeta
    "finality:last_recovery" summary

/-! ### Compaction -/

/-- A job in the lane: it has an attempt that is not resolved. -/
def jobInFlight (job : String) : Bool :=
  journal.txs.rows.any fun attempt => attempt.job == job && attempt.state != .resolved

/-- A request that is a member of a batch in the lane. -/
def memberInFlight (id : String) : Bool :=
  journal.batchMembers.rows.any fun member =>
    member.requestId == id && journal.jobInFlight member.job

/-- The rows one compaction touches at most. -/
def compactLimit : ℕ := 128

/-- The jobs whose proof and calldata are no longer used. -/
def compactableJob (job : Job) : Bool :=
  (job.state == .served || job.state == .callbackFailed || job.state == .refunded ||
    job.state == .expired || job.state == .ignored) &&
  (job.proof.isSome || job.call.isSome) &&
  !journal.jobInFlight job.id && !journal.memberInFlight job.id

/-- The epochs whose packet and selection are no longer used. -/
def compactableEpoch (work : EpochWork) : Bool :=
  (work.state == .committed || work.state == .expired) &&
  (work.api.isSome || work.selection.isSome) && !journal.jobInFlight work.key

/-- The attempts whose bytes are no longer used: resolved ones whose nonce and job are not in
flight, and in soft mode only once their receipt is final. -/
def compactableTx (mode : FinalityMode) (attempt : Attempt) : Bool :=
  attempt.state == .resolved && (attempt.raw != "" || attempt.payload != "") &&
  !(journal.txs.rows.any fun live => live.nonce == attempt.nonce && live.state != .resolved) &&
  !journal.jobInFlight attempt.job &&
  match mode with
  | .finalized => true
  | .soft => journal.finalizedReceipts.rows.any fun receipt => receipt.hash == attempt.hash

/-- Remove replay data that can no longer be used, at most once a minute. -/
def compactHistoryFor (now : ℕ) (mode : FinalityMode) :
    Except String Journal := do
  let now ← tryI64 now
  if now < journal.compactAfter then
    return journal
  else
    let jobs := ((journal.jobs.rows.filter journal.compactableJob).map Job.id).take compactLimit
    let keys := ((journal.epochWork.rows.filter journal.compactableEpoch).map
      EpochWork.key).take compactLimit
    let ids := ((journal.txs.rows.filter (journal.compactableTx mode)).map
      Attempt.id).take compactLimit
    return { journal with
      jobs := journal.jobs.update (fun job => jobs.contains job.id)
        (fun job => { job with proof := none, call := none }) fun _ => rfl
      epochWork := journal.epochWork.update (fun work => keys.contains work.key)
        (fun work => { work with api := none, selection := none }) fun _ => rfl
      txs := journal.txs.update (fun attempt => ids.contains attempt.id)
        (fun attempt => { attempt with raw := "", payload := "" }) fun _ => rfl
      compactAfter := min (now + 60) maxI64 }

/-! ### Operator sweeps -/

/-- Queue a sweep. Only one request or attempt may exist at a time. -/
def sweepSubmit (request : SweepRequest) : Except String Journal := do
  ensure (journal.sweepRequest = none ∧ journal.sweepAttempt = none)
    "A sweep is already queued or in flight; check `sweep --status`"
  return { journal with sweepRequest := some request }

/-- Remove a queued request that has not been signed yet. -/
def sweepCancelRequest : Journal := { journal with sweepRequest := none }

/-- A request that cannot be signed is dropped with its reason. -/
def sweepRefuse (request : SweepRequest) (detail : String) (now : ℕ) :
    Journal :=
  { journal with
    sweepRequest :=
      if journal.sweepRequest = some request then none else journal.sweepRequest
    sweepLast := some
      { state := .refused, detail := detail, recipient := none, value := none, txHash := none,
        requestedAt := request.requestedAt, finishedAt := now } }

/-- The request becomes an attempt, before any broadcast. The lane must be free. -/
def sweepStartMarked (attempt : SweepAttempt) (mark : Option Mark) :
    Except String Journal := do
  ensure (journal.txs.count (fun live => live.state.active) = 0)
    "A game or epoch attempt owns the nonce lane; sweep not signed"
  let nonce ← tryI64 attempt.nonce
  ensure (castInteger journal.nonceFloor ≤ nonce) "Sweep nonce below the durable nonce floor"
  ensure (journal.sweepRequest = some attempt.request) "Sweep request changed before signing"
  ensure (journal.sweepAttempt = none) "A sweep is already in flight"
  ({ journal with sweepRequest := none, sweepAttempt := some attempt } : Journal).writeMarks mark

/-- Persist a replacement or broadcast time of the sweep on record. -/
def sweepSaveMarked (attempt : SweepAttempt) (mark : Option Mark) :
    Except String Journal := do
  ensure (journal.sweepAttempt.isSome) "Sweep attempt missing"
  ({ journal with sweepAttempt := some attempt } : Journal).writeMarks mark

/-- A receipt resolves the sweep: the outcome, the cleared attempt and the nonce floor commit
together. The nonce is unsigned, so that only the last of 2^64 overflows. -/
def sweepFinishMarked (outcome : SweepOutcome) (mark : Option Mark) : Except String Journal := do
  ensure (nonce + 1 < 2 ^ 64) "Nonce overflow"
  let marked ← journal.writeMarks mark
  ensure (marked.sweepAttempt.isSome) "Sweep attempt missing"
  return ({ marked with sweepAttempt := none, sweepLast := some outcome } : Journal).raiseFloor
    (nonce + 1)

variable {journal}

/-! ### Opening the journal, and the work the lane serves -/

/-- Opening an existing journal raises the floor past every resolved attempt. -/
def openFor (journal : Journal) : Journal :=
  journal.raiseFloor (((journal.txs.rows.filter fun attempt => attempt.state == .resolved).map
    fun attempt => attempt.nonce + 1).foldr max 0)

/-- A request found by discovery, with the cursor past it. -/
def discovered (journal : Journal) (id : String) (deadline : ℤ) (next : String) : Journal :=
  ({ journal with
    jobs := journal.jobs.insertOrIgnore { id := id, deadline := deadline } } : Journal).setMeta
      "cursor" next

/-- An epoch whose commit the keeper may publish. -/
def epochFound (journal : Journal) (key : String) : Journal :=
  { journal with epochWork := journal.epochWork.insertOrIgnore { key := key } }

/-- A request is proven: its proof and calldata are kept unless it has some already. -/
def prepared (journal : Journal) (id proof call : String) : Journal :=
  journal.updateJobs (fun job => job.id == id)
    (fun job => { job with
      proof := some (job.proof.getD proof)
      call := some (job.call.getD call)
      state := .prepared }) fun _ => rfl

/-- Move every member of a batch together. -/
def membersState (journal : Journal) (job : String) (state : JobState) : Journal :=
  let members := journal.membersIn job
  journal.updateJobs (fun row => members.contains row.id)
    (fun row => { row with state := state }) fun _ => rfl

/-- Drop work that was not started before its deadline. -/
def expireUnstarted (journal : Journal) (now : ℤ) : Journal :=
  journal.updateJobs
    (fun job => decide (job.deadline < now) &&
      (job.state == .pending || job.state == .prepared || job.state == .blocked))
    (fun job => { job with state := .expired }) fun _ => rfl

end D20.Journal
