/-
This file models the queue of an epoch coordinator's requests: the page of jobs a preparation
claims, the page of prepared jobs, the prepared jobs that are left out of batches and the epoch that
demand waits for. Records about a request lie in tables and in keys of `meta` that carry its id, and
a new request finds what lies under its id. It also models how a migration makes the destination's
journal from a copy of the source's: for another coordinator it deletes the jobs, the members of
batches and some of these keys.
-/

import Mathlib.Data.Prod.Lex
import Mathlib.Data.String.Basic
import D20Keeper.DecimalText
import D20Keeper.EpochLane
import D20Keeper.Migration
import D20Keeper.Page

namespace D20.JobBook

open Evm Journal
open EpochLane (EpochDemand)

/-- A row of `round_demand`. -/
structure RoundDemand where
  job : String
  beacon : ℕ
  round : ℕ
  fingerprint : Bytes32
  sealingLagMs : Option ℤ
  seenAt : ℕ
  deriving DecidableEq

end D20.JobBook

/-- The journal with what its jobs wait for. -/
structure D20.JobBook where
  journal : Journal
  epochDemand : Table EpochLane.EpochDemand String EpochLane.EpochDemand.job
  roundDemand : Table JobBook.RoundDemand String JobBook.RoundDemand.job

namespace D20.JobBook

open Evm Journal
open EpochLane (EpochDemand)

/-- `state`: write the state of a job. -/
def setState (book : JobBook) (id : String) (state : JobState) : JobBook :=
  { book with
    journal := book.journal.updateJobs (fun job => job.id == id)
      (fun job => { job with state := state }) (Job.id_withState state) }

/-- `discovered_epoch`: a request found by discovery, the epoch it waits for and the cursor past
it. -/
def discoveredEpoch (book : JobBook) (id : String) (deadline : ℤ) (next : String)
    (epoch : Option ℕ) : Except String JobBook := do
  let demand ← match epoch with
    | some epoch => do
      let _ ← tryI64 epoch
      pure (book.epochDemand.upsert ⟨id, epoch⟩ (fun row => { row with epoch := epoch })
        fun _ => rfl)
    | none => pure book.epochDemand
  return { book with journal := book.journal.discovered id deadline next, epochDemand := demand }

/-! ### What the statements keep -/

/-- A label that starts with another letter than a key does not begin it. -/
theorem ne_append_of_starts {key label id : String} {first other : Char} {rest tail : List Char}
    (keyStarts : key.toList = first :: rest) (labelStarts : label.toList = other :: tail)
    (different : other ≠ first) : key ≠ label ++ id := by
  intro same
  have chars : key.toList = other :: (tail ++ id.toList) := by
    rw [same, String.toList_append, labelStarts, List.cons_append]
  exact different (List.cons.inj (keyStarts.symm.trans chars)).1.symm

end D20.JobBook

namespace D20.RequestQueue

open Journal
open EpochLane (EpochDemand Work)

/-! ### What lies under an id -/

/-- The book and the rows of the epochs' work. -/
structure Store where
  book : JobBook
  work : Table Work String Work.key

namespace Store

/-- The text under a key. -/
def metaText (store : Store) (key : String) : Option String := store.book.journal.metaText key

/-- A change of the journal alone. -/
def withJournal (store : Store) (journal : Journal) : Store :=
  { store with book := { store.book with journal := journal } }

/-- Write the text under a key. -/
def setMeta (store : Store) (key value : String) : Store :=
  store.withJournal (store.book.journal.setMeta key value)

/-- `INSERT INTO epoch_demand(job,epoch) … ON CONFLICT(job) DO UPDATE SET epoch=excluded.epoch`. -/
def writeDemand (store : Store) (id : String) (epoch : ℕ) : Store :=
  { store with
    book := { store.book with
      epochDemand := store.book.epochDemand.upsert ⟨id, epoch⟩
        (fun row => { row with epoch := epoch }) fun _ => rfl } }

/-- The jobs. -/
def jobs (store : Store) : List Job := store.book.journal.jobs.rows

end Store

/-- The key of the time from which a request may be claimed for preparation again. -/
def retryKey (id : String) : String := "prepare_retry_ms:" ++ id

/-- The key of the time from which a prepared request may be sent again. -/
def preflightKey (id : String) : String := "preflight_retry:" ++ id

/-- The key of a request that is left out of batches. -/
def excludeKey (id : String) : String := "batch_exclude:" ++ id

/-- `CAST(COALESCE(meta.value,'0') AS INTEGER)`. -/
def readTime (text : Option String) : ℤ := Decimal.cast (text.getD "0")

/-! ### The statements of preparation -/

variable (store : Store)

/-- `ORDER BY retry,deadline,LENGTH(id),id`. -/
def headOrder (job : Job) : ℤ ×ₗ ℤ ×ₗ ℕ ×ₗ String :=
  toLex (readTime (store.metaText (retryKey job.id)),
    toLex (job.deadline, toLex (job.id.length, job.id)))

/-- `ORDER BY retry,deadline DESC,LENGTH(id) DESC,id DESC`. -/
def tailOrder (job : Job) : ℤ ×ₗ (ℤ ×ₗ ℕ ×ₗ String)ᵒᵈ :=
  toLex (readTime (store.metaText (retryKey job.id)),
    OrderDual.toDual (toLex (job.deadline, toLex (job.id.length, job.id))))

/-- The jobs that may be claimed. -/
def claimable (wallNow eligibleAfter : ℕ) : List Job :=
  store.jobs.filter fun job => job.state == .pending && job.call.isNone &&
    decide ((eligibleAfter : ℤ) < job.deadline) &&
    decide (readTime (store.metaText (retryKey job.id)) ≤ wallNow)

/-- The jobs of one claim: eight of the first sixteen, without those that are excluded. -/
def claimed (wallNow eligibleAfter : ℕ) (excluded : List String) (tailFirst : Bool) : List Job :=
  let due := claimable store wallNow eligibleAfter
  let rows := if tailFirst then Page.first (tailOrder store) 16 due
    else Page.first (headOrder store) 16 due
  (rows.filter fun job => !excluded.contains job.id).take 8

/-- Each claimed job may be claimed again a quarter of a second later. -/
def noteClaims (wallNow : ℕ) (jobs : List Job) (store : Store) : Store :=
  jobs.foldl (fun store job =>
    store.setMeta (retryKey job.id) (toString (saturating 64 (wallNow + 250)))) store

/-- `claim_preparation`: claim a fair, bounded batch for preparation. -/
def claimPreparation (wallNow eligibleAfter : ℕ) (excluded : List String)
    (tailFirst : Bool) : Except String (Store × List Job) := do
  ensure (excluded.length ≤ 8) "Preparation exclusion exceeds one batch"
  let eligibleAfter ← tryI64 eligibleAfter
  let wallNow ← tryI64 wallNow
  let jobs := claimed store wallNow eligibleAfter excluded tailFirst
  return (noteClaims wallNow jobs store, jobs)

/-- A request found by discovery, with the epoch it waits for. -/
def discoveredEpoch (store : Store) (id : String) (deadline : ℤ) (next : String) (epoch : ℕ) :
    Except String Store := do
  let book ← store.book.discoveredEpoch id deadline next (some epoch)
  return { store with book := book }

/-- The epoch that a request has when it is read again for its preparation. -/
def noteDemand (id : String) (epoch : ℕ) : Except String Store := do
  let epoch ← tryI64 epoch
  return store.writeDemand id epoch

/-! ### The queries -/

/-- A job whose proof and calldata are journaled. -/
def isPrepared (job : Job) : Bool := job.state == .prepared && job.call.isSome

/-- `ORDER BY deadline,LENGTH(id),id`. -/
def queueOrder (job : Job) : ℤ ×ₗ ℕ ×ₗ String :=
  toLex (job.deadline, toLex (job.id.length, job.id))

/-- How many prepared jobs are considered in one tick. -/
def queuePage : ℕ := 256

/-- `prepared_page`: the prepared jobs whose preflight backoff has passed, from either end. -/
def preparedPage (now : ℕ) (tail : Bool) : Except String (List Job) := do
  let now ← tryI64 now
  let due := store.jobs.filter fun job => isPrepared job &&
    decide (readTime (store.metaText (preflightKey job.id)) ≤ now)
  return if tail then Page.first (OrderDual.toDual ∘ queueOrder) queuePage due
    else Page.first queueOrder queuePage due

/-- `batch_excluded_prepared`: every prepared request left out of batches. -/
def batchExcludedPrepared : Finset String :=
  ((store.jobs.filter fun job => isPrepared job && (store.metaText (excludeKey job.id)).isSome).map
    Job.id).toFinset

/-- A row of an epoch's work with which the epoch is still wanted. -/
def stillWanted (row : Work) : Bool :=
  row.state == .pending || row.state == .prepared || row.state == .signed ||
    row.state == .submitted ||
    (row.state == .blocked && row.api.isNone && decide ((row.fallback : ℤ) < row.sources - 1))

/-- An epoch of a registry's catalog that has no work yet, or such a row. -/
def epochOpen (registry catalog : String) (epoch : ℕ) : Bool :=
  let rows := store.work.rows.filter fun row =>
    row.epoch == epoch && row.registry == registry && row.catalog == catalog
  rows.isEmpty || rows.any stillWanted

/-- A job that is open. -/
def isLive (job : Job) : Bool :=
  job.state == .pending || job.state == .prepared || job.state == .signed || job.state == .submitted

/-- The deadlines and the epochs of the live demand. -/
def liveDemand (registry catalog : String) (after : ℕ) : List (ℤ × ℕ) :=
  store.book.epochDemand.rows.flatMap fun wanted =>
    (store.jobs.filter fun job => job.id == wanted.job && isLive job &&
      decide ((after : ℤ) < job.deadline) && epochOpen store registry catalog wanted.epoch).map
        fun job => (job.deadline, wanted.epoch)

/-- `ORDER BY deadline LIMIT 1` of deadlines and epochs: the epochs that may come first. The query
names no order among those of one deadline. -/
def earliest (demand : List (ℤ × ℕ)) : Finset ℕ :=
  ((demand.filter fun one => demand.all fun other => decide (one.1 ≤ other.1)).map
    Prod.snd).toFinset

/-- The epochs that the demand query of `epoch_lane` may return. -/
def demandedEpochs (registry catalog : String) (after : ℕ) :
    Except String (Finset ℕ) := do
  let after ← tryI64 after
  return earliest (liveDemand store registry catalog after)

/-! ### What happens to the queue -/

/-- A discovery, a step of a preparation or a query. -/
inductive Op
  | discover (id : String) (deadline : ℤ) (next : String) (epoch : ℕ)
  | claim (wallNow eligibleAfter : ℕ) (excluded : List String) (tailFirst : Bool)
  | noteDemand (id : String) (epoch : ℕ)
  | settle (id : String) (state : JobState)
  | prepare (id proof call : String)
  | preparedDue (now : ℕ) (tail : Bool)
  | batchExcluded
  | demanded (registry catalog : String) (after : ℕ)

/-- What it answers. -/
inductive Answer
  | done
  | failed (message : String)
  | jobs (jobs : List Job)
  | ids (ids : Finset String)
  | epochs (epochs : Finset ℕ)
  deriving DecidableEq

/-- One of them: a statement that fails changes nothing. -/
def Op.run : Op → Store × Answer
  | .discover id deadline next epoch =>
    match discoveredEpoch store id deadline next epoch with
    | .ok after => (after, .done)
    | .error message => (store, .failed message)
  | .claim wallNow eligibleAfter excluded tailFirst =>
    match claimPreparation store wallNow eligibleAfter excluded tailFirst with
    | .ok (after, jobs) => (after, .jobs jobs)
    | .error message => (store, .failed message)
  | .noteDemand id epoch =>
    match RequestQueue.noteDemand store id epoch with
    | .ok after => (after, .done)
    | .error message => (store, .failed message)
  | .settle id state => ({ store with book := store.book.setState id state }, .done)
  | .prepare id proof call =>
    (store.withJournal (store.book.journal.prepared id proof call), .done)
  | .preparedDue now tail =>
    match preparedPage store now tail with
    | .ok jobs => (store, .jobs jobs)
    | .error message => (store, .failed message)
  | .batchExcluded => (store, .ids (batchExcludedPrepared store))
  | .demanded registry catalog after =>
    match demandedEpochs store registry catalog after with
    | .ok epochs => (store, .epochs epochs)
    | .error message => (store, .failed message)

/-- The answers of a sequence. -/
def answers (store : Store) : List Op → List Answer
  | [] => []
  | op :: rest => (op.run store).2 :: answers (op.run store).1 rest

/-! ### The journal of a migration's destination -/

/-- `text LIKE pattern`: a per cent sign stands for any characters, an underscore for one, and the
case of ASCII letters does not count. -/
def like : List Char → List Char → Bool
  | [], text => text.isEmpty
  | '%' :: pattern, text => text.tails.any (like pattern)
  | '_' :: pattern, text =>
    match text with
    | [] => false
    | _ :: rest => like pattern rest
  | char :: pattern, text =>
    match text with
    | [] => false
    | first :: rest => first.toLower == char.toLower && like pattern rest

/-- What initializing the destination takes from a plan beside its coordinators and senders. -/
structure Transition extends Migration.Plan where
  chain : ℕ
  newNonce : ℕ
  runtimePins : String
  addressText : ℕ → String

/-- The scope of the source or of the destination. -/
def Transition.scope (plan : Transition) (old : Bool) : String :=
  toString plan.chain ++ ":" ++
    plan.addressText (if old then plan.oldCoordinator else plan.newCoordinator) ++ ":" ++
    plan.addressText (if old then plan.oldSender else plan.newSender)

/-- The keys that go for another coordinator. -/
def coordinatorKey (key : String) : Bool :=
  key == "cursor" || key == "send_cursor" || like "preflight_retry:%".toList key.toList ||
    like "health:%".toList key.toList

/-- The keys that go for another sender. -/
def senderKey (key : String) : Bool :=
  like "health:%".toList key.toList || like "nonce_started:%".toList key.toList

/-- What goes for another coordinator. -/
def dropRequests (journal : Journal) : Journal :=
  ({ journal with jobs := .empty } : Journal).deleteMeta coordinatorKey

/-- What goes for another sender. -/
def dropAttempts (journal : Journal) : Journal :=
  ({ journal with txs := .empty } : Journal).deleteMeta senderKey

/-- What goes for another coordinator or another sender. The members of batches join jobs to
attempts, so they go with either. -/
def clearRecords (plan : Transition) (journal : Journal) : Journal :=
  let journal := if plan.oldCoordinator ≠ plan.newCoordinator then dropRequests journal else journal
  let journal := if plan.oldSender ≠ plan.newSender then dropAttempts journal else journal
  if plan.oldCoordinator ≠ plan.newCoordinator ∨ plan.oldSender ≠ plan.newSender then
    { journal with batchMembers := .empty }
  else journal

/-- The destination's own identity. -/
def identify (plan : Transition) (journal : Journal) : Journal :=
  let journal := journal.setMeta "scope" (plan.scope false)
  let journal := journal.setMeta "instance_id" plan.newInstance
  let journal : Journal := { journal with nonceFloor := plan.newNonce }
  let journal := journal.setMeta "runtime:pins" plan.runtimePins
  journal.setMeta "migration_id" plan.newInstance

/-- `initialize_snapshot`: the destination's journal from a copy of the source's. -/
def initializeSnapshot (plan : Transition) (store : Store) : Except String Store := do
  ensure (store.metaText "scope" = some (plan.scope true) ∧
    store.metaText "instance_id" = some plan.oldInstance) "Snapshot source identity mismatch"
  let journal := clearRecords plan (store.book.journal.setMeta "audit:suspended" "1")
  let journal := identify plan journal
  return store.withJournal (journal.deleteMeta fun key => key == "audit:suspended")

end D20.RequestQueue
