/-
This file models how the keeper prepares an epoch: the rows of `epoch_work`, the statements that
change them, and the poll that picks a source, fetches its packet in the background and moves to the
next source when one has failed. The publisher's memory, the slot of the one background fetch and
the epoch it last looked up, is part of the state, since what the statements may assume depends on
it. A poll may be cut off at any await, and the fetch, the refresh of a stale packet, signing and
the resolution of nonces may commit between any two of its steps.

A packet and a selection carry the attempt they were obtained for. That number is no column: it says
what they belong to, and no statement reads it.
-/

import D20Keeper.BeaconRound
import D20Keeper.Durable

namespace D20

deriving instance DecidableEq for Attestation
deriving instance DecidableEq for Selection

end D20

namespace D20.EpochLane

open Durable Journal
open Worker (Head)

/-! ### The rows of an epoch's work -/

/-- A text the journal keeps for an attempt at an epoch, and the attempt it was obtained for. -/
structure Obtained (Text : Type) where
  text : Text
  attempt : ℕ
  deriving DecidableEq

/-- A row of `epoch_work`. -/
structure Work where
  key : String
  registry : String
  catalog : String
  epoch : ℕ
  start : ℕ
  state : EpochState := .pending
  api : Option (Obtained Attestation) := none
  selection : Option (Obtained Selection) := none
  attempts : ℕ := 0
  retryAt : ℕ := 0
  lastError : Option String := none
  fallback : ℕ := 0
  sources : ℕ := 4
  failingSince : Option ℕ := none
  failedAt : Option ℕ := none
  failedRpc : Option Bool := none
  deriving DecidableEq

/-- A row of `epoch_demand`: the epoch a request waits for. -/
structure EpochDemand where
  job : String
  epoch : ℕ
  deriving DecidableEq, Repr

/-- How far a background fetch is: it has not written its result yet, it has, or it has ended. -/
inductive FetchStage
  | running
  | wrote
  | finished
  deriving DecidableEq, Repr

/-- A background fetch: the epoch's key, the attempt it was launched for and its number among the
tries of that attempt. -/
structure Fetch where
  key : String
  attempt : ℕ
  number : ℕ
  stage : FetchStage := .running
  deriving DecidableEq, Repr

/-- What a poll reads and writes: the tables of the journal, the epoch the publisher looked up last,
the fetches its process has spawned and the slot that holds the handle of one of them. A fetch whose
handle is dropped goes on. -/
structure Store where
  work : Table Work String Work.key
  txs : Table Journal.Attempt String Journal.Attempt.hash
  jobs : Table Job String Job.id
  demand : Table EpochDemand String EpochDemand.job
  cached : Option (ℕ × ℕ)
  tasks : List Fetch
  fetch : Option ℕ

/-- Attempt n publishes the source n slots after the selected one, from n × 20 blocks on. -/
def fallbackDelayBlocks : ℕ := 20

/-- A catalog lists one to so many sources. -/
def maxSources : ℕ := 10

/-- A failed fetch is tried again after this long while demand waits. -/
def retrySeconds : ℕ := 2

/-- The longest wait between two tries without demand. -/
def backoffSeconds : ℕ := 30

/-- Failed fetches are one run while none comes later than this after the one before. -/
def runGapSeconds : ℕ := 8 + retrySeconds + 5

/-- `backoff`: the wait after a number of tries. -/
def backoff (number : ℕ) : ℕ := min (retrySeconds <<< min (number - 1) 4) backoffSeconds

namespace Store

variable (store : Store)

/-- `EXISTS(SELECT 1 FROM txs WHERE txs.job=epoch_work.key AND txs.state!='resolved')`. -/
def inFlight (key : String) : Bool :=
  store.txs.rows.any fun attempt => attempt.job == key && attempt.state != .resolved

/-- A request waits for an epoch, open and not past its deadline. -/
def demanded (epoch timestamp : ℕ) : Bool :=
  store.demand.rows.any fun wanted => wanted.epoch == epoch && store.jobs.rows.any fun job =>
    job.id == wanted.job && decide ((timestamp : ℤ) ≤ job.deadline) &&
      (job.state == .pending || job.state == .prepared || job.state == .signed ||
        job.state == .submitted)

/-- `is_finished` of the handle in the slot. -/
def fetchFinished : Bool :=
  store.fetch.any fun task => (store.tasks[task]?).any fun fetch => fetch.stage == .finished

/-- A fetch gets further. -/
def setStage (task : ℕ) (stage : FetchStage) : Store :=
  { store with tasks := store.tasks.modify task fun fetch => { fetch with stage := stage } }

/-- `UPDATE epoch_work SET … WHERE …`. -/
def updateWork (condition : Work → Bool) (change : Work → Work)
    (kept : ∀ row, (change row).key = row.key) : Store :=
  { store with work := store.work.update condition change kept }

/-- `UPDATE epoch_work SET state=? WHERE key=?`. -/
def setState (key : String) (state : EpochState) : Store :=
  store.updateWork (fun row => row.key == key) (fun row => { row with state := state })
    fun _ => rfl

end Store

/-- What `work` returns: the row, and whether a transaction for it is in flight. -/
structure Saved extends Work where
  inFlight : Bool

variable (row : Work)

/-- `state IN ('pending','prepared')`. -/
def Work.preparing : Bool := row.state == .pending || row.state == .prepared

/-- `state IN ('pending','prepared','blocked')`. -/
def Work.unsent : Bool := row.preparing || row.state == .blocked

/-- `state IN ('pending','blocked')`. -/
def Work.stuck : Bool := row.state == .pending || row.state == .blocked

namespace Saved

/-- `retry_due`: when the work is fetched next. -/
def retryDue (saved : Saved) (live : Bool) : ℕ :=
  match saved.failedAt, live with
  | some failed, true => min saved.retryAt (failed + retrySeconds)
  | _, _ => saved.retryAt

/-- `is_beacon_request`: a canonical request that names a beacon. -/
def isBeaconRequest (request : Evm.Bytes) : Bool := (Evm.ascii "[\"drand\",\"").isPrefixOf request

/-- `stale_beacon`: a saved beacon packet that may be discarded and prepared again. -/
def staleBeacon (saved : Saved) (now : ℕ) : Bool :=
  !saved.inFlight && saved.unsent &&
    saved.api.any (fun packet => Beacon.tooOld packet.text.timestamp now) &&
    saved.selection.any fun selection => isBeaconRequest selection.text.canonicalRequest

end Saved

/-! ### The statements -/

/-- Why a source produced no packet. -/
inductive FetchFailure
  | beacon (error : String)
  | beaconRpc (error : String)
  | permanent (error : String)

namespace FetchFailure

/-- The text that is recorded. -/
def message : FetchFailure → String
  | .beacon error | .beaconRpc error | .permanent error => error

/-- The wait before the next try, if there is one. -/
def retry (number : ℕ) : FetchFailure → Option ℕ
  | .beacon _ | .beaconRpc _ => some (backoff number)
  | .permanent _ => none

/-- For a beacon, whether the keeper's own read of the chain failed. -/
def chainRead : FetchFailure → Option Bool
  | .beacon _ => some false
  | .beaconRpc _ => some true
  | .permanent _ => none

end FetchFailure

/-- The row after a failure: a permanent one blocks it, a beacon's dates the run it belongs to. -/
def Work.failed (failure : FetchFailure) (retryAt now : ℕ) (retried : Bool) : Work :=
  { row with
    state := if retried then row.state else .blocked
    retryAt := retryAt
    lastError := some failure.message
    failingSince := match failure.chainRead, row.failingSince with
      | none, since => since
      | some _, none => some now
      | some _, some since =>
        if row.failedAt.getD 0 < now - runGapSeconds then some now else some since
    failedAt := if failure.chainRead.isSome then some now else row.failedAt
    failedRpc := if failure.chainRead.isSome then failure.chainRead else row.failedRpc }

/-- The row on its next rung. -/
def Work.climbed (next : ℕ) : Work :=
  { row with
    fallback := next, state := .pending, selection := none, attempts := 0, retryAt := 0,
    lastError := none, failingSince := none, failedAt := none, failedRpc := none }

/-- The row with the packet a fetch returned, unless it has one. -/
def Work.fetched (packet : Obtained Attestation) : Work :=
  { row with
    api := some (row.api.getD packet)
    state := if row.state = .pending then .prepared else row.state
    retryAt := 0, lastError := none, failingSince := none, failedAt := none, failedRpc := none }

/-- The row without its stale packet. -/
def Work.refreshed : Work :=
  { row with
    api := none, state := .pending, attempts := 0, retryAt := 0, lastError := none,
    failingSince := none, failedAt := none, failedRpc := none }

/-- The row of an epoch that is tracked for the first time. -/
def Work.tracked (key registry catalog : String) (epoch start sources : ℕ) : Work :=
  { key := key, registry := registry, catalog := catalog, epoch := epoch, start := start,
    sources := sources }

/-- The statements on the journal and the changes of the publisher's memory. `retire` carries the
keys its statement takes, and `advance` the head it was decided on and whether its statement changed
a row. -/
inductive Call
  | takeFetch
  | setCached (epoch start : ℕ)
  | track (key registry catalog : String) (epoch start sources : ℕ)
  | setState (key : String) (state : EpochState)
  | retire (head : Head) (keys : List String)
  | advance (saved : Saved) (head : ℕ) (moved : Bool)
  | select (key : String) (selection : Obtained Selection) (retryAt : ℕ)
  | recordFailure (key : String) (number : ℕ) (failure : FetchFailure) (now : ℕ)
  | launch (fetch : Fetch)
  | fetchSaved (task : ℕ) (packet : Attestation)
  | fetchFailed (task : ℕ) (failure : FetchFailure) (now : ℕ)
  | fetchEnds (task : ℕ)
  | refresh (stale : Saved) (now : ℕ)
  | publishedElsewhere (key : String)
  | sign (attempt : Journal.Attempt)
  | submitted (id : ℕ)
  | resolve (nonce : ℕ) (key : String) (state : EpochState)
  | settle (nonce : ℕ)
  | setRetryAt (key : String) (retryAt : ℕ)
  | setJobs (jobs : Table Job String Job.id) (demand : Table EpochDemand String EpochDemand.job)
  | restart

namespace Store

variable (store : Store)

/-- The rows `retire_idle_snapshots` may give up. -/
def idle (head : Head) (row : Work) : Bool :=
  decide (row.start ≤ head.number - 10000) && row.unsent && !store.inFlight row.key &&
    !store.demanded row.epoch head.timestamp

/-- `retire_idle_snapshots`, which takes up to 128 rows in no order that its statement fixes. -/
def retire (head : Head) (keys : List String) : Except String Store := do
  let _ ← tryI64 (head.number - 10000)
  let _ ← tryI64 head.timestamp
  let idle := (store.work.rows.filter (store.idle head)).map Work.key
  ensure (keys.Nodup ∧ (∀ key ∈ keys, key ∈ idle) ∧ keys.length = min 128 idle.length)
    "Rows affected"
  return store.updateWork (fun row => keys.contains row.key)
    (fun row => { row with state := .expired }) fun _ => rfl

/-- The rows the statement of `advance_fallback` changes. -/
def movable (saved : Saved) (row : Work) : Bool :=
  row.key == saved.key && row.fallback == saved.fallback && row.api.isNone &&
    row.lastError.isSome && row.stuck

/-- The next attempt of a saved row. -/
def next (saved : Saved) : ℕ := saturating 8 (saved.fallback + 1)

/-- `record_failure`. -/
def recordFailure (key : String) (number : ℕ) (failure : FetchFailure)
    (now : ℕ) : Except String Store := do
  let retryAt ← tryI64 (now + (failure.retry number).getD 0)
  let now ← tryI64 now
  return store.updateWork (fun row => row.key == key && row.api.isNone && row.preparing)
    (fun row => row.failed failure retryAt now (failure.retry number).isSome) fun _ => rfl

/-- A fetch that has not written its result. -/
def running (store : Store) (task : ℕ) : Except String Fetch :=
  match store.tasks[task]? with
  | none => .error "No such fetch"
  | some fetch =>
    if fetch.stage = .running then .ok fetch else .error "The fetch has written its result"

/-- The rows the compare-and-swap of `refresh_stale_beacon` changes. -/
def refreshable (stale : Saved) (row : Work) : Bool :=
  row.key == stale.key && row.api.isSome &&
    row.api.map Obtained.text == stale.api.map Obtained.text && row.selection.isSome &&
    row.selection.map Obtained.text == stale.selection.map Obtained.text && row.unsent &&
    !store.inFlight row.key

/-- `UPDATE txs SET state=… WHERE …`. -/
def setTxState (condition : Journal.Attempt → Bool) (state : TxState) : Store :=
  { store with
    txs := store.txs.update condition (fun attempt => { attempt with state := state })
      fun _ => rfl }

/-- `signed_marked`: the lane and the state of the epoch it serves. -/
def sign (attempt : Journal.Attempt) : Except String Store := do
  ensure (store.txs.count (fun live => live.state.active &&
    (live.nonce != attempt.nonce || live.job != attempt.job)) = 0)
    "Another game or epoch already owns the nonce lane"
  match store.txs.insert (attempt.inserted (nextId store.txs.rows)) with
  | none => .error "UNIQUE constraint failed: txs.hash"
  | some txs =>
    if attempt.kind.isEpoch then
      ensure (store.work.count (fun row => row.key == attempt.job) = 1)
        "Epoch work missing from journal"
      return { store with txs := txs }.setState attempt.job .signed
    else return { store with txs := txs }

end Store

/-- The store after a call. -/
def Call.apply : Call → Store → Except String Store
  | .takeFetch, store => do
    ensure (store.fetchFinished = true) "The fetch has not ended"
    return { store with fetch := none }
  | .setCached epoch start, store => .ok { store with cached := some (epoch, start) }
  | .track key registry catalog epoch start sources, store => .ok
    { store with
      work := store.work.insertOrIgnore (.tracked key registry catalog epoch start sources) }
  | .setState key state, store => .ok (store.setState key state)
  | .retire head keys, store => store.retire head keys
  | .advance saved _ moved, store => do
    ensure (moved = store.work.rows.any (Store.movable saved)) "Rows affected"
    return store.updateWork (Store.movable saved) (fun row => row.climbed (Store.next saved))
      fun _ => rfl
  | .select key selection retryAt, store => .ok
    (store.updateWork (fun row => row.key == key && row.api.isNone && row.preparing)
      (fun row => { row with
        selection := some (row.selection.getD selection), attempts := row.attempts + 1,
        retryAt := retryAt }) fun _ => rfl)
  | .recordFailure key number failure now, store => store.recordFailure key number failure now
  | .launch fetch, store => .ok
    { store with tasks := store.tasks ++ [fetch], fetch := some store.tasks.length }
  | .fetchSaved task packet, store => do
    let fetch ← store.running task
    return (store.setStage task .wrote).updateWork
      (fun row => row.key == fetch.key && row.preparing)
      (fun row => row.fetched ⟨packet, fetch.attempt⟩) fun _ => rfl
  | .fetchFailed task failure now, store => do
    let fetch ← store.running task
    (store.setStage task .wrote).recordFailure fetch.key fetch.number failure now
  | .fetchEnds task, store => .ok (store.setStage task .finished)
  | .refresh stale _, store => .ok
    (store.updateWork (store.refreshable stale) Work.refreshed fun _ => rfl)
  | .publishedElsewhere key, store => .ok
    (store.updateWork (fun row => row.key == key && row.unsent && !store.inFlight row.key)
      (fun row => { row with state := .committed }) fun _ => rfl)
  | .sign attempt, store => store.sign attempt
  | .submitted id, store => .ok (store.setTxState (fun attempt => attempt.id == id) .submitted)
  | .resolve nonce key state, store => do
    let _ ← nextNonce nonce
    let settled := store.setTxState (fun attempt => attempt.nonce == nonce) .resolved
    ensure (settled.work.count (fun row => row.key == key) = 1) "Epoch receipt missing from journal"
    return settled.setState key state
  | .settle nonce, store => do
    let _ ← nextNonce nonce
    return store.setTxState (fun attempt => attempt.nonce == nonce) .resolved
  | .setRetryAt key retryAt, store => .ok
    (store.updateWork (fun row => row.key == key) (fun row => { row with retryAt := retryAt })
      fun _ => rfl)
  | .setJobs jobs demand, store => .ok { store with jobs := jobs, demand := demand }
  | .restart, store => .ok { store with cached := none, tasks := [], fetch := none }

/-! ### The poll -/

/-- A program of the publisher. -/
abbrev Process : Type → Type 1 := Durable.Program Store Call Empty

/-- `work`: the saved row of a key. -/
def work (key : String) : Process Saved := do
  let store ← Program.get
  match store.work.rows.find? fun row => row.key == key with
  | none =>
    .fail ("no rows returned by a query that expected to return at least " ++ "one row")
  | some row =>
    if row.fallback ≤ largest 8 ∧ row.sources ≤ largest 8 then
      return { row with inFlight := store.inFlight row.key }
    else .fail "out of range integral type conversion attempted"

variable (saved : Saved)

/-- `advance_fallback`: the next source, once the window of that attempt is open. -/
def advanceFallback (head : ℕ) : Process Bool :=
  if saved.api.isSome || saved.lastError.isNone || !saved.stuck ||
      decide (saved.sources ≤ Store.next saved) ||
      decide (head < saturating 64 (saved.start + Store.next saved * fallbackDelayBlocks)) then
    pure false
  else do
    let moved ← Program.answer Bool
    Program.run (.advance saved head moved)
    return moved

/-- The publisher of one registry and catalog. -/
structure Publisher where
  registry : String
  catalog : String

/-- What the registry says about an epoch: its start, whether it is committed, its sources. -/
structure EpochReads where
  start : ℕ
  committed : Bool
  sources : ℕ

/-- The registered recipe of a selection, or the answer that it is no beacon. -/
inductive RecipeRead
  | known (recipe : Beacon.RegisteredRecipe)
  | notABeacon (error : String)

namespace Publisher

variable (publisher : Publisher)

/-- The key of an epoch's work. -/
def key (epoch : ℕ) : String :=
  "epoch:" ++ publisher.registry ++ ":" ++ publisher.catalog ++ ":" ++ toString epoch

/-- `track`: record an epoch's work with its start and its sources, and note a publication. -/
def track (epoch : ℕ) : Process ℕ := do
  let reads ← Program.answer EpochReads
  if 1 ≤ reads.sources ∧ reads.sources ≤ maxSources then
    if epoch ≤ maxI64 ∧ reads.start ≤ maxI64 then
      Program.run (.track (publisher.key epoch) publisher.registry publisher.catalog epoch
        reads.start reads.sources)
      if reads.committed then
        Program.run (.setState (publisher.key epoch) .committed)
        return reads.start
      else return reads.start
    else .fail "out of range integral type conversion attempted"
  else .fail "Registry reports an invalid epoch source count"

/-- A head in the 200 blocks of an epoch. -/
def within (start head : ℕ) : Bool :=
  decide (start ≤ head) && decide (head < saturating 64 (start + 200))

/-- The epoch to prepare at a head and its start, looked up once in 200 blocks. -/
def current (head : ℕ) : Process (Option (ℕ × ℕ)) := do
  let store ← Program.get
  match store.cached.filter fun pair => within pair.2 head with
  | some pair => return some pair
  | none =>
    let epoch ← Program.answer ℕ
    if epoch = 0 then return none
    else
      let start ← publisher.track epoch
      Program.run (.setCached epoch start)
      return some (epoch, start)

/-- The epoch that live demand waits for comes first. -/
def target (demanded : Option ℕ) (found : ℕ × ℕ) : Process (ℕ × ℕ) :=
  match demanded.filter fun epoch => epoch != found.1 with
  | some epoch => do
    let start ← publisher.track epoch
    return (epoch, start)
  | none => return found

end Publisher

/-- A finished fetch leaves its slot. -/
def takeFinished : Process Unit := do
  let store ← Program.get
  if store.fetchFinished then Program.run .takeFetch else return ()

/-- While no fetch is under way, a source that failed gives way to the next one. -/
def climb (head : ℕ) : Process Saved := do
  let store ← Program.get
  if store.fetch.isNone then
    let moved ← advanceFallback saved head
    if moved then work saved.key else return saved
  else return saved

/-- The work is not fetched now. -/
def Saved.waits (live : Bool) (now start head : ℕ) : Bool :=
  saved.state != .pending || saved.api.isSome || decide (now < saved.retryDue live) ||
    decide (head < start) || (decide (saturating 64 (start + 200) ≤ head) && !live)

/-- The selected source of an attempt is recorded, unless the head has left the epoch meanwhile. -/
def selectSource (epoch start : ℕ) (live : Bool) : Process (Option Selection) := do
  let selection ← Program.answer Selection
  let store ← Program.get
  match store.work.rows.find? fun row => row.key == saved.key with
  | none =>
    .fail ("no rows returned by a query that expected to return at least " ++ "one row")
  | some row =>
    if row.selection.all fun prior => prior.text == selection then
      let fresh ← Program.answer Head
      if fresh.number < start ∨ (saturating 64 (start + 200) ≤ fresh.number ∧ live = false) then
        return none
      else
        let store ← Program.get
        if saturating 64 (start + 200) ≤ fresh.number ∧
            store.demanded epoch fresh.timestamp = false then
          return none
        else
          let now ← Program.answer ℕ
          if now + 3 ≤ maxI64 then
            Program.run (.select saved.key ⟨selection, saved.fallback⟩ (now + 3))
            return some selection
          else .fail "out of range integral type conversion attempted"
    else .fail "Epoch selection changed; refusing a different source/query"

/-- Why a recipe that is no beacon is refused. -/
def unsupportedRecipe (id : ℕ) : String :=
  "Registered recipe " ++ toString id ++ " is not a drand beacon: signed API recipes are not " ++
    "supported since 0.4.1; refusing to prepare an epoch from it"

variable (keccak256 : Evm.Bytes → Evm.Bytes32)

/-- `check_recipe`: a selection is prepared only from the consistent beacon it names. -/
def checkRecipe (selection : Selection) (recipe : Beacon.RegisteredRecipe) : Except String Unit :=
  if Saved.isBeaconRequest recipe.canonicalRequest then do
    ensure (recipe.canonicalRequest = selection.canonicalRequest ∧
      keccak256 recipe.canonicalRequest = selection.queryHash)
      ("Registry selection differs from registered recipe " ++ toString selection.recipe ++
        "; refusing to fetch")
    Beacon.check selection.recipe recipe
  else .error (unsupportedRecipe selection.recipe)

/-- Whether the selected source can be fetched; a refused one is recorded as failed for good. -/
def sourceOrRefuse (key : String) (number : ℕ) (selection : Selection) : Process Bool := do
  let read ← Program.answer RecipeRead
  let now ← Program.answer ℕ
  match read with
  | .notABeacon error =>
    if 2 ≤ number then
      Program.run (.recordFailure key number (.permanent error) now)
      return false
    else .fail error
  | .known recipe =>
    match checkRecipe keccak256 selection recipe with
    | .ok () => return true
    | .error error =>
      Program.run (.recordFailure key number (.permanent error) now)
      return false

/-- Select the source of a saved row's attempt and launch its fetch. -/
def launchFetch (saved : Saved) (epoch start : ℕ) (live : Bool) : Process Unit := do
  let selected ← selectSource saved epoch start live
  match selected with
  | none => return ()
  | some selection =>
    let served ← sourceOrRefuse keccak256 saved.key (saved.attempts + 1) selection
    if served then
      Program.run (.launch
        { key := saved.key, attempt := saved.fallback, number := saved.attempts + 1 })
    else return ()

/-- The part of a poll that works on the row of its epoch. -/
def prepareEpoch (publisher : Publisher) (head : Head)
    (demanded : Option ℕ) (epoch start : ℕ) : Process (Option Saved) := do
  let first ← work (publisher.key epoch)
  if first.state = .prepared then return some first
  else
    let saved ← climb first head.number
    let now ← Program.answer ℕ
    if saved.waits (demanded == some epoch) now start head.number then return none
    else
      let store ← Program.get
      if store.fetch.isSome then return none
      else
        launchFetch keccak256 saved epoch start (demanded == some epoch)
        return none

/-- `poll`. -/
def poll (publisher : Publisher) (head : Head) (demanded : Option ℕ) : Process (Option Saved) := do
  takeFinished
  let found ← publisher.current head.number
  match found with
  | none => return none
  | some pair =>
    let keys ← Program.answer (List String)
    Program.run (.retire head keys)
    let (epoch, start) ← publisher.target demanded pair
    prepareEpoch keccak256 publisher head demanded epoch start

/-- What other tasks of the keeper commit beside a poll: the fetch writes its result and ends, a
stale packet is refreshed, an epoch is signed and its nonce is resolved, and the requests and the
transactions of games move. -/
inductive Beside : Call → Prop
  | fetchSaved (task : ℕ) (packet : Attestation) : Beside (.fetchSaved task packet)
  | fetchFailed (task : ℕ) (failure : FetchFailure) (now : ℕ) :
      Beside (.fetchFailed task failure now)
  | fetchEnds (task : ℕ) : Beside (.fetchEnds task)
  | refresh (stale : Saved) (now : ℕ) (judged : stale.staleBeacon now = true) :
      Beside (.refresh stale now)
  | publishedElsewhere (key : String) : Beside (.publishedElsewhere key)
  | setState (key : String) (state : EpochState) : Beside (.setState key state)
  | sign (attempt : Journal.Attempt) : Beside (.sign attempt)
  | submitted (id : ℕ) : Beside (.submitted id)
  | resolve (nonce : ℕ) (key : String) (state : EpochState) : Beside (.resolve nonce key state)
  | settle (nonce : ℕ) : Beside (.settle nonce)
  | setRetryAt (key : String) (retryAt : ℕ) : Beside (.setRetryAt key retryAt)
  | setJobs (jobs : Table Job String Job.id)
      (demand : Table EpochDemand String EpochDemand.job) : Beside (.setJobs jobs demand)

/-- What one publisher runs, one after the other: polls, and a start after the process ended. -/
inductive Polls (keccak256 : Evm.Bytes → Evm.Bytes32) (publisher : Publisher) :
    Process Unit → Prop
  | poll (head : Head) (demanded : Option ℕ) :
      Polls keccak256 publisher (poll keccak256 publisher head demanded >>= fun _ => pure ())
  | restart : Polls keccak256 publisher (Program.run .restart)

end D20.EpochLane
