/-
This file proves what holds of the preparation of epochs in every life of a keeper with one
publisher. What a row of `epoch_work` saved belongs to the rung of the ladder the row is on, the
rung is one of the epoch's sources, and each commit is a step of a relation that says how a row may
change. The argument rests on the slot of the background fetch: a fetch that has not ended is the
one in the slot, and the ladder moves only while the slot is empty.
-/

import D20Keeper.EpochLane

namespace D20.EpochLane

open Durable Journal
open Worker (Head)

/-! ### What holds in every state, and what a commit may change -/

/-- A row of the ladder: it stands on a rung that exists, and what it saved was obtained for that
rung. -/
structure Work.OnRung (row : Work) : Prop where
  below : row.fallback < row.sources
  packet : ∀ packet, row.api = some packet → packet.attempt = row.fallback
  selection : ∀ selection, row.selection = some selection → selection.attempt = row.fallback

/-- What one commit may do to a row: a saved packet is replaced by the refresh of a stale beacon
alone and with nothing in flight, the rung rises by one after a recorded failure without a packet,
once the head has reached the window of the next attempt, and an error is left by a recorded failure
alone. -/
structure RowStep (store : Store) (call : Call) (old new : Work) : Prop where
  key : new.key = old.key
  start : new.start = old.start
  sources : new.sources = old.sources
  packet : ∀ packet, old.api = some packet → new.api ≠ some packet →
    (∃ stale now, call = .refresh stale now ∧ stale.staleBeacon now = true ∧
      stale.api.map Obtained.text = some packet.text) ∧ store.inFlight old.key = false
  rung : new.fallback ≠ old.fallback →
    (∃ saved head, call = .advance saved head true ∧
      old.start + new.fallback * fallbackDelayBlocks ≤ head) ∧
    new.fallback = old.fallback + 1 ∧ old.lastError.isSome ∧ old.api = none
  failure : new.lastError.isSome → old.lastError.isSome ∨
    (∃ number failure now, call = .recordFailure old.key number failure now) ∨
    ∃ task failure now, call = .fetchFailed task failure now ∧
      ∃ fetch, store.tasks[task]? = some fetch ∧ fetch.key = old.key

/-- What one commit may do to the work of all epochs. -/
def Step (before : Store) (call : Call) (after : Store) : Prop :=
  ∀ old ∈ before.work.rows, ∃ new ∈ after.work.rows, RowStep before call old new

/-- Every commit of a life is such a step. -/
def Steps : Store → World Store Call Empty → Prop :=
  Follows (fun earlier => Step earlier.store) fun _ _ => True

/-- The row of a key is on a rung. -/
def Store.StandsAt (store : Store) (key : String) (rung : ℕ) : Prop :=
  ∃ row ∈ store.work.rows, row.key = key ∧ row.fallback = rung

/-- The invariant: every row is on its rung, its start fits the column, and a fetch that has not
ended is the one in the slot and was launched for the rung its row is on. -/
structure Sound (store : Store) : Prop where
  rows : ∀ row ∈ store.work.rows, row.OnRung
  starts : ∀ row ∈ store.work.rows, row.start ≤ maxI64
  fetching : ∀ (task : ℕ) (fetch : Fetch), store.tasks[task]? = some fetch →
    fetch.stage ≠ .finished → store.fetch = some task ∧ store.StandsAt fetch.key fetch.attempt

/-! ### What a row's place is, and how updates keep it -/

/-- Where a row stands: its key, its start, its sources and its rung. -/
def Work.place (row : Work) : String × ℕ × ℕ × ℕ :=
  (row.key, row.start, row.sources, row.fallback)

/-- The places of all rows. -/
def Store.places (store : Store) : List (String × ℕ × ℕ × ℕ) := store.work.rows.map Work.place

/-- The fetches a row's rung depends on: their keys and attempts, and the handle in the slot. -/
def Store.Lane (before after : Store) : Prop :=
  after.fetch = before.fetch ∧ ∀ (task : ℕ) (fetch : Fetch), after.tasks[task]? = some fetch →
    ∃ old : Fetch, before.tasks[task]? = some old ∧ old.key = fetch.key ∧
      old.attempt = fetch.attempt ∧ (fetch.stage ≠ .finished → old.stage ≠ .finished)

variable {store : Store} {old : Work} {task epoch head : ℕ} {fetch : Fetch} {saved : Saved}
  {publisher : Publisher} {keccak256 : Evm.Bytes → Evm.Bytes32}

/-- The row of a key is where its place says. -/
theorem Store.standsAt_iff {key : String} {rung : ℕ} :
    store.StandsAt key rung ↔ ∃ place ∈ store.places, place.1 = key ∧ place.2.2.2 = rung := by
  constructor
  · rintro ⟨row, member, sameKey, sameRung⟩
    exact ⟨row.place, List.mem_map_of_mem member, sameKey, sameRung⟩
  · rintro ⟨place, member, sameKey, sameRung⟩
    obtain ⟨row, rowMem, rfl⟩ := List.mem_map.mp member
    exact ⟨row, rowMem, sameKey, sameRung⟩

/-- There is one rung to a key. -/
theorem Store.StandsAt.eq {key : String} {rung : ℕ} (stands : store.StandsAt key rung)
    {row : Work} (member : row ∈ store.work.rows) (same : row.key = key) : row.fallback = rung := by
  obtain ⟨other, otherMem, otherKey, otherRung⟩ := stands
  rw [store.work.eq_of_key_eq member otherMem (same.trans otherKey.symm)]
  exact otherRung

theorem RowStep.same (store : Store) (call : Call) (row : Work) : RowStep store call row row where
  key := rfl
  start := rfl
  sources := rfl
  packet := fun _ saved changed => absurd saved changed
  rung := fun changed => absurd rfl changed
  failure := .inl

/-- A change of a row that keeps its place, its packet and its selection, and leaves no error. -/
structure Quiet (old new : Work) : Prop where
  place : new.place = old.place
  api : new.api = old.api
  selection : new.selection = old.selection
  failure : new.lastError.isSome → old.lastError.isSome

theorem place_eq_iff {new : Work} : new.place = old.place ↔
    new.key = old.key ∧ new.start = old.start ∧ new.sources = old.sources ∧
      new.fallback = old.fallback := by
  simp only [Work.place, Prod.mk.injEq]

/-- A row stays on its rung while its place, its packet and its selection stay. -/
theorem Work.OnRung.of_place {new : Work} (onRung : old.OnRung) (place : new.place = old.place)
    (packet : ∀ packet, new.api = some packet → packet.attempt = old.fallback)
    (selection : ∀ selection, new.selection = some selection → selection.attempt = old.fallback) :
    new.OnRung := by
  obtain ⟨-, -, sources, fallback⟩ := place_eq_iff.mp place
  refine ⟨?_, ?_, ?_⟩
  · rw [sources, fallback]
    exact onRung.below
  · rw [fallback]
    exact packet
  · rw [fallback]
    exact selection

/-- A change that keeps a row's place may change its packet and its error as the relation says. -/
theorem RowStep.of_place {call : Call} {new : Work} (place : new.place = old.place)
    (packet : ∀ packet, old.api = some packet → new.api ≠ some packet →
      (∃ stale now, call = .refresh stale now ∧ stale.staleBeacon now = true ∧
        stale.api.map Obtained.text = some packet.text) ∧ store.inFlight old.key = false)
    (failure : new.lastError.isSome → old.lastError.isSome ∨
      (∃ number failure now, call = .recordFailure old.key number failure now) ∨
      ∃ task failure now, call = .fetchFailed task failure now ∧
        ∃ fetch, store.tasks[task]? = some fetch ∧ fetch.key = old.key) :
    RowStep store call old new := by
  obtain ⟨key, start, sources, fallback⟩ := place_eq_iff.mp place
  exact ⟨key, start, sources, packet, fun changed => absurd fallback changed, failure⟩

theorem Quiet.onRung {new : Work} (quiet : Quiet old new) (onRung : old.OnRung) : new.OnRung :=
  onRung.of_place quiet.place (fun packet saved => onRung.packet packet (quiet.api ▸ saved))
    fun selection saved => onRung.selection selection (quiet.selection ▸ saved)

theorem Quiet.step {call : Call} {new : Work} (quiet : Quiet old new) :
    RowStep store call old new :=
  .of_place quiet.place (fun _ saved changed => absurd (quiet.api.trans saved) changed)
    fun failed => .inl (quiet.failure failed)

/-! ### What a commit keeps -/

/-- A commit is kept to the relation; if it is still, the places stay and no fetch is launched. -/
structure Kept (before : Store) (call : Call) (after : Store) : Prop where
  sound : Sound after
  step : Step before call after
  places : after.places = before.places
  idle : before.fetch = none → after.fetch = none

variable {before after : Store} {call : Call}

/-- A commit that changes rows where they stand. -/
theorem Kept.of_update {condition : Work → Bool} {change : Work → Work} (sound : Sound before)
    (work : after.work.rows =
      before.work.rows.map fun row => if condition row then change row else row)
    (lane : before.Lane after)
    (rows : ∀ row ∈ before.work.rows, condition row = true → (change row).place = row.place ∧
      (change row).OnRung ∧ RowStep before call row (change row)) : Kept before call after := by
  have changed : ∀ row ∈ before.work.rows,
      (if condition row then change row else row).place = row.place ∧
      (if condition row then change row else row).OnRung ∧
      RowStep before call row (if condition row then change row else row) := by
    intro row member
    split
    case isTrue meets => exact rows row member meets
    case isFalse => exact ⟨rfl, sound.rows row member, .same _ _ _⟩
  have places : after.places = before.places := by
    rw [Store.places, work, List.map_map]
    exact List.map_congr_left fun row member => (changed row member).1
  refine ⟨⟨?_, ?_, ?_⟩, ?_, places, fun idle => lane.1.trans idle⟩
  · intro row member
    rw [work, List.mem_map] at member
    obtain ⟨old, oldMem, rfl⟩ := member
    exact (changed old oldMem).2.1
  · intro row member
    rw [work, List.mem_map] at member
    obtain ⟨old, oldMem, rfl⟩ := member
    rw [(place_eq_iff.mp (changed old oldMem).1).2.1]
    exact sound.starts old oldMem
  · intro task fetch listed unfinished
    obtain ⟨old, oldListed, sameKey, sameAttempt, earlier⟩ := lane.2 task fetch listed
    obtain ⟨slot, stands⟩ := sound.fetching task old oldListed (earlier unfinished)
    rw [sameKey, sameAttempt, Store.standsAt_iff, ← places, ← Store.standsAt_iff] at stands
    exact ⟨lane.1.trans slot, stands⟩
  · intro old member
    refine ⟨_, ?_, (changed old member).2.2⟩
    rw [work]
    exact List.mem_map.mpr ⟨old, member, rfl⟩

/-- A commit that leaves the work as it is. -/
theorem Kept.of_work_eq (sound : Sound before) (work : after.work = before.work)
    (lane : before.Lane after) : Kept before call after := by
  have still : after.work.rows =
      before.work.rows.map fun row => if (fun _ => false) row then id row else row := by
    simp [work]
  exact .of_update sound still lane fun _ _ meets => absurd meets Bool.false_ne_true

/-- A commit that changes rows quietly. -/
theorem Kept.of_quiet {condition : Work → Bool} {change : Work → Work} (sound : Sound before)
    (work : after.work.rows =
      before.work.rows.map fun row => if condition row then change row else row)
    (lane : before.Lane after) (quiet : ∀ row, Quiet row (change row)) : Kept before call after :=
  .of_update sound work lane fun row member _ =>
    ⟨(quiet row).place, (quiet row).onRung (sound.rows row member), (quiet row).step⟩

theorem Store.Lane.same (tasks : after.tasks = before.tasks) (fetch : after.fetch = before.fetch) :
    before.Lane after :=
  ⟨fetch, fun task other listed =>
    ⟨other, by rw [← tasks]; exact listed, rfl, rfl, fun unfinished => unfinished⟩⟩

/-- A fetch that gets further. -/
theorem Store.Lane.setStage (store : Store) {stage : FetchStage}
    (forward : stage ≠ .finished → ∃ fetch, store.tasks[task]? = some fetch ∧
      fetch.stage ≠ .finished) : store.Lane (store.setStage task stage) := by
  refine ⟨rfl, fun other fetch listed => ?_⟩
  rw [Store.setStage, List.getElem?_modify] at listed
  cases known : store.tasks[other]? with
  | none => rw [known] at listed; exact nomatch listed
  | some old =>
    rw [known, Option.map_eq_map, Option.map_some, Option.some.injEq] at listed
    subst listed
    refine ⟨old, rfl, ?_⟩
    by_cases same : task = other
    · subst same
      rw [if_pos rfl]
      refine ⟨rfl, rfl, fun unfinished => ?_⟩
      obtain ⟨fetch, fetchListed, running⟩ := forward unfinished
      rw [known, Option.some.injEq] at fetchListed
      rw [fetchListed]
      exact running
    · rw [if_neg same]
      exact ⟨rfl, rfl, fun unfinished => unfinished⟩

/-- A running fetch is listed and has not ended. -/
theorem Store.running_eq_ok (running : store.running task = .ok fetch) :
    store.tasks[task]? = some fetch ∧ fetch.stage ≠ .finished := by
  unfold Store.running at running
  split at running
  case h_1 => exact nomatch running
  case h_2 other listed =>
    split at running
    case isTrue stage =>
      cases running
      exact ⟨listed, by rw [stage]; decide⟩
    case isFalse => exact nomatch running

/-- What the program that makes a call has checked of the store. -/
def Allowed (store : Store) : Call → Prop
  | .track _ _ _ _ start sources => 1 ≤ sources ∧ start ≤ maxI64
  | .advance saved head _ => store.fetch = none ∧ saved.place ∈ store.places ∧
      saved.fallback + 1 < saved.sources ∧ saved.sources ≤ largest 8 ∧
      saved.start + (saved.fallback + 1) * fallbackDelayBlocks ≤ head
  | .select key selection _ => store.StandsAt key selection.attempt
  | .launch fetch => store.fetch = none ∧ store.StandsAt fetch.key fetch.attempt
  | .refresh stale now => stale.staleBeacon now = true
  | _ => True

/-- The calls that leave every row where it stands and the slot as it is. -/
def Still : Call → Prop
  | .takeFetch | .track .. | .advance .. | .launch _ | .restart => False
  | _ => True

/-- A recorded failure leaves a row where it stands. -/
theorem Kept.of_recordFailure {key : String} {number : ℕ} {failure : FetchFailure} {now : ℕ}
    (sound : Sound before) (work : store.work = before.work) (lane : before.Lane store)
    (accepted : store.recordFailure key number failure now = .ok after)
    (recorded : (∃ number failure now, call = .recordFailure key number failure now) ∨
      ∃ task failure now, call = .fetchFailed task failure now ∧
        ∃ fetch, before.tasks[task]? = some fetch ∧ fetch.key = key) : Kept before call after := by
  simp only [Store.recordFailure, bind_eq_ok, tryI64_eq_ok] at accepted
  obtain ⟨retryAt, -, _, -, accepted⟩ := accepted
  cases accepted
  refine Kept.of_update sound (by rw [← work]; rfl) lane fun row member meets => ?_
  simp only [Bool.and_eq_true, beq_iff_eq] at meets
  have onRung := sound.rows row member
  refine ⟨rfl, ⟨onRung.below, onRung.packet, onRung.selection⟩, .of_place rfl ?_ fun _ => .inr ?_⟩
  · exact fun _ saved changed => absurd saved changed
  · rw [meets.1.1]
    exact recorded

/-- A still call keeps the rows where they stand. -/
theorem kept_of_still (sound : Sound before) (allowed : Allowed before call) (still : Still call)
    (accepted : call.apply before = .ok after) : Kept before call after := by
  cases call with
  | takeFetch | track | advance | launch | restart => exact still.elim
  | setCached | submitted | setJobs =>
    cases accepted
    exact .of_work_eq sound rfl (.same rfl rfl)
  | setState | publishedElsewhere | setRetryAt =>
    cases accepted
    exact .of_quiet sound rfl (.same rfl rfl) fun row => ⟨rfl, rfl, rfl, fun failed => failed⟩
  | retire =>
    simp only [Call.apply, Store.retire, bind_eq_ok] at accepted
    obtain ⟨_, -, _, -, _, -, accepted⟩ := accepted
    cases accepted
    exact .of_quiet sound rfl (.same rfl rfl) fun row => ⟨rfl, rfl, rfl, fun failed => failed⟩
  | select =>
    cases accepted
    refine .of_update sound rfl (.same rfl rfl) fun row member meets => ?_
    simp only [Bool.and_eq_true, beq_iff_eq] at meets
    have onRung := sound.rows row member
    refine ⟨rfl, ⟨onRung.below, onRung.packet, fun chosen chose => ?_⟩,
      .of_place rfl (fun _ saved changed => absurd saved changed) .inl⟩
    cases prior : row.selection with
    | some =>
      simp only [prior, Option.getD_some] at chose
      exact onRung.selection chosen (prior.trans chose)
    | none =>
      simp only [prior, Option.getD_none, Option.some.injEq] at chose
      rw [← chose]
      exact (Store.StandsAt.eq allowed member meets.1.1).symm
  | recordFailure key number failure now =>
    exact .of_recordFailure sound rfl (.same rfl rfl) accepted (.inl ⟨number, failure, now, rfl⟩)
  | fetchSaved task =>
    simp only [Call.apply, bind_eq_ok] at accepted
    obtain ⟨fetch, running, accepted⟩ := accepted
    cases accepted
    obtain ⟨listed, unfinished⟩ := Store.running_eq_ok running
    refine .of_update sound rfl (Store.Lane.setStage before fun _ => ⟨fetch, listed, unfinished⟩)
      fun row member meets => ?_
    simp only [Bool.and_eq_true, beq_iff_eq] at meets
    have onRung := sound.rows row member
    have stands := (sound.fetching task fetch listed unfinished).2.eq member meets.1
    refine ⟨rfl, ⟨onRung.below, fun saved keeps => ?_, onRung.selection⟩,
      .of_place rfl (fun first saved changed => ?_) fun failed => nomatch failed⟩
    · cases prior : row.api with
      | some =>
        simp only [Work.fetched, prior, Option.getD_some] at keeps
        exact onRung.packet saved (prior.trans keeps)
      | none =>
        simp only [Work.fetched, prior, Option.getD_none, Option.some.injEq] at keeps
        rw [← keeps]
        exact stands.symm
    · refine absurd ?_ changed
      simp only [Work.fetched, saved, Option.getD_some]
  | fetchFailed task failure now =>
    simp only [Call.apply, bind_eq_ok] at accepted
    obtain ⟨fetch, running, accepted⟩ := accepted
    obtain ⟨listed, unfinished⟩ := Store.running_eq_ok running
    have same : (before.setStage task .wrote).work = before.work := rfl
    exact .of_recordFailure sound same
      (Store.Lane.setStage before fun _ => ⟨fetch, listed, unfinished⟩) accepted
      (.inr ⟨task, failure, now, rfl, fetch, listed, rfl⟩)
  | fetchEnds =>
    cases accepted
    exact .of_work_eq sound rfl (Store.Lane.setStage before fun unfinished => absurd rfl unfinished)
  | refresh stale now =>
    cases accepted
    refine .of_update sound rfl (.same rfl rfl) fun row member meets => ?_
    simp only [Store.refreshable, Bool.and_eq_true, Bool.not_eq_true', beq_iff_eq] at meets
    have onRung := sound.rows row member
    refine ⟨rfl, ⟨onRung.below, nofun, onRung.selection⟩,
      .of_place rfl (fun packet saved _ => ⟨⟨stale, now, rfl, allowed, ?_⟩, meets.2⟩)
        fun failed => nomatch failed⟩
    rw [← meets.1.1.1.1.2, saved]
    rfl
  | sign =>
    simp only [Call.apply, Store.sign, bind_eq_ok] at accepted
    obtain ⟨_, -, accepted⟩ := accepted
    split at accepted
    · exact nomatch accepted
    split at accepted
    · obtain ⟨_, -, accepted⟩ := bind_eq_ok.mp accepted
      cases accepted
      exact .of_quiet sound rfl (.same rfl rfl) fun row => ⟨rfl, rfl, rfl, fun failed => failed⟩
    · cases accepted
      exact .of_work_eq sound rfl (.same rfl rfl)
  | resolve =>
    simp only [Call.apply, bind_eq_ok] at accepted
    obtain ⟨_, -, _, -, accepted⟩ := accepted
    cases accepted
    exact .of_quiet sound rfl (.same rfl rfl) fun row => ⟨rfl, rfl, rfl, fun failed => failed⟩
  | settle =>
    simp only [Call.apply, bind_eq_ok] at accepted
    obtain ⟨_, -, accepted⟩ := accepted
    cases accepted
    exact .of_work_eq sound rfl (.same rfl rfl)

/-- A finished fetch leaves its slot, and then no fetch is under way. -/
theorem Sound.takeFetch (sound : Sound before)
    (accepted : Call.takeFetch.apply before = .ok after) :
    Sound after ∧ Step before .takeFetch after := by
  simp only [Call.apply, bind_eq_ok, ensure_eq_ok] at accepted
  obtain ⟨_, finished, accepted⟩ := accepted
  cases accepted
  refine ⟨⟨sound.rows, sound.starts, fun task fetch listed unfinished => ?_⟩,
    fun old member => ⟨old, member, .same _ _ _⟩⟩
  have slot := (sound.fetching task fetch listed unfinished).1
  simp only [Store.fetchFinished, slot, Option.any_some, listed, beq_iff_eq] at finished
  exact absurd finished unfinished

/-- An epoch that is tracked starts on the first rung. -/
theorem Sound.track {key registry catalog : String} {start sources : ℕ} (sound : Sound before)
    (some : 1 ≤ sources) (fits : start ≤ maxI64)
    (accepted : (Call.track key registry catalog epoch start sources).apply before = .ok after) :
    Sound after ∧ Step before (.track key registry catalog epoch start sources) after := by
  cases accepted
  have listed : ∀ row ∈ (before.work.insertOrIgnore
      (.tracked key registry catalog epoch start sources)).rows,
      row ∈ before.work.rows ∨ row = .tracked key registry catalog epoch start sources := by
    intro row member
    rcases before.work.insertOrIgnore_rows (.tracked key registry catalog epoch start sources)
      with ⟨-, same⟩ | ⟨-, appended⟩
    · exact .inl (same ▸ member)
    · rw [appended, List.mem_append, List.mem_singleton] at member
      exact member
  refine ⟨⟨?_, ?_, ?_⟩, fun old member => ⟨old, before.work.mem_insertOrIgnore member, .same _ _ _⟩⟩
  · intro row member
    rcases listed row member with old | rfl
    · exact sound.rows row old
    · exact ⟨some, nofun, nofun⟩
  · intro row member
    rcases listed row member with old | rfl
    · exact sound.starts row old
    · exact fits
  · intro task fetch running unfinished
    obtain ⟨slot, row, member, stands⟩ := sound.fetching task fetch running unfinished
    exact ⟨slot, row, before.work.mem_insertOrIgnore member, stands⟩

theorem Sound.finished (sound : Sound before) (idle : before.fetch = none)
    (listed : before.tasks[task]? = some fetch) : fetch.stage = .finished := by
  by_contra unfinished
  exact nomatch idle.symm.trans (sound.fetching task fetch listed unfinished).1

/-- A fetch is launched into an empty slot. -/
theorem Sound.launch (sound : Sound before) (idle : before.fetch = none)
    (stands : before.StandsAt fetch.key fetch.attempt)
    (accepted : (Call.launch fetch).apply before = .ok after) :
    Sound after ∧ Step before (.launch fetch) after := by
  cases accepted
  refine ⟨⟨sound.rows, sound.starts, fun task other listed unfinished => ?_⟩,
    fun old member => ⟨old, member, .same _ _ _⟩⟩
  rcases Nat.lt_or_ge task before.tasks.length with old | new
  · rw [List.getElem?_append_left old] at listed
    exact absurd (sound.finished idle listed) unfinished
  · rw [List.getElem?_append_right new, List.getElem?_singleton] at listed
    split at listed
    case isTrue last =>
      cases listed
      exact ⟨congrArg some (Nat.le_antisymm (Nat.sub_eq_zero_iff_le.mp last) new).symm, stands⟩
    case isFalse => exact nomatch listed

/-- The rows that `advance_fallback` changes stand where the saved row stood. -/
theorem place_of_movable {row : Work} (placed : saved.place ∈ before.places)
    (member : row ∈ before.work.rows) (same : row.key = saved.key) : row.place = saved.place := by
  obtain ⟨other, otherMem, otherPlace⟩ := List.mem_map.mp placed
  have otherKey := (place_eq_iff.mp otherPlace).1
  rw [before.work.eq_of_key_eq member otherMem (same.trans otherKey.symm)]
  exact otherPlace

theorem next_eq (next : saved.fallback + 1 < saved.sources) (small : saved.sources ≤ largest 8) :
    Store.next saved = saved.fallback + 1 :=
  Nat.min_eq_left (next.le.trans small)

/-- A row climbs one rung. -/
theorem Sound.advance {moved : Bool} (sound : Sound before)
    (allowed : Allowed before (.advance saved head moved))
    (accepted : (Call.advance saved head moved).apply before = .ok after) :
    Sound after ∧ Step before (.advance saved head moved) after := by
  obtain ⟨idle, placed, next, small, opened⟩ := allowed
  simp only [Call.apply, bind_eq_ok, ensure_eq_ok, next_eq next small] at accepted
  obtain ⟨_, counted, accepted⟩ := accepted
  cases accepted
  have climbs : ∀ row ∈ before.work.rows, Store.movable saved row = true →
      (row.climbed (saved.fallback + 1)).OnRung ∧
        RowStep before (.advance saved head moved) row (row.climbed (saved.fallback + 1)) := by
    intro row member movable
    have all := movable
    simp only [Store.movable, Bool.and_eq_true, beq_iff_eq, Option.isNone_iff_eq_none] at movable
    obtain ⟨⟨⟨⟨sameKey, sameRung⟩, noPacket⟩, failed⟩, -⟩ := movable
    obtain ⟨-, sameStart, sameSources, -⟩ :=
      place_eq_iff.mp (place_of_movable placed member sameKey)
    refine ⟨⟨by rw [← sameSources] at next; exact next, fun packet saved => ?_,
      fun chosen chose => ?_⟩,
      ⟨rfl, rfl, rfl, fun packet saved => ?_,
        fun _ => ⟨⟨saved, head, ?_, ?_⟩, ?_, failed, noPacket⟩,
        fun some => absurd some Bool.false_ne_true⟩⟩
    · cases noPacket.symm.trans saved
    · cases chose
    · cases noPacket.symm.trans saved
    · rw [counted, List.any_eq_true.mpr ⟨row, member, all⟩]
    · rw [sameStart]
      exact opened
    · rw [sameRung]
      rfl
  refine ⟨⟨?_, ?_, fun task fetch listed unfinished =>
    absurd (sound.finished idle listed) unfinished⟩, fun old member => ⟨_,
      List.mem_map_of_mem member, ?_⟩⟩
  · intro row member
    obtain ⟨old, oldMem, rfl⟩ := List.mem_map.mp member
    split
    case isTrue movable => exact (climbs old oldMem movable).1
    case isFalse => exact sound.rows old oldMem
  · intro row member
    obtain ⟨old, oldMem, rfl⟩ := List.mem_map.mp member
    split
    case isTrue => exact sound.starts old oldMem
    case isFalse => exact sound.starts old oldMem
  · split
    case isTrue movable => exact (climbs old member movable).2
    case isFalse => exact .same _ _ _

/-- Every call its program may make keeps the invariant and is a step. -/
theorem sound_of_apply (sound : Sound before) (allowed : Allowed before call)
    (accepted : call.apply before = .ok after) : Sound after ∧ Step before call after := by
  cases call with
  | takeFetch => exact sound.takeFetch accepted
  | track => exact sound.track allowed.1 allowed.2 accepted
  | advance => exact sound.advance allowed accepted
  | launch => exact sound.launch allowed.1 allowed.2 accepted
  | restart =>
    cases accepted
    exact ⟨⟨sound.rows, sound.starts, nofun⟩, fun old member => ⟨old, member, .same _ _ _⟩⟩
  | _ =>
    have kept := kept_of_still sound allowed trivial accepted
    exact ⟨kept.sound, kept.step⟩

/-! ### Every poll is safe -/

/-- What holds along a life: the invariant of the store, and that every commit is a step. -/
structure Inv (initial : Store) (world : World Store Call Empty) : Prop where
  sound : Sound world.store
  follows : Steps initial world

/-- A later world with the rows where they stood and no fetch launched. -/
structure Near (world later : World Store Call Empty) : Prop where
  places : later.store.places = world.store.places
  idle : world.store.fetch = none → later.store.fetch = none

theorem Near.refl (world : World Store Call Empty) : Near world world := ⟨rfl, fun idle => idle⟩

theorem Near.trans {first second third : World Store Call Empty} (earlier : Near first second)
    (later : Near second third) : Near first third :=
  ⟨later.places.trans earlier.places, fun idle => later.idle (earlier.idle idle)⟩

variable {initial : Store} {world later : World Store Call Empty} {Result : Type}
  {post : Result → World Store Call Empty → Prop}

theorem Beside.allowed (beside : Beside call) (store : Store) : Allowed store call := by
  cases beside with
  | refresh _ _ judged => exact judged
  | _ => trivial

theorem Beside.still (beside : Beside call) : Still call := by
  cases beside <;> trivial

/-- An allowed call keeps the invariant. -/
theorem Inv.committed (inv : Inv initial world) (allowed : Allowed world.store call)
    (accepted : call.apply world.store = .ok store) : Inv initial (world.committed call store) := by
  obtain ⟨sound, step⟩ := sound_of_apply inv.sound allowed accepted
  exact ⟨sound, Follows.committed inv.follows step⟩

/-- Other tasks keep the invariant and leave the rows where they stand. -/
theorem Inv.disturbed (inv : Inv initial world)
    (disturbs : Disturbs Call.apply Beside world later) : Inv initial later ∧ Near world later := by
  refine disturbs.keeps (fun other => Inv initial other ∧ Near world other) ?_ ⟨inv, .refl world⟩
  intro other call store beside accepted ⟨otherInv, near⟩
  have kept := kept_of_still otherInv.sound (beside.allowed _) beside.still accepted
  exact ⟨otherInv.committed (beside.allowed _) accepted, near.trans ⟨kept.places, kept.idle⟩⟩

/-- A program is safe for the invariant of a life. -/
abbrev SafeFor (initial : Store) (post : Result → World Store Call Empty → Prop) :
    Process Result → World Store Call Empty → Prop :=
  Safe Call.apply Beside (Inv initial) post

theorem safe_get {post : Store → World Store Call Empty → Prop} (inv : Inv initial world)
    (next : ∀ later, Inv initial later → Near world later → post later.store later) :
    SafeFor initial post Program.get world := by
  intro later disturbs
  obtain ⟨laterInv, near⟩ := inv.disturbed disturbs
  exact next later laterInv near

theorem safe_answer {Answer : Type} {post : Answer → World Store Call Empty → Prop}
    (next : ∀ answer, post answer world) :
    SafeFor initial post (Program.answer Answer) world :=
  next

/-- Making a call that is allowed wherever other tasks have left the store. -/
theorem safe_run {post : Unit → World Store Call Empty → Prop} (inv : Inv initial world)
    (allowed : ∀ later, Inv initial later → Near world later → Allowed later.store call)
    (next : ∀ later store, Near world later → call.apply later.store = .ok store →
      Inv initial (later.committed call store) → post () (later.committed call store)) :
    SafeFor initial post (Program.run call) world := by
  intro later disturbs store accepted
  obtain ⟨laterInv, near⟩ := inv.disturbed disturbs
  have after := laterInv.committed (allowed later laterInv near) accepted
  exact ⟨after, next later store near accepted after⟩

/-- Making a call that leaves the rows where they stand. -/
theorem safe_still {post : Unit → World Store Call Empty → Prop} (inv : Inv initial world)
    (still : Still call)
    (allowed : ∀ later, Inv initial later → Near world later → Allowed later.store call)
    (next : ∀ after, Inv initial after → Near world after → post () after) :
    SafeFor initial post (Program.run call) world := by
  intro later disturbs store accepted
  obtain ⟨laterInv, near⟩ := inv.disturbed disturbs
  have mayCall := allowed later laterInv near
  have after := laterInv.committed mayCall accepted
  have kept := kept_of_still laterInv.sound mayCall still accepted
  exact ⟨after, next _ after (near.trans ⟨kept.places, kept.idle⟩)⟩

/-- A saved row stands in its place, and its columns fit what they are read into. -/
structure Placed (saved : Saved) (world : World Store Call Empty) : Prop where
  place : saved.place ∈ world.store.places
  small : saved.sources ≤ largest 8

theorem Placed.near (placed : Placed saved world) (near : Near world later) : Placed saved later :=
  ⟨by rw [near.places]; exact placed.place, placed.small⟩

theorem Placed.standsAt (placed : Placed saved world) :
    world.store.StandsAt saved.key saved.fallback :=
  Store.standsAt_iff.mpr ⟨_, placed.place, rfl, rfl⟩

section

variable (inv : Inv initial world)

include inv

theorem takeFinished_safe {post : Unit → World Store Call Empty → Prop}
    (next : ∀ after, Inv initial after → post () after) :
    SafeFor initial post takeFinished world := by
  refine Safe.bind (safe_get inv fun later laterInv _ => ?_)
  split
  · exact safe_run laterInv (fun _ _ _ => trivial) fun _ _ _ _ after => next _ after
  · exact next _ laterInv

theorem track_safe {post : ℕ → World Store Call Empty → Prop}
    (next : ∀ start after, Inv initial after → post start after) :
    SafeFor initial post (publisher.track epoch) world := by
  refine Safe.bind (safe_answer fun reads => ?_)
  split
  case isFalse => trivial
  case isTrue counted =>
    split
    case isFalse => trivial
    case isTrue fits =>
      refine Safe.bind (safe_run inv (fun _ _ _ => ⟨counted.1, fits.2⟩) fun _ _ _ _ after => ?_)
      split
      · exact Safe.bind (safe_still after trivial (fun _ _ _ => trivial)
          fun last lastInv _ => next _ last lastInv)
      · exact next _ _ after

theorem current_safe {post : Option (ℕ × ℕ) → World Store Call Empty → Prop}
    (next : ∀ found after, Inv initial after → post found after) :
    SafeFor initial post (publisher.current head) world := by
  refine Safe.bind (safe_get inv fun later laterInv _ => ?_)
  split
  · exact next _ _ laterInv
  · refine Safe.bind (safe_answer fun epoch => ?_)
    split
    · exact next _ _ laterInv
    · refine Safe.bind (track_safe laterInv fun start tracked trackedInv => ?_)
      exact Safe.bind (safe_still trackedInv trivial (fun _ _ _ => trivial)
        fun last lastInv _ => next _ last lastInv)

theorem target_safe {demanded : Option ℕ} {found : ℕ × ℕ}
    {post : ℕ × ℕ → World Store Call Empty → Prop}
    (next : ∀ pair after, Inv initial after → post pair after) :
    SafeFor initial post (publisher.target demanded found) world := by
  unfold Publisher.target
  split
  · exact Safe.bind (track_safe inv fun start tracked trackedInv => next _ tracked trackedInv)
  · exact next _ _ inv

/-- The row that `work` reads stands in its place. -/
theorem work_safe {key : String} {post : Saved → World Store Call Empty → Prop}
    (next : ∀ saved after, Inv initial after → Near world after → Placed saved after →
      post saved after) :
    SafeFor initial post (work key) world := by
  refine Safe.bind (safe_get inv fun later laterInv near => ?_)
  split
  case h_1 => trivial
  case h_2 row found =>
    split
    case isFalse => trivial
    case isTrue fits =>
      exact next _ later laterInv near
        ⟨List.mem_map.mpr ⟨row, List.mem_of_find?_eq_some found, rfl⟩, fits.2⟩

end

/-- A statement of `advance_fallback` that changes no row leaves them where they stand. -/
theorem places_of_not_moved (accepted : (Call.advance saved head false).apply before = .ok after) :
    after.places = before.places := by
  simp only [Call.apply, bind_eq_ok, ensure_eq_ok] at accepted
  obtain ⟨_, none, accepted⟩ := accepted
  cases accepted
  show (List.map _ _).map Work.place = _
  rw [List.map_map]
  refine List.map_congr_left fun row member => ?_
  have still := List.any_eq_false.mp none.symm row member
  rw [Function.comp_apply, if_neg still]

section

variable (inv : Inv initial world)

include inv

/-- The move to the next source is allowed while no fetch is under way. -/
theorem advanceFallback_safe {post : Bool → World Store Call Empty → Prop}
    (placed : Placed saved world) (idle : world.store.fetch = none)
    (next : ∀ moved after, Inv initial after → (moved = false → Placed saved after) →
      post moved after) : SafeFor initial post (advanceFallback saved head) world := by
  unfold advanceFallback
  split
  case isTrue => exact next false world inv fun _ => placed
  case isFalse refused =>
    simp only [Bool.or_eq_true, decide_eq_true_eq, not_or, Nat.not_le, Nat.not_lt] at refused
    obtain ⟨⟨-, rung⟩, opened⟩ := refused
    obtain ⟨row, member, place⟩ := List.mem_map.mp placed.place
    have fits := inv.sound.starts row member
    rw [(place_eq_iff.mp place).2.1] at fits
    have small := placed.small
    have nextRung : saved.fallback + 1 < saved.sources := by
      unfold Store.next saturating largest at rung
      unfold largest at small
      omega
    rw [next_eq nextRung small, saturating, largest] at opened
    have window : saved.start + (saved.fallback + 1) * fallbackDelayBlocks ≤ head := by
      unfold fallbackDelayBlocks maxI64 largest at *
      omega
    refine Safe.bind (safe_answer fun moved => ?_)
    refine Safe.bind (safe_run inv (fun later _ near => ⟨near.idle idle, (placed.near near).place,
      nextRung, small, window⟩) fun later store near accepted after => ?_)
    refine next moved _ after fun still => ?_
    subst still
    have same := places_of_not_moved accepted
    exact ⟨by show _ ∈ store.places; rw [same]; exact (placed.near near).place, small⟩

theorem climb_safe {post : Saved → World Store Call Empty → Prop}
    (placed : Placed saved world)
    (next : ∀ saved after, Inv initial after → Placed saved after → post saved after) :
    SafeFor initial post (climb saved head) world := by
  refine Safe.bind (safe_get inv fun later laterInv near => ?_)
  split
  case isFalse => exact next saved later laterInv (placed.near near)
  case isTrue idle =>
    refine Safe.bind (advanceFallback_safe laterInv (placed.near near)
      (Option.isNone_iff_eq_none.mp idle) fun moved after afterInv stays => ?_)
    cases moved with
    | false => exact next saved after afterInv (stays rfl)
    | true =>
      exact work_safe afterInv fun again last lastInv _ lastPlaced =>
        next again last lastInv lastPlaced

theorem selectSource_safe {start : ℕ} {live : Bool}
    {post : Option Selection → World Store Call Empty → Prop}
    (placed : Placed saved world)
    (next : ∀ selected after, Inv initial after → Near world after → post selected after) :
    SafeFor initial post (selectSource saved epoch start live) world := by
  refine Safe.bind (safe_answer fun selection => ?_)
  refine Safe.bind (safe_get inv fun later laterInv near => ?_)
  split
  case h_1 => trivial
  case h_2 row found =>
    split
    case isFalse => trivial
    case isTrue =>
      refine Safe.bind (safe_answer fun fresh => ?_)
      split
      case isTrue => exact next none later laterInv near
      case isFalse =>
        refine Safe.bind (safe_get laterInv fun last lastInv lastNear => ?_)
        split
        case isTrue => exact next none last lastInv (near.trans lastNear)
        case isFalse =>
          refine Safe.bind (safe_answer fun now => ?_)
          split
          case isFalse => trivial
          case isTrue =>
            exact Safe.bind (safe_still lastInv trivial
              (fun other _ otherNear =>
                (placed.near ((near.trans lastNear).trans otherNear)).standsAt)
              fun after afterInv afterNear =>
                next _ after afterInv ((near.trans lastNear).trans afterNear))

theorem sourceOrRefuse_safe {key : String} {number : ℕ} {selection : Selection}
    {post : Bool → World Store Call Empty → Prop}
    (next : ∀ served after, Inv initial after → Near world after → post served after) :
    SafeFor initial post (sourceOrRefuse keccak256 key number selection) world := by
  refine Safe.bind (safe_answer fun read => Safe.bind (safe_answer fun now => ?_))
  have refuse : ∀ error, SafeFor initial post
      (Program.run (.recordFailure key number (.permanent error) now) >>= fun _ => pure false)
      world := fun error =>
    Safe.bind (safe_still inv trivial (fun _ _ _ => trivial)
      fun after afterInv near => next false after afterInv near)
  cases read with
  | notABeacon error =>
    show SafeFor initial post (if 2 ≤ number then _ else _) world
    split
    · exact refuse error
    · trivial
  | known =>
    dsimp only
    split
    · exact next true world inv (.refl world)
    · exact refuse _

theorem launchFetch_safe {start : ℕ} {live : Bool} {post : Unit → World Store Call Empty → Prop}
    (placed : Placed saved world) (idle : world.store.fetch = none)
    (next : ∀ after, Inv initial after → post () after) :
    SafeFor initial post (launchFetch keccak256 saved epoch start live) world := by
  refine Safe.bind (selectSource_safe inv placed fun selected later laterInv near => ?_)
  cases selected with
  | none => exact next later laterInv
  | some =>
    refine Safe.bind (sourceOrRefuse_safe laterInv fun served last lastInv lastNear => ?_)
    cases served with
    | false => exact next last lastInv
    | true =>
      refine safe_run lastInv (fun other _ otherNear => ?_) fun _ _ _ _ after => next _ after
      have all := (near.trans lastNear).trans otherNear
      exact ⟨all.idle idle, (placed.near all).standsAt⟩

theorem prepareEpoch_safe {head : Head} {demanded : Option ℕ} {start : ℕ} :
    SafeFor initial (fun _ _ => True)
      (prepareEpoch keccak256 publisher head demanded epoch start) world := by
  refine Safe.bind (work_safe inv fun first later laterInv _ placed => ?_)
  split
  case isTrue => trivial
  case isFalse =>
    refine Safe.bind (climb_safe laterInv placed fun saved after afterInv savedPlaced => ?_)
    refine Safe.bind (safe_answer fun now => ?_)
    split
    case isTrue => trivial
    case isFalse =>
      refine Safe.bind (safe_get afterInv fun last lastInv near => ?_)
      split
      case isTrue => trivial
      case isFalse busy =>
        rw [Bool.not_eq_true, Option.isSome_eq_false_iff, Option.isNone_iff_eq_none] at busy
        exact Safe.bind (launchFetch_safe lastInv (savedPlaced.near near) busy
          fun _ _ => trivial)

/-- A poll is safe, whatever it is answered and wherever it is cut off. -/
theorem poll_safe {head : Head} {demanded : Option ℕ} :
    SafeFor initial (fun _ _ => True) (poll keccak256 publisher head demanded) world := by
  refine Safe.bind (takeFinished_safe inv fun first firstInv => ?_)
  refine Safe.bind (current_safe firstInv fun found later laterInv => ?_)
  cases found with
  | none => trivial
  | some pair =>
    refine Safe.bind (safe_answer fun keys => ?_)
    refine Safe.bind (safe_still laterInv trivial (fun _ _ _ => trivial) fun kept keptInv _ => ?_)
    exact Safe.bind (target_safe keptInv fun pair after afterInv => prepareEpoch_safe afterInv)

end

/-- A journal without epoch work is sound before the first poll. -/
theorem Sound.start (untracked : initial.work.rows = []) (unfetched : initial.tasks = []) :
    Sound initial where
  rows := by
    intro row member
    rw [untracked] at member
    exact absurd member List.not_mem_nil
  starts := by
    intro row member
    rw [untracked] at member
    exact absurd member List.not_mem_nil
  fetching := by
    intro task fetch listed
    rw [unfetched, List.getElem?_nil] at listed
    cases listed

/-- With one publisher, whatever polls run and are cut off and whatever the fetches, the refreshes,
signing and the resolution of nonces do between their steps: what a row saved belongs to the rung it
is on, the rung exists, and every commit is a step: a packet is replaced by the refresh of a stale
beacon alone and with nothing in flight, and the rung rises by one, after a recorded failure without
a packet and once the window of the next attempt is open. -/
theorem ladder_kept_by_every_life (keccak256 : Evm.Bytes → Evm.Bytes32) (publisher : Publisher)
    (initial : Store) (untracked : initial.work.rows = []) (unfetched : initial.tasks = [])
    {world : World Store Call Empty}
    (lives : Lives Call.apply Beside (Polls keccak256 publisher) initial world) :
    (∀ row ∈ world.store.work.rows, row.OnRung) ∧ Steps initial world := by
  have inv : Inv initial world := by
    refine lives.invariant ⟨.start untracked unfetched, Follows.start⟩ ?_ ?_
    · intro other call store beside accepted otherInv
      exact otherInv.committed (beside.allowed _) accepted
    · intro program polls other otherInv
      cases polls with
      | poll => exact Safe.bind ((poll_safe otherInv).mono fun _ _ _ => trivial)
      | restart => exact safe_run otherInv (fun _ _ _ => trivial) fun _ _ _ _ _ => trivial
  exact ⟨inv.sound.rows, inv.follows⟩

/-- A network whose rounds come every three seconds. -/
def quickBeacon : EpochBeacon := ⟨⟨1⟩, 1, 3, 0, []⟩

/-- The recipe that registers it. -/
def quickRecipe : Beacon.RegisteredRecipe :=
  ⟨Beacon.request quickBeacon, Beacon.template, Beacon.request quickBeacon, some quickBeacon⟩

/-- The selection of that recipe as the source so many slots after the first. -/
def quickSelection (source : ℕ) : Selection :=
  ⟨source, 0, 0, 0, 0, Beacon.request quickBeacon⟩

/-- A journal without rows. -/
def blankStore : Store := ⟨.empty, .empty, .empty, .empty, none, [], none⟩

/-- A life in which the first source fails, the ladder moves to the second at the first block of its
window and the packet of that source is saved. -/
theorem ladder_kept_by_every_life_second : ∃ world : World Store Call Empty,
    Lives Call.apply Beside (Polls (fun _ => 0) ⟨"", ""⟩) blankStore world ∧
    world.store.work.rows.map (fun row => (row.fallback, row.api.map Obtained.attempt)) =
      [(1, some 1)] ∧
    (∀ row ∈ world.store.work.rows, row.OnRung) ∧ Steps blankStore world := by
  have first : Lives Call.apply Beside (Polls (fun _ => 0) ⟨"", ""⟩) blankStore _ :=
    Lives.start.process _ (.poll ⟨200, "", 9⟩ none)
      (.read <| .read <| .ask 1 <| .ask ⟨200, false, 2⟩ <| .commit rfl <| .commit rfl <|
        .ask ([] : List String) <| .commit rfl <| .read <| .read <| .ask 0 <| .read <| .ask (quickSelection 0) <| .read <|
        .ask ⟨200, "", 9⟩ <| .read <| .ask 0 <| .commit rfl <| .ask (.known quickRecipe) <|
        .ask 0 <| .commit rfl <|
        .disturbed (.more (.more (.none _) (Beside.fetchFailed 0 (.beacon "No relay") 0) rfl)
          (Beside.fetchEnds 0) rfl) <| .stop _ _)
  have second : Lives Call.apply Beside (Polls (fun _ => 0) ⟨"", ""⟩) blankStore _ :=
    first.process _ (.poll ⟨220, "", 19⟩ none)
      (.read <| .commit rfl <| .read <| .ask ([] : List String) <| .commit rfl <| .read <| .read <|
        .ask true <| .commit rfl <| .read <| .ask 0 <| .read <| .ask (quickSelection 1) <| .read <| .ask ⟨220, "", 19⟩ <|
        .read <| .ask 0 <| .commit rfl <| .ask (.known quickRecipe) <| .ask 0 <| .commit rfl <|
        .disturbed (.more (.none _) (Beside.fetchSaved 1 ⟨4, [], []⟩) rfl) <| .stop _ _)
  exact ⟨_, second, rfl, ladder_kept_by_every_life _ _ blankStore rfl rfl second⟩

end D20.EpochLane
