/-
This file proves how far a migration to another coordinator isolates the new coordinator's requests
from records about the old one's. The jobs, the members of batches and the preflight delays are
gone, and a demand row is written anew when a request is discovered, so none of these can be seen.
The retry times and the exclusions from batches stay under the ids of the old requests, and a new
request of such an id is delayed or excluded by them: no sequence of discoveries, preparations and
queries tells two sources apart exactly if they agree on these two for the ids the new requests
have.
-/

import D20Keeper.RequestQueue

namespace D20.RequestQueue

open Journal
open JobBook (ne_append_of_starts)
open EpochLane (EpochDemand)

variable {one other store after : Store} {ids : String → Prop}

/-! ### Two journals that the queue cannot tell apart -/

/-- A key of `meta` that carries the id of a request. -/
def RequestKey (key : String) : Prop :=
  ∃ id, key = retryKey id ∨ key = preflightKey id ∨ key = excludeKey id

/-- The journal without its records about requests. -/
def withoutRequests (journal : Journal) : Journal :=
  { journal with jobs := .empty, batchMembers := .empty, metaText := fun _ => none }

/-- Two journals that differ only in records about single requests: job rows, retry times, preflight
delays, exclusions from batches, members of batches and the rows of demand. -/
structure DifferInRequests (one other : Store) : Prop where
  text : ∀ key, ¬RequestKey key → one.metaText key = other.metaText key
  rest : withoutRequests one.book.journal = withoutRequests other.book.journal
  work : one.work = other.work

/-- Two journals agree on the retry times and on the exclusions of some ids. -/
def Agree (ids : String → Prop) (one other : Store) : Prop :=
  ∀ id, ids id →
    readTime (one.metaText (retryKey id)) = readTime (other.metaText (retryKey id)) ∧
      (one.metaText (excludeKey id)).isSome = (other.metaText (excludeKey id)).isSome

/-- Discoveries are of requests with these ids. -/
def Op.Within (ids : String → Prop) : Op → Prop
  | .discover id _ _ _ => ids id
  | _ => True

/-- No sequence of discoveries, preparations and queries tells two journals apart. -/
def Isolated (ids : String → Prop) (one other : Store) : Prop :=
  ∀ ops : List Op, (∀ op ∈ ops, op.Within ids) → answers one ops = answers other ops

/-- Two journals with the same jobs, all of these ids, that agree on what lies under them. -/
structure Alike (ids : String → Prop) (one other : Store) : Prop where
  jobs : one.book.journal.jobs = other.book.journal.jobs
  within : ∀ job ∈ one.jobs, ids job.id
  work : one.work = other.work
  agree : Agree ids one other
  preflight : ∀ id, one.metaText (preflightKey id) = other.metaText (preflightKey id)
  demand : ∀ id epoch, id ∈ one.jobs.map Job.id →
    (⟨id, epoch⟩ ∈ one.book.epochDemand.rows ↔ ⟨id, epoch⟩ ∈ other.book.epochDemand.rows)

variable {key id : String} {journal : Journal}

theorem Store.metaText_setMeta {value name : String} :
    (store.setMeta key value).metaText name =
      if name = key then some value else store.metaText name := rfl

/-! ### The steps keep them alike -/

/-- The same text under the same key. -/
theorem Alike.setMeta (alike : Alike ids one other) (key value : String) :
    Alike ids (one.setMeta key value) (other.setMeta key value) where
  jobs := alike.jobs
  within := alike.within
  work := alike.work
  agree := by
    intro id isId
    simp only [Store.metaText_setMeta]
    obtain ⟨time, excluded⟩ := alike.agree id isId
    refine ⟨?_, ?_⟩
    · split
      case isTrue => rfl
      case isFalse => exact time
    · split
      case isTrue => rfl
      case isFalse => exact excluded
  preflight := by
    intro id
    simp only [Store.metaText_setMeta, alike.preflight id]
  demand := alike.demand

theorem Alike.noteClaims (alike : Alike ids one other) (wallNow : ℕ) (jobs : List Job) :
    Alike ids (noteClaims wallNow jobs one) (noteClaims wallNow jobs other) := by
  unfold RequestQueue.noteClaims
  induction jobs generalizing one other with
  | nil => exact alike
  | cons job rest inductionHypothesis => exact inductionHypothesis (alike.setMeta _ _)

/-- The same update of the jobs. -/
theorem Alike.updateJobs (alike : Alike ids one other) {condition : Job → Bool} {change : Job → Job}
    {kept : ∀ job, (change job).id = job.id} :
    Alike ids (one.withJournal (one.book.journal.updateJobs condition change kept))
      (other.withJournal (other.book.journal.updateJobs condition change kept)) where
  jobs := by
    show one.book.journal.jobs.update condition change kept = _
    rw [alike.jobs]
    rfl
  within := by
    intro job member
    have listed : job.id ∈ one.jobs.map Job.id := by
      have sameIds := @Journal.updateJobs_ids one.book.journal condition change kept
      rw [Store.jobs, ← sameIds]
      exact List.mem_map_of_mem member
    obtain ⟨old, isOld, same⟩ := List.mem_map.mp listed
    exact same ▸ alike.within old isOld
  work := alike.work
  agree := alike.agree
  preflight := alike.preflight
  demand := by
    intro id epoch listed
    refine alike.demand id epoch ?_
    have sameIds := @Journal.updateJobs_ids one.book.journal condition change kept
    rw [Store.jobs, ← sameIds]
    exact listed

/-- The rows of demand after one is written. -/
theorem mem_upsert_demand {table : Table EpochDemand String EpochDemand.job} {name : String}
    {epoch number : ℕ} :
    ⟨name, number⟩ ∈ (table.upsert ⟨id, epoch⟩ (fun row => { row with epoch := epoch })
        fun _ => rfl).rows ↔
      (name = id ∧ number = epoch) ∨ (name ≠ id ∧ ⟨name, number⟩ ∈ table.rows) := by
  rcases table.upsert_rows (fun row => { row with epoch := epoch }) (fun _ => rfl) ⟨id, epoch⟩ with
    ⟨fresh, rows⟩ | ⟨known, rows⟩
  · rw [rows, List.mem_append, List.mem_singleton, EpochDemand.mk.injEq, or_comm]
    refine or_congr_right ⟨fun member => ⟨fun same => fresh ?_, member⟩, And.right⟩
    exact List.mem_map.mpr ⟨_, member, same⟩
  · rw [rows, List.mem_map]
    constructor
    · rintro ⟨old, member, changed⟩
      split at changed
      case isTrue same =>
        cases changed
        exact .inl ⟨beq_iff_eq.mp same, rfl⟩
      case isFalse different =>
        cases changed
        exact .inr ⟨fun same => different (beq_iff_eq.mpr same), member⟩
    · rintro (⟨rfl, rfl⟩ | ⟨different, member⟩)
      · obtain ⟨old, member, same⟩ := List.mem_map.mp known
        refine ⟨old, member, ?_⟩
        rw [if_pos (beq_iff_eq.mpr same)]
        exact congrArg (EpochDemand.mk · number) same
      · exact ⟨_, member, if_neg fun same => different (beq_iff_eq.mp same)⟩

section

variable (alike : Alike ids one other)

include alike

theorem Alike.writeDemand (id : String) (epoch : ℕ) :
    Alike ids (one.writeDemand id epoch) (other.writeDemand id epoch) where
  jobs := alike.jobs
  within := alike.within
  work := alike.work
  agree := alike.agree
  preflight := alike.preflight
  demand := by
    intro name number listed
    unfold Store.writeDemand
    dsimp only
    rw [mem_upsert_demand, mem_upsert_demand]
    exact or_congr_right (and_congr_right fun _ => alike.demand name number listed)

/-- The same discovery of a request with one of the ids. -/
theorem Alike.discovered (isId : ids id) (deadline : ℤ)
    (next : String) (epoch : ℕ) :
    Alike ids
      ((one.withJournal (one.book.journal.discovered id deadline next)).writeDemand id epoch)
      ((other.withJournal (other.book.journal.discovered id deadline next)).writeDemand id
        epoch) := by
  have texts := alike.setMeta "cursor" next
  refine ⟨?_, fun job member => ?_, alike.work, texts.agree, texts.preflight,
    fun name number listed => ?_⟩
  · show one.book.journal.jobs.insertOrIgnore { id := id, deadline := deadline } = _
    rw [alike.jobs]
    rfl
  · rcases (one.book.journal.jobs.mem_keys_insertOrIgnore { id := id, deadline := deadline }).mp
      (List.mem_map_of_mem member) with known | same
    · obtain ⟨old, isOld, same⟩ := List.mem_map.mp known
      exact same ▸ alike.within old isOld
    · exact same ▸ isId
  · unfold Store.writeDemand
    dsimp only
    rw [mem_upsert_demand, mem_upsert_demand]
    refine or_congr_right (and_congr_right fun different => alike.demand name number ?_)
    exact ((one.book.journal.jobs.mem_keys_insertOrIgnore { id := id, deadline := deadline }).mp
      listed).resolve_right different

/-! ### They have the same answers -/

theorem Alike.claimable_eq (wallNow eligibleAfter : ℕ) :
    claimable one wallNow eligibleAfter = claimable other wallNow eligibleAfter := by
  have jobs : one.jobs = other.jobs := congrArg Table.rows alike.jobs
  unfold claimable
  rw [← jobs]
  refine List.filter_congr fun job member => ?_
  rw [(alike.agree job.id (alike.within job member)).1]

/-- The same jobs are claimed. -/
theorem Alike.claimed_eq (wallNow eligibleAfter : ℕ)
    (excluded : List String) (tailFirst : Bool) :
    claimed one wallNow eligibleAfter excluded tailFirst =
      claimed other wallNow eligibleAfter excluded tailFirst := by
  have times : ∀ job ∈ claimable other wallNow eligibleAfter,
      readTime (one.metaText (retryKey job.id)) = readTime (other.metaText (retryKey job.id)) := by
    intro job member
    rw [← alike.claimable_eq] at member
    exact (alike.agree job.id (alike.within job (List.mem_of_mem_filter member))).1
  have head : Page.first (headOrder one) 16 (claimable other wallNow eligibleAfter) =
      Page.first (headOrder other) 16 (claimable other wallNow eligibleAfter) := by
    refine Page.first_congr fun job member => ?_
    unfold headOrder
    rw [times job member]
  have tail : Page.first (tailOrder one) 16 (claimable other wallNow eligibleAfter) =
      Page.first (tailOrder other) 16 (claimable other wallNow eligibleAfter) := by
    refine Page.first_congr fun job member => ?_
    unfold tailOrder
    rw [times job member]
  unfold claimed
  rw [alike.claimable_eq]
  dsimp only
  rw [head, tail]

theorem Alike.preparedPage_eq (now : ℕ) (tail : Bool) :
    preparedPage one now tail = preparedPage other now tail := by
  have jobs : one.jobs = other.jobs := congrArg Table.rows alike.jobs
  unfold preparedPage
  rw [jobs]
  simp only [alike.preflight]

theorem Alike.batchExcludedPrepared_eq :
    batchExcludedPrepared one = batchExcludedPrepared other := by
  have jobs : one.jobs = other.jobs := congrArg Table.rows alike.jobs
  unfold batchExcludedPrepared
  rw [← jobs]
  refine congrArg (fun rows => (rows.map Job.id).toFinset) (List.filter_congr fun job member => ?_)
  rw [(alike.agree job.id (alike.within job member)).2]

end

/-- What comes first depends on which rows there are. -/
theorem earliest_congr {first second : List (ℤ × ℕ)}
    (same : ∀ demand, demand ∈ first ↔ demand ∈ second) : earliest first = earliest second := by
  have every : ∀ one : ℤ × ℕ, first.all (fun other => decide (one.1 ≤ other.1)) =
      second.all fun other => decide (one.1 ≤ other.1) := by
    intro one
    rw [Bool.eq_iff_iff, List.all_eq_true, List.all_eq_true]
    exact forall_congr' fun other => imp_congr_left (same other)
  ext epoch
  unfold earliest
  simp only [List.mem_toFinset, List.mem_map, List.mem_filter, every, same]

/-- The rows of live demand. -/
theorem mem_liveDemand {registry catalog : String} {after : ℕ} {demand : ℤ × ℕ} :
    demand ∈ liveDemand store registry catalog after ↔
      ∃ job ∈ store.jobs, ⟨job.id, demand.2⟩ ∈ store.book.epochDemand.rows ∧
        job.deadline = demand.1 ∧ isLive job = true ∧ (after : ℤ) < job.deadline ∧
        epochOpen store registry catalog demand.2 = true := by
  unfold liveDemand
  simp only [List.mem_flatMap, List.mem_map, List.mem_filter, Bool.and_eq_true, beq_iff_eq,
    decide_eq_true_eq]
  constructor
  · rintro ⟨wanted, listed, job, ⟨member, ⟨⟨sameId, live⟩, late⟩, isOpen⟩, rfl⟩
    exact ⟨job, member, sameId ▸ listed, rfl, live, late, isOpen⟩
  · rintro ⟨job, member, listed, deadline, live, late, isOpen⟩
    exact ⟨_, listed, job, ⟨member, ⟨⟨rfl, live⟩, late⟩, isOpen⟩, Prod.ext deadline rfl⟩

/-- The same epochs are demanded. -/
theorem Alike.demandedEpochs_eq (alike : Alike ids one other) (registry catalog : String)
    (after : ℕ) :
    demandedEpochs one registry catalog after = demandedEpochs other registry catalog after := by
  have jobs : one.jobs = other.jobs := congrArg Table.rows alike.jobs
  have same : ∀ after, earliest (liveDemand one registry catalog after) =
      earliest (liveDemand other registry catalog after) := by
    intro after
    refine earliest_congr fun demand => ?_
    rw [mem_liveDemand, mem_liveDemand, ← jobs]
    have work : epochOpen one registry catalog demand.2 =
        epochOpen other registry catalog demand.2 := by
      unfold epochOpen
      rw [alike.work]
    rw [work]
    refine exists_congr fun job => and_congr_right fun member => and_congr_left fun _ => ?_
    exact alike.demand job.id demand.2 (List.mem_map_of_mem member)
  unfold demandedEpochs
  simp only [same]

theorem discoveredEpoch_eq {next : String} {deadline : ℤ} {epoch : ℕ} :
    discoveredEpoch store id deadline next epoch = (tryI64 epoch).map fun _ =>
      (store.withJournal (store.book.journal.discovered id deadline next)).writeDemand id
        epoch := by
  unfold discoveredEpoch JobBook.discoveredEpoch
  dsimp only
  cases tryI64 epoch with
  | error => rfl
  | ok => rfl

/-- A step has the same answer and keeps them alike. -/
theorem Alike.run (alike : Alike ids one other) {op : Op} (within : op.Within ids) :
    (op.run one).2 = (op.run other).2 ∧ Alike ids (op.run one).1 (op.run other).1 := by
  cases op with
  | discover id deadline next epoch =>
    unfold Op.run
    dsimp only
    rw [discoveredEpoch_eq, discoveredEpoch_eq]
    cases tryI64 epoch with
    | error => exact ⟨rfl, alike⟩
    | ok => exact ⟨rfl, alike.discovered within deadline next epoch⟩
  | claim wallNow eligibleAfter excluded tailFirst =>
    unfold Op.run claimPreparation
    dsimp only
    cases ensure (excluded.length ≤ 8) "Preparation exclusion exceeds one batch" with
    | error => exact ⟨rfl, alike⟩
    | ok =>
      cases tryI64 eligibleAfter with
      | error => exact ⟨rfl, alike⟩
      | ok eligibleAfter =>
        cases tryI64 wallNow with
        | error => exact ⟨rfl, alike⟩
        | ok wallNow =>
          have same := alike.claimed_eq wallNow eligibleAfter excluded tailFirst
          refine ⟨congrArg Answer.jobs same, ?_⟩
          show Alike ids (RequestQueue.noteClaims wallNow (claimed one _ _ _ _) one)
            (RequestQueue.noteClaims wallNow (claimed other _ _ _ _) other)
          rw [same]
          exact alike.noteClaims wallNow _
  | noteDemand id epoch =>
    unfold Op.run RequestQueue.noteDemand
    dsimp only
    cases tryI64 epoch with
    | error => exact ⟨rfl, alike⟩
    | ok epoch => exact ⟨rfl, alike.writeDemand id epoch⟩
  | settle => exact ⟨rfl, alike.updateJobs⟩
  | prepare => exact ⟨rfl, alike.updateJobs⟩
  | preparedDue now tail =>
    unfold Op.run
    dsimp only
    rw [alike.preparedPage_eq]
    cases preparedPage other now tail with
    | error => exact ⟨rfl, alike⟩
    | ok => exact ⟨rfl, alike⟩
  | batchExcluded => exact ⟨congrArg Answer.ids alike.batchExcludedPrepared_eq, alike⟩
  | demanded registry catalog after =>
    unfold Op.run
    dsimp only
    rw [alike.demandedEpochs_eq]
    cases demandedEpochs other registry catalog after with
    | error => exact ⟨rfl, alike⟩
    | ok => exact ⟨rfl, alike⟩

theorem Alike.isolated (alike : Alike ids one other) : Isolated ids one other := by
  intro ops within
  induction ops generalizing one other with
  | nil => rfl
  | cons op rest inductionHypothesis =>
    obtain ⟨answer, still⟩ := alike.run (within op List.mem_cons_self)
    unfold answers
    rw [answer, inductionHypothesis still fun later member =>
      within later (List.mem_cons_of_mem _ member)]

/-! ### What the destination's journal has -/

theorem like_percent (text : List Char) : like ['%'] text = true :=
  List.any_eq_true.mpr ⟨[], (List.mem_tails _ _).mpr List.nil_suffix, rfl⟩

theorem coordinatorKey_preflightKey (id : String) : coordinatorKey (preflightKey id) = true := by
  have chars : (preflightKey id).toList = "preflight_retry:".toList ++ id.toList :=
    String.toList_append
  unfold coordinatorKey
  rw [chars, Bool.or_eq_true, Bool.or_eq_true]
  exact .inl (.inr (like_percent id.toList))

/-- The retry times of requests and their exclusions from batches stay. -/
theorem keeps_requestKey {key : String → String} (isKey : key = retryKey ∨ key = excludeKey)
    (id : String) : coordinatorKey (key id) = false ∧ senderKey (key id) = false := by
  have apart : key id ≠ "cursor" ∧ key id ≠ "send_cursor" := by
    rcases isKey with rfl | rfl <;> constructor <;>
      exact (ne_append_of_starts rfl rfl (by decide)).symm
  unfold coordinatorKey senderKey
  rw [beq_false_of_ne apart.1, beq_false_of_ne apart.2]
  rcases isKey with rfl | rfl
  · rw [show (retryKey id).toList = _ from String.toList_append]
    exact ⟨rfl, rfl⟩
  · rw [show (excludeKey id).toList = _ from String.toList_append]
    exact ⟨rfl, rfl⟩

/-- The keys that initializing the destination writes. -/
def ownKeys : List String :=
  ["audit:suspended", "scope", "instance_id", "runtime:pins", "migration_id"]

/-- A key that starts like those of a request is not one of those that initializing writes. -/
theorem not_mem_ownKeys {first : Char} {rest : List Char} (starts : key.toList = first :: rest)
    (isRequest : first = 'p' ∨ first = 'b') : key ∉ ownKeys := by
  have heads : ∀ own ∈ ownKeys, own.toList.head? ≠ some 'p' ∧ own.toList.head? ≠ some 'b' := by
    decide
  intro member
  obtain ⟨notRetry, notExcluded⟩ := heads key member
  rw [starts] at notRetry notExcluded
  rcases isRequest with rfl | rfl
  · exact notRetry rfl
  · exact notExcluded rfl

/-- What lies under the ids of requests after it. -/
structure Inherits (source after : Store) : Prop where
  jobs : after.book.journal.jobs = .empty
  work : after.work = source.work
  retry : ∀ id, after.metaText (retryKey id) = source.metaText (retryKey id)
  excluded : ∀ id, after.metaText (excludeKey id) = source.metaText (excludeKey id)
  preflight : ∀ id, after.metaText (preflightKey id) = none

variable {plan : Transition} (coordinators : plan.oldCoordinator ≠ plan.newCoordinator)

include coordinators

/-- The text under a key after the records of the old coordinator and sender are gone. -/
theorem metaText_clearRecords :
    (clearRecords plan journal).metaText key =
      if coordinatorKey key = true ∨ (plan.oldSender ≠ plan.newSender ∧ senderKey key = true) then
        none
      else journal.metaText key := by
  unfold clearRecords
  rw [if_pos (.inl coordinators), if_pos coordinators]
  show (if _ then _ else _ : Journal).metaText key = _
  split
  case isTrue senders =>
    show (if senderKey key = true then none else if coordinatorKey key = true then none
      else journal.metaText key) = _
    by_cases isSender : senderKey key = true
    · rw [if_pos isSender, if_pos (.inr ⟨senders, isSender⟩)]
    · rw [if_neg isSender]
      exact if_congr ⟨.inl, fun either => either.resolve_right fun both => isSender both.2⟩ rfl rfl
  case isFalse senders =>
    exact if_congr ⟨.inl, fun either => either.resolve_right fun both => senders both.1⟩ rfl rfl

theorem jobs_clearRecords : (clearRecords plan journal).jobs = .empty := by
  unfold clearRecords
  rw [if_pos (.inl coordinators), if_pos coordinators]
  split
  case isTrue => rfl
  case isFalse => rfl

variable (initialized : initializeSnapshot plan store = .ok after)

include initialized

/-- The text under a key that initializing does not write. -/
theorem metaText_initializeSnapshot (foreign : key ∉ ownKeys) :
    after.metaText key =
      if coordinatorKey key = true ∨ (plan.oldSender ≠ plan.newSender ∧ senderKey key = true) then
        none
      else store.metaText key := by
  obtain ⟨_, -, same⟩ := bind_eq_ok.mp initialized
  cases same
  simp only [ownKeys, List.mem_cons, List.not_mem_nil, or_false, not_or] at foreign
  obtain ⟨audit, scope, identity, pins, migration⟩ := foreign
  have identified : ∀ journal, (identify plan journal).metaText key = journal.metaText key :=
    fun journal => (metaText_setMeta_of_ne migration).trans ((metaText_setMeta_of_ne pins).trans
      ((metaText_setMeta_of_ne identity).trans (metaText_setMeta_of_ne scope)))
  have cleared : (clearRecords plan (store.book.journal.setMeta "audit:suspended" "1")).metaText
      key = _ := metaText_clearRecords coordinators
  rw [metaText_setMeta_of_ne audit] at cleared
  refine Eq.trans ?_ ((identified _).trans cleared)
  refine if_neg ?_
  rwa [beq_iff_eq]

theorem jobs_initializeSnapshot :
    after.book.journal.jobs = .empty ∧ after.work = store.work := by
  obtain ⟨_, -, same⟩ := bind_eq_ok.mp initialized
  cases same
  refine ⟨?_, rfl⟩
  simp only [deleteMeta, identify, setMeta]
  exact jobs_clearRecords coordinators

theorem inherits_initializeSnapshot : Inherits store after := by
  obtain ⟨jobs, work⟩ := jobs_initializeSnapshot coordinators initialized
  refine ⟨jobs, work, fun id => ?_, fun id => ?_, fun id => ?_⟩
  · obtain ⟨coordinator, sender⟩ := keeps_requestKey (.inl rfl) id
    rw [metaText_initializeSnapshot coordinators initialized
      (not_mem_ownKeys (String.toList_append ..) (.inl rfl)), if_neg]
    rw [coordinator, sender]
    simp
  · obtain ⟨coordinator, sender⟩ := keeps_requestKey (.inr rfl) id
    rw [metaText_initializeSnapshot coordinators initialized
      (not_mem_ownKeys (String.toList_append ..) (.inr rfl)), if_neg]
    rw [coordinator, sender]
    simp
  · rw [metaText_initializeSnapshot coordinators initialized
      (not_mem_ownKeys (String.toList_append ..) (.inl rfl)),
      if_pos (.inl (coordinatorKey_preflightKey id))]

omit coordinators initialized

/-! ### What can be seen -/

/-- The first discovery. -/
theorem run_discover (empty : store.book.journal.jobs = .empty) (id : String) :
    ∃ after, Op.run store (.discover id 1 "" 0) = (after, .done) ∧
      after.jobs = [{ id := id, deadline := 1 }] ∧
      ∀ key, key ≠ "cursor" → after.metaText key = store.metaText key := by
  refine ⟨(store.withJournal (store.book.journal.discovered id 1 "")).writeDemand id 0, ?_, ?_,
    fun key other => metaText_setMeta_of_ne other⟩
  · unfold Op.run
    dsimp only
    rw [discoveredEpoch_eq]
    rfl
  · show (store.book.journal.jobs.insertOrIgnore { id := id, deadline := 1 }).rows = _
    rw [empty]
    rfl

/-- A request that is discovered and prepared is left out of batches if its id was. -/
theorem answers_batchExcluded (empty : store.book.journal.jobs = .empty) (id : String) :
    answers store [.discover id 1 "" 0, .prepare id "" "", .batchExcluded] =
      [.done, .done, .ids (if (store.metaText (excludeKey id)).isSome then {id} else ∅)] := by
  obtain ⟨after, ran, jobs, texts⟩ := run_discover empty id
  have prepared : (Op.run after (.prepare id "" "")).1.jobs =
      [{ id := id, deadline := 1, state := .prepared, proof := some "", call := some "" }] := by
    show after.jobs.map _ = _
    rw [jobs, List.map_singleton, if_pos (beq_self_eq_true id)]
    rfl
  have text : (Op.run after (.prepare id "" "")).1.metaText (excludeKey id) =
      store.metaText (excludeKey id) := texts _ (ne_append_of_starts rfl rfl (by decide)).symm
  unfold answers
  rw [ran]
  refine congrArg (fun excluded => [.done, .done, Answer.ids excluded]) ?_
  show batchExcludedPrepared _ = _
  unfold batchExcludedPrepared
  rw [prepared, List.filter_cons, text]
  cases (store.metaText (excludeKey id)).isSome with
  | false => rfl
  | true => rfl

/-- A request that is discovered can be claimed once the retry time of its id has passed. -/
theorem answers_claim (empty : store.book.journal.jobs = .empty) (id : String) {wallNow : ℕ}
    (small : wallNow ≤ maxI64) :
    answers store [.discover id 1 "" 0, .claim wallNow 0 [] false] =
      [.done, .jobs (if readTime (store.metaText (retryKey id)) ≤ wallNow then
        [{ id := id, deadline := 1 }] else [])] := by
  obtain ⟨after, ran, jobs, texts⟩ := run_discover empty id
  have text : after.metaText (retryKey id) = store.metaText (retryKey id) :=
    texts _ (ne_append_of_starts rfl rfl (by decide)).symm
  have claimables : claimable after wallNow 0 =
      if readTime (store.metaText (retryKey id)) ≤ wallNow then [{ id := id, deadline := 1 }]
      else [] := by
    unfold claimable
    rw [jobs, List.filter_cons, text]
    by_cases due : readTime (store.metaText (retryKey id)) ≤ wallNow
    · rw [if_pos due, decide_eq_true due]
      rfl
    · rw [if_neg due, decide_eq_false due]
      rfl
  have answer : (Op.run after (.claim wallNow 0 [] false)).2 =
      .jobs (claimed after wallNow 0 [] false) := by
    unfold Op.run claimPreparation
    dsimp only
    rw [(tryI64_eq_ok.mpr ⟨small, rfl⟩ : tryI64 wallNow = .ok wallNow)]
    rfl
  unfold answers
  rw [ran]
  unfold answers
  rw [answer]
  unfold claimed answers
  rw [claimables]
  split
  case isTrue => rfl
  case isFalse => rfl

/-- Retry times as `claim_preparation` writes them. -/
def Written (store : Store) : Prop :=
  ∀ id text, store.metaText (retryKey id) = some text → ∃ time : ℕ, text = toString time

theorem readTime_of_written (written : Written store) (id : String) :
    ∃ time : ℕ, time ≤ maxI64 ∧ readTime (store.metaText (retryKey id)) = time := by
  cases text : store.metaText (retryKey id) with
  | none => exact ⟨0, Nat.zero_le _, rfl⟩
  | some saved =>
    obtain ⟨time, rfl⟩ := written id saved text
    exact ⟨min time Decimal.largestInteger, Nat.min_le_right _ _, Decimal.cast_toString time⟩

/-- Equal choices between two values that differ are made by equivalent conditions. -/
theorem iff_of_ite_eq {Value : Type} {first second : Prop} [Decidable first] [Decidable second]
    {yes no : Value} (different : yes ≠ no)
    (same : (if first then yes else no) = if second then yes else no) : first ↔ second := by
  by_cases isFirst : first
  · by_cases isSecond : second
    · exact iff_of_true isFirst isSecond
    · rw [if_pos isFirst, if_neg isSecond] at same
      exact absurd same different
  · by_cases isSecond : second
    · rw [if_neg isFirst, if_pos isSecond] at same
      exact absurd same.symm different
    · exact iff_of_false isFirst isSecond

/-- What cannot be told apart agrees. -/
theorem agree_of_isolated {oneAfter otherAfter : Store} (oneInherits : Inherits one oneAfter)
    (otherInherits : Inherits other otherAfter) (oneWritten : Written one)
    (otherWritten : Written other) (isolated : Isolated ids oneAfter otherAfter) :
    Agree ids one other := by
  intro id isId
  constructor
  · obtain ⟨first, firstFits, isFirst⟩ := readTime_of_written oneWritten id
    obtain ⟨second, secondFits, isSecond⟩ := readTime_of_written otherWritten id
    have sameDue : ∀ wallNow, wallNow ≤ maxI64 →
        ((first : ℤ) ≤ wallNow ↔ (second : ℤ) ≤ wallNow) := by
      intro wallNow small
      have same := isolated [.discover id 1 "" 0, .claim wallNow 0 [] false]
        (List.forall_mem_cons.mpr ⟨isId, List.forall_mem_singleton.mpr trivial⟩)
      rw [answers_claim oneInherits.jobs id small, answers_claim otherInherits.jobs id small,
        oneInherits.retry, otherInherits.retry, isFirst, isSecond, List.cons.injEq,
        List.cons.injEq, Answer.jobs.injEq] at same
      exact iff_of_ite_eq (List.cons_ne_nil _ _) same.2.1
    rw [isFirst, isSecond]
    have least := (sameDue first firstFits).mp (Int.le_refl _)
    have most := (sameDue second secondFits).mpr (Int.le_refl _)
    exact Int.le_antisymm most least
  · have same := isolated [.discover id 1 "" 0, .prepare id "" "", .batchExcluded]
      (List.forall_mem_cons.mpr ⟨isId, List.forall_mem_cons.mpr ⟨trivial,
        List.forall_mem_singleton.mpr trivial⟩⟩)
    rw [answers_batchExcluded oneInherits.jobs, answers_batchExcluded otherInherits.jobs,
      oneInherits.excluded, otherInherits.excluded, List.cons.injEq, List.cons.injEq,
      List.cons.injEq, Answer.ids.injEq] at same
    exact Bool.eq_iff_iff.mpr (iff_of_ite_eq (Finset.singleton_ne_empty id) same.2.2.1)

theorem not_requestKey {first : Char} {rest : List Char} (starts : key.toList = first :: rest)
    (notRetry : 'p' ≠ first) (notExcluded : 'b' ≠ first) : ¬RequestKey key := by
  rintro ⟨id, retry | preflight | excluded⟩
  · exact ne_append_of_starts starts rfl notRetry retry
  · exact ne_append_of_starts starts rfl notRetry preflight
  · exact ne_append_of_starts starts rfl notExcluded excluded

/-- What agrees cannot be told apart after the migration. -/
theorem alike_of_agree {oneAfter otherAfter : Store} (oneInherits : Inherits one oneAfter)
    (otherInherits : Inherits other otherAfter) (work : one.work = other.work)
    (agree : Agree ids one other) : Alike ids oneAfter otherAfter := by
  have none : oneAfter.jobs = [] := congrArg Table.rows oneInherits.jobs
  refine ⟨oneInherits.jobs.trans otherInherits.jobs.symm, fun job member => ?_, ?_,
    fun id isId => ?_, fun id => ?_, fun id epoch listed => ?_⟩
  · rw [none] at member
    exact absurd member List.not_mem_nil
  · rw [oneInherits.work, otherInherits.work, work]
  · rw [oneInherits.retry, otherInherits.retry, oneInherits.excluded, otherInherits.excluded]
    exact agree id isId
  · rw [oneInherits.preflight, otherInherits.preflight]
  · rw [none] at listed
    exact absurd listed List.not_mem_nil

/-- A migration to another coordinator with the same sender. -/
def samplePlan : Transition where
  fromPath := "old.sqlite"
  toPath := "new.sqlite"
  oldCoordinator := 1
  newCoordinator := 2
  oldSender := 3
  newSender := 3
  oldInstance := Migration.sampleInstance '1'
  newInstance := Migration.sampleInstance '2'
  apart := by decide
  identified := Migration.identified_sample
  chain := 7
  newNonce := 0
  runtimePins := ""
  addressText := fun address => toString address

/-- A source with records about its first request. -/
def sampleSource (records : List (String × String)) (jobs : Table Job String Job.id)
    (demand : Table EpochDemand String EpochDemand.job) : Store where
  book :=
    { journal := records.foldl (fun journal record => journal.setMeta record.1 record.2)
        (({ Journal.fresh with jobs := jobs } : Journal).setMeta "scope" (samplePlan.scope true)
          |>.setMeta "instance_id" samplePlan.oldInstance)
      epochDemand := demand
      roundDemand := .empty }
  work := .empty

/-- An exclusion from batches and a retry time of the old coordinator's first request exclude and
delay the new coordinator's first request. -/
theorem old_records_stay : ∃ oneAfter otherAfter : Store,
    samplePlan.oldCoordinator ≠ samplePlan.newCoordinator ∧
    DifferInRequests
      (sampleSource [("batch_exclude:1", "1"), ("prepare_retry_ms:1", "5000")] .empty .empty)
      (sampleSource [] .empty .empty) ∧
    initializeSnapshot samplePlan (sampleSource [("batch_exclude:1", "1"),
      ("prepare_retry_ms:1", "5000")] .empty .empty) = .ok oneAfter ∧
    initializeSnapshot samplePlan (sampleSource [] .empty .empty) = .ok otherAfter ∧
    answers oneAfter [.discover "1" 100 "2" 7, .claim 1000 0 [] false] = [.done, .jobs []] ∧
    answers otherAfter [.discover "1" 100 "2" 7, .claim 1000 0 [] false] =
      [.done, .jobs [{ id := "1", deadline := 100 }]] ∧
    answers oneAfter [.discover "1" 100 "2" 7, .prepare "1" "p" "c", .batchExcluded] =
      [.done, .done, .ids {"1"}] ∧
    answers otherAfter [.discover "1" 100 "2" 7, .prepare "1" "p" "c", .batchExcluded] =
      [.done, .done, .ids ∅] := by
  refine ⟨_, _, by decide, ⟨fun key foreign => ?_, rfl, rfl⟩, rfl, rfl, by decide, by decide,
    by decide, by decide⟩
  have notExcluded : key ≠ "batch_exclude:1" := fun same => foreign ⟨"1", .inr (.inr same)⟩
  have notRetry : key ≠ "prepare_retry_ms:1" := fun same => foreign ⟨"1", .inl same⟩
  exact (metaText_setMeta_of_ne notRetry).trans (metaText_setMeta_of_ne notExcluded)

/-- A migration to another coordinator isolates the new requests exactly from what it drops. Two
sources that differ only in records about single requests give destinations that no sequence of
discoveries, preparations and queries of requests with some ids tells apart if they agree on the
retry times and the exclusions of these ids, and, with retry times as the keeper writes them, only
if they do. -/
theorem migration_isolates (plan : Transition)
    (coordinators : plan.oldCoordinator ≠ plan.newCoordinator) (one other oneAfter : Store)
    (differ : DifferInRequests one other) (initialized : initializeSnapshot plan one = .ok oneAfter)
    (ids : String → Prop) :
    ∃ otherAfter, initializeSnapshot plan other = .ok otherAfter ∧
      (Agree ids one other → Isolated ids oneAfter otherAfter) ∧
      (Written one → Written other → Isolated ids oneAfter otherAfter → Agree ids one other) := by
  have identity := initialized
  simp only [initializeSnapshot, bind_eq_ok, ensure_eq_ok] at identity
  obtain ⟨_, ⟨scope, instanceId⟩, -⟩ := identity
  rw [differ.text _ (not_requestKey rfl (by decide) (by decide))] at scope
  rw [differ.text _ (not_requestKey rfl (by decide) (by decide))] at instanceId
  obtain ⟨otherAfter, otherInitialized⟩ :
      ∃ otherAfter, initializeSnapshot plan other = .ok otherAfter :=
    ⟨_, bind_eq_ok.mpr ⟨(), ensure_eq_ok.mpr ⟨scope, instanceId⟩, rfl⟩⟩
  have oneInherits := inherits_initializeSnapshot coordinators initialized
  have otherInherits := inherits_initializeSnapshot coordinators otherInitialized
  refine ⟨otherAfter, otherInitialized, fun agree => ?_, fun oneWritten otherWritten isolated => ?_⟩
  · exact (alike_of_agree oneInherits otherInherits differ.work agree).isolated
  · exact agree_of_isolated oneInherits otherInherits oneWritten otherWritten isolated

/-- A job of the old coordinator and the epoch it waited for cannot be seen: the new coordinator's
first request waits for its own epoch. -/
theorem migration_isolates_job : ∃ oneAfter otherAfter : Store,
    initializeSnapshot samplePlan (sampleSource [] ⟨[{ id := "1", deadline := 5 }], by decide⟩
      ⟨[⟨"1", 3⟩], by decide⟩) = .ok oneAfter ∧
    initializeSnapshot samplePlan (sampleSource [] .empty .empty) = .ok otherAfter ∧
    Isolated (fun _ => True) oneAfter otherAfter ∧
    Agree (fun _ => True) (sampleSource [] ⟨[{ id := "1", deadline := 5 }], by decide⟩
      ⟨[⟨"1", 3⟩], by decide⟩) (sampleSource [] .empty .empty) ∧
    answers oneAfter [.discover "1" 100 "2" 7, .demanded "r" "c" 0] = [.done, .epochs {7}] := by
  have written : ∀ jobs demand, Written (sampleSource [] jobs demand) := by
    intro jobs demand id text saved
    have identity : retryKey id ≠ "instance_id" := (ne_append_of_starts rfl rfl (by decide)).symm
    have scope : retryKey id ≠ "scope" := (ne_append_of_starts rfl rfl (by decide)).symm
    have none : (sampleSource [] jobs demand).metaText (retryKey id) = none :=
      (metaText_setMeta_of_ne identity).trans (metaText_setMeta_of_ne scope)
    exact nomatch none.symm.trans saved
  obtain ⟨otherAfter, initialized, isolates, agrees⟩ := migration_isolates samplePlan (by decide)
    (sampleSource [] ⟨[{ id := "1", deadline := 5 }], by decide⟩ ⟨[⟨"1", 3⟩], by decide⟩)
    (sampleSource [] .empty .empty) _ ⟨fun _ _ => rfl, rfl, rfl⟩ rfl fun _ => True
  have isolated := isolates fun _ _ => ⟨rfl, rfl⟩
  exact ⟨_, otherAfter, rfl, initialized, isolated, agrees (written _ _) (written _ _) isolated,
    by decide⟩

end D20.RequestQueue
