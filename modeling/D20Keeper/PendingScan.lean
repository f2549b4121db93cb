/-
This file models the scan over the requests of a coordinator that a keeper discovers its work with.
A page of `getPendingRequestIds` is bounded by the ids it looks at as well as by the ids it returns,
so a page can be empty and still move the cursor. Whatever the sizes of the pages, following the
cursor from the first id lists every request that waits, in order and once, and every page passes
the check of the keeper that reads it.
-/

import D20Keeper.Deployment
import D20Keeper.RoundGas

namespace D20

open Evm
open Journal (bind_eq_ok ensure ensure_eq_ok)

variable {terms : Terms} {β χ : Type}

/-! ### The scan of a coordinator -/

/-- A request that a scan lists: neither settled nor past its deadline. -/
def StoredRequest.waits (block : Block) (r : StoredRequest β) : Bool :=
  !r.fulfilled && !r.refunded && decide (block.timestamp ≤ r.deadline)

namespace Coordinator

variable (block : Block) (store : Coordinator terms β χ)

/-- The loop of `getPendingRequestIds`: with so many ids left to look at, the next id to look at and
the ids found so far. -/
def scanLoop : ℕ → ℕ → List ℕ → List ℕ × ℕ
  | 0, nextCursor, ids => (ids, nextCursor)
  | left + 1, nextCursor, ids =>
    if nextCursor < store.nextRequestId then
      scanLoop left (nextCursor + 1)
        (if (store.requests nextCursor).waits block then ids ++ [nextCursor] else ids)
    else (ids, nextCursor)

/-- `getPendingRequestIds`: a page of the requests that wait, and the id the next page starts at. -/
def getPendingRequestIds (fromId limit : ℕ) : Except Error (List ℕ × ℕ) :=
  if fromId = 0 ∨ limit = 0 ∨ 256 < limit then .error .invalidScan
  else .ok (scanLoop block store limit
    (if store.nextRequestId < fromId then store.nextRequestId else fromId) [])

/-- Follow the cursor over pages of these sizes. -/
def readPages : List ℕ → ℕ → Except Error (List ℕ × ℕ)
  | [], cursor => .ok ([], cursor)
  | limit :: rest, cursor => do
    let page ← getPendingRequestIds block store cursor limit
    let more ← readPages rest page.2
    return (page.1 ++ more.1, more.2)

end Coordinator

/-! ### The keeper's check of a page -/

namespace Worker

/-- A conversion of a 256-bit number to 64 bits, with the message of the number's library. -/
def tryU64 (value : ℕ) : Except String ℕ :=
  if value ≤ largest 64 then .ok value else .error "Uint<256> value is too large for u64"

/-- The loop of `discovery_page_advances` over the ids left, after this one. -/
def checkPage (cursor next : ℕ) : Option ℕ → List ℕ → Except String Unit
  | _, [] => .ok ()
  | previous, id :: rest => do
    let id ← tryU64 id
    ensure (cursor ≤ id ∧ id < next ∧ (previous.all fun earlier => decide (earlier < id)) = true)
      "Invalid discovery page"
    checkPage cursor next (some id) rest

/-- `discovery_page_advances`: whether a page moves the cursor. An empty page that ends at or before
the cursor is one of an endpoint that lags; any other page must be well formed. -/
def discoveryPageAdvances (cursor next : ℕ) (ids : List ℕ) : Except String Bool :=
  if ids = [] ∧ next ≤ cursor then .ok false
  else do
    ensure (cursor < next ∧ next - cursor ≤ 256) "Invalid discovery cursor"
    checkPage cursor next none ids
    return true

end Worker

/-! ### What a page holds -/

namespace Coordinator

variable {block : Block} {store : Coordinator terms β χ}

/-- The requests that wait among so many ids from one on. -/
def waiting (block : Block) (store : Coordinator terms β χ) (start count : ℕ) : List ℕ :=
  (List.range' start count).filter fun id => (store.requests id).waits block

theorem waiting_succ (start count : ℕ) :
    waiting block store start (count + 1) =
      (if (store.requests start).waits block then [start] else []) ++
        waiting block store (start + 1) count := by
  unfold waiting
  rw [List.range'_succ, List.filter_cons]
  split <;> rfl

theorem waiting_add (start first second : ℕ) :
    waiting block store start (first + second) =
      waiting block store start first ++ waiting block store (start + first) second := by
  unfold waiting
  rw [← List.filter_append, List.range'_append_1]

/-- The loop looks at the ids up to its bound or the end, and appends those that wait. -/
theorem scanLoop_eq (left start : ℕ) (ids : List ℕ) (bound : start ≤ store.nextRequestId) :
    scanLoop block store left start ids =
      (ids ++ waiting block store start (min left (store.nextRequestId - start)),
        start + min left (store.nextRequestId - start)) := by
  induction left generalizing start ids with
  | zero =>
    rw [Nat.zero_min]
    exact Prod.ext (List.append_nil ids).symm rfl
  | succ left inductionHypothesis =>
    unfold scanLoop
    split
    case isTrue below =>
      have count : min (left + 1) (store.nextRequestId - start) =
          min left (store.nextRequestId - (start + 1)) + 1 := by omega
      rw [inductionHypothesis (start + 1) _ below, count, waiting_succ]
      refine Prod.ext ?_ (by dsimp only; omega)
      split
      · exact List.append_assoc _ _ _
      · rfl
    case isFalse above =>
      have none : min (left + 1) (store.nextRequestId - start) = 0 := by omega
      rw [none]
      exact Prod.ext (List.append_nil ids).symm rfl

variable {cursor : ℕ}

/-- A page from an id at or before the end. -/
theorem getPendingRequestIds_eq {limit : ℕ} (positive : 1 ≤ cursor)
    (bound : cursor ≤ store.nextRequestId) (least : 1 ≤ limit) (most : limit ≤ 256) :
    getPendingRequestIds block store cursor limit =
      .ok (waiting block store cursor (min limit (store.nextRequestId - cursor)),
        cursor + min limit (store.nextRequestId - cursor)) := by
  unfold getPendingRequestIds
  rw [if_neg (by omega), if_neg (Nat.not_lt.mpr bound), scanLoop_eq _ _ _ bound, List.nil_append]

theorem getPendingRequestIds_past {limit : ℕ} (past : store.nextRequestId < cursor)
    (least : 1 ≤ limit) (most : limit ≤ 256) :
    getPendingRequestIds block store cursor limit = .ok ([], store.nextRequestId) := by
  unfold getPendingRequestIds
  rw [if_neg (by omega), if_pos past, scanLoop_eq _ _ _ (Nat.le_refl _), Nat.sub_self, Nat.min_zero]
  rfl

/-! ### Following the cursor -/

/-- Pages of these sizes from an id at or before the end list what waits among the ids they look
at. -/
theorem readPages_eq {limits : List ℕ} (positive : 1 ≤ cursor)
    (bound : cursor ≤ store.nextRequestId) (sizes : ∀ limit ∈ limits, 1 ≤ limit ∧ limit ≤ 256) :
    readPages block store limits cursor =
      .ok (waiting block store cursor (min limits.sum (store.nextRequestId - cursor)),
        cursor + min limits.sum (store.nextRequestId - cursor)) := by
  induction limits generalizing cursor with
  | nil =>
    rw [List.sum_nil, Nat.zero_min]
    rfl
  | cons limit rest inductionHypothesis =>
    obtain ⟨⟨least, most⟩, later⟩ := List.forall_mem_cons.mp sizes
    have count : min (limit :: rest).sum (store.nextRequestId - cursor) =
        min limit (store.nextRequestId - cursor) + min rest.sum (store.nextRequestId -
          (cursor + min limit (store.nextRequestId - cursor))) := by
      rw [List.sum_cons]
      omega
    have more := @inductionHypothesis (cursor + min limit (store.nextRequestId - cursor))
      (by omega) (by omega) later
    unfold readPages
    rw [getPendingRequestIds_eq positive bound least most, count, waiting_add, ← Nat.add_assoc]
    show Except.bind (readPages block store rest _) _ = _
    rw [more]
    rfl

/-- So many pages of any sizes look at so many ids or more. -/
theorem le_sum_of_sizes {limits : ℕ → ℕ} (least : ∀ page, 1 ≤ limits page) (count : ℕ) :
    count ≤ ((List.range count).map limits).sum := by
  induction count with
  | zero => exact Nat.zero_le _
  | succ count inductionHypothesis =>
    rw [List.range_succ, List.map_append, List.sum_append, List.map_singleton, List.sum_singleton]
    exact Nat.add_le_add inductionHypothesis (least count)

theorem waiting_ascends (start count : ℕ) :
    (waiting block store start count).Pairwise (· < ·) :=
  (List.pairwise_lt_range' 1).filter _

theorem mem_waiting {start count id : ℕ} :
    id ∈ waiting block store start count ↔
      (start ≤ id ∧ id < start + count) ∧ (store.requests id).fulfilled = false ∧
        (store.requests id).refunded = false ∧ block.timestamp ≤ (store.requests id).deadline := by
  unfold waiting StoredRequest.waits
  rw [List.mem_filter, List.mem_range'_1, Bool.and_eq_true, Bool.and_eq_true, Bool.not_eq_true',
    Bool.not_eq_true', decide_eq_true_eq, and_assoc (a := (store.requests id).fulfilled = false)]

end Coordinator

/-! ### Pages that are accepted -/

namespace Worker

theorem tryU64_eq_ok {value : ℕ} (small : value < 2 ^ 64) : tryU64 value = .ok value :=
  if_pos (Nat.le_sub_one_of_lt small)

/-- Ascending ids of a page pass the check. -/
theorem checkPage_eq_ok {cursor next : ℕ} {previous : Option ℕ} {ids : List ℕ}
    (ascends : ids.Pairwise (· < ·)) (within : ∀ id ∈ ids, cursor ≤ id ∧ id < next)
    (small : ∀ id ∈ ids, id < 2 ^ 64)
    (after : ∀ earlier ∈ previous, ∀ id ∈ ids, earlier < id) :
    checkPage cursor next previous ids = .ok () := by
  induction ids generalizing previous with
  | nil => rfl
  | cons id rest inductionHypothesis =>
    obtain ⟨first, later⟩ := List.pairwise_cons.mp ascends
    obtain ⟨inside, others⟩ := List.forall_mem_cons.mp within
    obtain ⟨fits, fitting⟩ := List.forall_mem_cons.mp small
    have follows : (previous.all fun earlier => decide (earlier < id)) = true := by
      cases previous with
      | none => rfl
      | some earlier => exact decide_eq_true (after earlier rfl id List.mem_cons_self)
    refine bind_eq_ok.mpr ⟨id, tryU64_eq_ok fits, bind_eq_ok.mpr ⟨(),
      ensure_eq_ok.mpr ⟨inside.1, inside.2, follows⟩, inductionHypothesis later others fitting ?_⟩⟩
    intro earlier isEarlier other isOther
    exact Option.some.inj isEarlier ▸ first other isOther

/-- A page of a coordinator passes the check of a keeper, and moves the cursor exactly if it is
before the end. -/
theorem discoveryPageAdvances_page {block : Block} {store : Coordinator terms β χ}
    (small : store.nextRequestId ≤ 2 ^ 64) {cursor limit : ℕ} (positive : 1 ≤ cursor)
    (least : 1 ≤ limit) (most : limit ≤ 256) :
    ∃ ids next, store.getPendingRequestIds block cursor limit = .ok (ids, next) ∧
      discoveryPageAdvances cursor next ids = .ok (decide (cursor < store.nextRequestId)) := by
  rcases Nat.lt_or_ge store.nextRequestId cursor with past | before
  · refine ⟨[], _, store.getPendingRequestIds_past past least most, ?_⟩
    rw [decide_eq_false (Nat.not_lt.mpr (Nat.le_of_lt past))]
    exact if_pos ⟨rfl, Nat.le_of_lt past⟩
  · refine ⟨_, _, store.getPendingRequestIds_eq positive before least most, ?_⟩
    unfold discoveryPageAdvances
    rcases Nat.eq_or_lt_of_le before with atEnd | below
    · have none : min limit (store.nextRequestId - cursor) = 0 := by omega
      rw [none, decide_eq_false (Nat.not_lt.mpr (Nat.le_of_eq atEnd.symm))]
      exact if_pos ⟨rfl, Nat.le_refl _⟩
    · have inside : ∀ id ∈ Coordinator.waiting block store cursor
          (min limit (store.nextRequestId - cursor)),
          cursor ≤ id ∧ id < cursor + min limit (store.nextRequestId - cursor) :=
        fun id isId => (Coordinator.mem_waiting.mp isId).1
      rw [if_neg (by omega), decide_eq_true below]
      refine bind_eq_ok.mpr ⟨(), ensure_eq_ok.mpr (by omega), bind_eq_ok.mpr ⟨(), ?_, rfl⟩⟩
      refine checkPage_eq_ok (Coordinator.waiting_ascends _ _) inside (fun id isId => ?_)
        fun _ none => nomatch none
      have bound := inside id isId
      omega

/-- The pages of a coordinator are exact. Whatever their sizes, following the cursor from the first
id comes to the end after finitely many pages, and the pages together list in ascending order
exactly the requests that are neither settled nor past their deadline; and while ids fit 64 bits a
keeper accepts every page, and takes one as an advance exactly if there was an id left to look at.
-/
theorem pending_pages_exact (block : Block) (store : Coordinator terms β χ) :
    (∀ limits : ℕ → ℕ, (∀ page, 1 ≤ limits page ∧ limits page ≤ 256) →
      ∃ count ids, store.readPages block ((List.range count).map limits) 1 =
          .ok (ids, store.nextRequestId) ∧
        ids.Pairwise (· < ·) ∧
        ∀ id, id ∈ ids ↔ (1 ≤ id ∧ id < store.nextRequestId) ∧
          (store.requests id).fulfilled = false ∧ (store.requests id).refunded = false ∧
          block.timestamp ≤ (store.requests id).deadline) ∧
    ∀ cursor limit, store.nextRequestId ≤ 2 ^ 64 → 1 ≤ cursor → 1 ≤ limit → limit ≤ 256 →
      ∃ ids next, store.getPendingRequestIds block cursor limit = .ok (ids, next) ∧
        discoveryPageAdvances cursor next ids = .ok (decide (cursor < store.nextRequestId)) := by
  refine ⟨fun limits sizes => ?_, fun cursor limit small positive least most =>
    discoveryPageAdvances_page small positive least most⟩
  rcases Nat.eq_zero_or_pos store.nextRequestId with unset | started
  · have past : store.nextRequestId < 1 := unset ▸ Nat.one_pos
    refine ⟨1, [], ?_, List.Pairwise.nil, fun id => ⟨fun isId => (nomatch isId), ?_⟩⟩
    · show Except.bind (store.getPendingRequestIds block 1 (limits 0)) _ = _
      rw [store.getPendingRequestIds_past past (sizes 0).1 (sizes 0).2]
      rfl
    · rintro ⟨⟨positive, below⟩, -⟩
      omega
  · refine ⟨store.nextRequestId, Coordinator.waiting block store 1 (store.nextRequestId - 1), ?_,
      Coordinator.waiting_ascends _ _, fun id => ?_⟩
    · have enough := Coordinator.le_sum_of_sizes (fun page => (sizes page).1) store.nextRequestId
      rw [store.readPages_eq (Nat.le_refl 1) started
        (List.forall_mem_map.mpr fun page _ => sizes page), Nat.min_eq_right (by omega)]
      exact congrArg _ (Prod.ext rfl (Nat.add_sub_cancel' started))
    · rw [Coordinator.mem_waiting, Nat.add_sub_cancel' started]

/-- Three requests of which the second is settled. -/
def scanned : RoundStore :=
  { (default : RoundDeployment).store with
    nextRequestId := 4
    requests := fun id => { (StoredRequest.blank : StoredRequest RoundBinding) with
      deadline := 50, fulfilled := id == 2 } }

/-- Pages of two ids list the requests that wait, and the first one is an advance. -/
theorem pending_pages_exact_three :
    (∃ count ids, scanned.readPages default ((List.range count).map fun _ => 2) 1 = .ok (ids, 4) ∧
      1 ∈ ids ∧ 2 ∉ ids ∧ 3 ∈ ids) ∧
    ∃ ids next, scanned.getPendingRequestIds default 1 2 = .ok (ids, next) ∧
      discoveryPageAdvances 1 next ids = .ok true := by
  obtain ⟨pages, accepted⟩ := pending_pages_exact default scanned
  obtain ⟨count, ids, read, -, exactly⟩ := pages (fun _ => 2) fun _ => by decide
  refine ⟨⟨count, ids, read, (exactly 1).mpr ?_, fun isId => ?_, (exactly 3).mpr ?_⟩,
    accepted 1 2 ?_ (by decide) (by decide) (by decide)⟩
  · exact ⟨by decide, rfl, rfl, by decide⟩
  · exact nomatch ((exactly 2).mp isId).2.1
  · exact ⟨by decide, rfl, rfl, by decide⟩
  · exact Nat.le_of_lt (Nat.lt_of_lt_of_le (by decide : 4 < 2 ^ 3) (Nat.pow_le_pow_right
      (by decide) (by decide)))

end Worker

end D20
