/-
This file models the outbox of health reports. Triggers write events into a bounded audit table and
count the events they refuse at its capacity. The publisher freezes a batch of events with the
dropped count in a report, sends it, and on an acknowledgement deletes the events and the report in
one transaction; a report whose outcome is uncertain stays and is sent again. Other tasks record
events between any two steps, and the publisher may stop after any of its steps. Every event that
the table takes is in the table or in one acknowledged report, and every refusal is counted once.
-/

import Mathlib.Algebra.BigOperators.Group.List.Basic
import Mathlib.Algebra.Order.Group.Nat
import Mathlib.Algebra.Ring.Int.Defs
import D20Keeper.Durable
import D20Keeper.History

namespace D20.Telemetry

open Durable

/-! ### The tables -/

/-- What a trigger writes about something that happened. -/
structure Observed where
  requestId : Option String
  kind : String
  origin : String
  observedAt : ℤ
  deriving DecidableEq, Repr

/-- A row of `audit_events`. -/
structure Row where
  cursor : ℕ
  observed : Observed
  deriving DecidableEq, Repr

/-- The groups of the events of a report. -/
structure Groups where
  completed : List Row
  rejected : List Row
  failed : List Row
  progress : List Row
  deriving DecidableEq, Repr

/-- The number of events in each group. -/
structure Summary where
  completed : ℕ
  rejected : ℕ
  failed : ℕ
  progress : ℕ
  deriving DecidableEq, Repr

section

variable {Health : Type}

/-- The payload of a report, with the public part of the health status. -/
structure Payload (Health : Type) where
  nodeId : String
  chainId : String
  coordinator : String
  reportId : String
  observedAt : ℤ
  health : Health
  summary : Summary
  events : Groups
  nextCursor : ℕ
  droppedCount : ℤ
  droppedTotal : ℕ
  rejectionHistoryPrunedTotal : ℕ
  deriving DecidableEq, Repr

/-- The row of `telemetry_outbox`. -/
structure Report (Health : Type) where
  reportId : String
  payload : Payload Health
  nextCursor : ℕ
  droppedCount : ℕ
  deriving DecidableEq, Repr

/-- The part of the journal that reports use: the audit table in the order of its key with the last
key that it gave out, the counters in `meta`, and the report in the outbox. -/
structure Store (Health : Type) where
  events : List Row
  sequence : ℕ
  dropped : ℕ
  ackedCursor : ℕ
  ackedDropped : ℕ
  pruned : ℕ
  outbox : Option (Report Health)
  deriving DecidableEq, Repr

/-- The tables as `audit::install` leaves them in a new journal. -/
def Store.fresh : Store Health := ⟨[], 0, 0, 0, 0, 0, none⟩

/-- `CAPACITY`. -/
def capacity : ℕ := 4096

/-- `BATCH`. -/
def batch : ℕ := 128

/-- `MAX_BYTES`. -/
def maxBytes : ℕ := 64 * 1024

/-! ### Transactions -/

variable (groups : Groups)

/-- The group of an event. -/
def Groups.push (row : Row) : Groups :=
  if row.observed.kind ∈ ["served", "refunded"] then
    { groups with completed := groups.completed ++ [row] }
  else if row.observed.kind ∈ ["not_allowlisted", "ignored"] then
    { groups with rejected := groups.rejected ++ [row] }
  else if row.observed.kind ∈ ["callback_failed_at_acceptance", "expired", "blocked", "work_blocked",
      "service_degraded", "node_transaction_rejected", "tick_failed"] then
    { groups with failed := groups.failed ++ [row] }
  else { groups with progress := groups.progress ++ [row] }

/-- Groups without events. -/
def Groups.empty : Groups := ⟨[], [], [], []⟩

/-- The events of all groups. -/
def Groups.all : List Row :=
  groups.completed ++ groups.rejected ++ groups.failed ++ groups.progress

def Groups.summary : Summary :=
  ⟨groups.completed.length, groups.rejected.length, groups.failed.length, groups.progress.length⟩

/-- What a report takes from outside of the tables: the node and the chain, a random id, the time
and the health. -/
structure Draw (Health : Type) where
  nodeId : String
  chainId : String
  coordinator : String
  reportId : String
  observedAt : ℤ
  health : Health

variable (store : Store Health)

/-- The events that a new report has. -/
def Store.rows : List Row :=
  (store.events.filter fun row => decide (store.ackedCursor < row.cursor)).take batch

/-- The cursor after the loop over the events. -/
def Store.next : ℕ :=
  store.rows.foldl (fun _ row => row.cursor) store.ackedCursor

/-- The report that `prepare` makes when there is none. -/
def Store.report (draw : Draw Health) : Report Health :=
  let groups := store.rows.foldl Groups.push Groups.empty
  { reportId := draw.reportId
    payload :=
      { nodeId := draw.nodeId, chainId := draw.chainId, coordinator := draw.coordinator
        reportId := draw.reportId, observedAt := draw.observedAt, health := draw.health
        summary := groups.summary, events := groups, nextCursor := store.next
        droppedCount := (store.dropped : ℤ) - store.ackedDropped, droppedTotal := store.dropped
        rejectionHistoryPrunedTotal := store.pruned }
    nextCursor := store.next
    droppedCount := store.dropped }

/-- The transactions: a trigger records an event, `prepare` makes a report unless there is one, and
`publish` removes the report that was acknowledged. -/
inductive Call (Health : Type)
  | record (observed : Observed)
  | prepare (draw : Draw Health)
  | acknowledge (reportId : String)

/-- An event is refused when the table is full, and the refusal is counted. -/
def Store.record (observed : Observed) : Store Health :=
  if capacity ≤ store.events.length then { store with dropped := store.dropped + 1 }
  else
    { store with
      events := store.events ++ [⟨store.sequence + 1, observed⟩]
      sequence := store.sequence + 1 }

/-- The transaction of an acknowledgement of the report in the outbox. -/
def Store.acknowledge (report : Report Health) : Store Health :=
  { store with
    events := store.events.filter fun row => !decide (row.cursor ≤ report.nextCursor)
    ackedCursor := report.nextCursor
    ackedDropped := report.droppedCount
    outbox := none }

/-- What a transaction does, with the number of bytes of a payload. -/
def apply (size : Payload Health → ℕ) : Call Health → Store Health → Except String (Store Health)
  | .record observed, store => .ok (store.record observed)
  | .prepare draw, store =>
    match store.outbox with
    | some _ => .ok store
    | none =>
      if size (store.report draw).payload ≤ maxBytes then
        .ok { store with outbox := some (store.report draw) }
      else .error "Health report exceeds size limit"
  | .acknowledge reportId, store =>
    match store.outbox with
    | some report =>
      if report.reportId = reportId then .ok (store.acknowledge report)
      else .error "no rows returned by a query that expected to return at least one row"
    | none => .error "no rows returned by a query that expected to return at least one row"

/-! ### The publisher -/

/-- A request to the receiver: the idempotency key and the body. -/
structure Sent (Health : Type) where
  reportId : String
  payload : Payload Health
  deriving DecidableEq, Repr

/-- `prepare`. Only the publisher writes the outbox, so the row that its transaction has read or
written is there after it. -/
def prepare : Program (Store Health) (Call Health) (Sent Health) (Sent Health) := do
  let draw ← Program.answer (Draw Health)
  Program.run (.prepare draw)
  let store ← Program.get
  match store.outbox with
  | some report => return ⟨report.reportId, report.payload⟩
  | none => Program.fail "no report"

/-- `publish`. The receiver may get a request whose answer is lost. -/
def publish : Program (Store Health) (Call Health) (Sent Health) Unit := do
  let report ← prepare
  Program.tell report
  Program.require "Health receiver did not acknowledge"
  Program.run (.acknowledge report.reportId)

/-- The transactions of other tasks. -/
def Recording (call : Call Health) : Prop := ∃ observed, call = .record observed

/-- The states that the journal goes through, with every commit and every request so far. -/
def Lived (size : Payload Health → ℕ)
    (world : World (Store Health) (Call Health) (Sent Health)) : Prop :=
  Lives (apply size) Recording (fun program => program = publish) Store.fresh world

/-! ### The books of a run -/

/-- What a run has done: the tables, the events that the table took and the number that it refused,
and the reports that were acknowledged. -/
structure Books (Health : Type) where
  store : Store Health
  accepted : List Row
  refused : ℕ
  acknowledged : List (Report Health)

/-- The books after one more entry of the trace. -/
def Books.enter (books : Books Health) :
    Entry (Store Health) (Call Health) (Sent Health) → Books Health
  | .committed (.record observed) after =>
    if capacity ≤ books.store.events.length then
      { books with store := after, refused := books.refused + 1 }
    else
      { books with
        store := after
        accepted := books.accepted ++ [⟨books.store.sequence + 1, observed⟩] }
  | .committed (.prepare _) after => { books with store := after }
  | .committed (.acknowledge _) after =>
    { books with
      store := after
      acknowledged := books.acknowledged ++ books.store.outbox.toList }
  | .emitted _ => books

variable (trace : List (Entry (Store Health) (Call Health) (Sent Health)))

/-- The books of a trace. -/
def books : Books Health :=
  History.after Books.enter ⟨.fresh, [], 0, []⟩ trace

/-- The cursor that the last of some reports goes to, which the first starts after. -/
def lastCursor (start : ℕ) (reports : List (Report Health)) : ℕ :=
  reports.foldl (fun _ report => report.nextCursor) start

/-- The events with a cursor after a start and up to an end. -/
def between (accepted : List Row) (start stop : ℕ) : List Row :=
  accepted.filter fun row => decide (start < row.cursor ∧ row.cursor ≤ stop)

/-- Each report has just the events of its range, and the ranges follow one another: each starts
where the one before it ends. -/
def Covers (accepted : List Row) : ℕ → List (Report Health) → Prop
  | _, [] => True
  | start, report :: rest =>
    start ≤ report.nextCursor ∧
      report.payload.events.all.Perm (between accepted start report.nextCursor) ∧
      Covers accepted report.nextCursor rest

/-! ### Ranges of cursors -/

variable {accepted rows : List Row} {row : Row} {start stop : ℕ} {report : Report Health}
  {reports : List (Report Health)} {draw : Draw Health} {after : Store Health}

theorem le_lastCursor (covers : Covers accepted start reports) :
    start ≤ lastCursor start reports := by
  induction reports generalizing start with
  | nil => exact le_rfl
  | cons report rest inductionHypothesis =>
    exact covers.1.trans (inductionHypothesis covers.2.2)

/-- Two ranges that follow one another make one. -/
theorem between_append (accepted : List Row) {middle : ℕ} (first : start ≤ middle)
    (second : middle ≤ stop) :
    (between accepted start middle ++ between accepted middle stop).Perm
      (between accepted start stop) := by
  have split := List.filter_append_perm (fun row : Row => decide (row.cursor ≤ middle))
    (between accepted start stop)
  have left : (between accepted start stop).filter (fun row => decide (row.cursor ≤ middle)) =
      between accepted start middle := by
    rw [between, List.filter_filter]
    refine List.filter_congr fun row _ => ?_
    rw [← Bool.decide_and, decide_eq_decide]
    omega
  have right : (between accepted start stop).filter (fun row => !decide (row.cursor ≤ middle)) =
      between accepted middle stop := by
    rw [between, List.filter_filter]
    refine List.filter_congr fun row _ => ?_
    rw [← decide_not, ← Bool.decide_and, decide_eq_decide]
    omega
  rwa [left, right] at split

theorem between_new (new : stop < row.cursor) :
    between (accepted ++ [row]) start stop = between accepted start stop := by
  have outside : ¬ (start < row.cursor ∧ row.cursor ≤ stop) := by omega
  rw [between, List.filter_append, List.filter_singleton, decide_eq_false outside]
  exact List.append_nil _

theorem Covers.new (covers : Covers accepted start reports)
    (new : lastCursor start reports < row.cursor) :
    Covers (accepted ++ [row]) start reports := by
  induction reports generalizing start with
  | nil => trivial
  | cons report rest inductionHypothesis =>
    obtain ⟨ordered, events, later⟩ := covers
    have after : report.nextCursor < row.cursor := (le_lastCursor later).trans_lt new
    exact ⟨ordered, (between_new after).symm ▸ events, inductionHypothesis later new⟩

/-- One more report that starts where the last one ends. -/
theorem Covers.append (covers : Covers accepted start reports)
    (ordered : lastCursor start reports ≤ report.nextCursor)
    (events : report.payload.events.all.Perm
      (between accepted (lastCursor start reports) report.nextCursor)) :
    Covers accepted start (reports ++ [report]) := by
  induction reports generalizing start with
  | nil => exact ⟨ordered, events, trivial⟩
  | cons first rest inductionHypothesis =>
    exact ⟨covers.1, covers.2.1, inductionHypothesis covers.2.2 ordered events⟩

/-- The reports together have the events up to the last cursor. -/
theorem Covers.perm (covers : Covers accepted start reports) :
    (reports.flatMap fun report => report.payload.events.all).Perm
      (between accepted start (lastCursor start reports)) := by
  induction reports generalizing start with
  | nil =>
    have none : between accepted start start = [] := by
      refine List.filter_eq_nil_iff.mpr fun row _ => ?_
      rw [decide_eq_true_eq]
      omega
    show ([] : List Row).Perm (between accepted start start)
    rw [none]
  | cons report rest inductionHypothesis =>
    obtain ⟨ordered, events, later⟩ := covers
    rw [List.flatMap_cons]
    exact (events.append (inductionHypothesis later)).trans
      (between_append accepted ordered (le_lastCursor later))

/-! ### The batch of a report -/

theorem all_push (row : Row) :
    (groups.push row).all.Perm (groups.all ++ [row]) := by
  refine List.perm_iff_count.mpr fun other => ?_
  unfold Groups.push
  split_ifs <;> simp only [Groups.all, List.count_append] <;> omega

theorem all_foldl_push (rows : List Row) (groups : Groups) :
    (rows.foldl Groups.push groups).all.Perm (groups.all ++ rows) := by
  induction rows generalizing groups with
  | nil => rw [List.append_nil]; rfl
  | cons row rest inductionHypothesis =>
    have pushed := (all_push groups row).append_right rest
    rw [List.append_assoc, List.singleton_append] at pushed
    exact (inductionHypothesis (groups.push row)).trans pushed

/-- The cursors of a table in the order of its key. -/
def Ordered (rows : List Row) : Prop :=
  rows.Pairwise fun first second => first.cursor < second.cursor

theorem le_foldl_cursor (ordered : Ordered rows) (after : ∀ row ∈ rows, start < row.cursor) :
    start ≤ rows.foldl (fun _ row => row.cursor) start := by
  induction rows generalizing start with
  | nil => exact le_rfl
  | cons row rest inductionHypothesis =>
    obtain ⟨first, later⟩ := List.pairwise_cons.mp ordered
    exact (after row List.mem_cons_self).le.trans (inductionHypothesis later first)

theorem foldl_cursor_le {bound : ℕ} (within : start ≤ bound)
    (below : ∀ row ∈ rows, row.cursor ≤ bound) :
    rows.foldl (fun _ row => row.cursor) start ≤ bound := by
  induction rows generalizing start with
  | nil => exact within
  | cons row rest inductionHypothesis =>
    obtain ⟨first, later⟩ := List.forall_mem_cons.mp below
    exact inductionHypothesis first later

/-- In a table in the order of its key, the first rows are those up to the last of them. -/
theorem take_eq_filter (ordered : Ordered rows) (count : ℕ)
    (after : ∀ row ∈ rows, start < row.cursor) :
    rows.take count = rows.filter fun row =>
      decide (row.cursor ≤ (rows.take count).foldl (fun _ row => row.cursor) start) := by
  induction rows generalizing count start with
  | nil => rw [List.take_nil, List.filter_nil]
  | cons row rest inductionHypothesis =>
    obtain ⟨first, later⟩ := List.pairwise_cons.mp ordered
    cases count with
    | zero =>
      refine (List.filter_eq_nil_iff.mpr fun other member => ?_).symm
      rw [decide_eq_true_eq]
      exact Nat.not_le.mpr (after other member)
    | succ count =>
      have taken := inductionHypothesis later count first
      have reached := le_foldl_cursor (later.sublist (List.take_sublist count rest))
        fun other member => first other (List.mem_of_mem_take member)
      rw [List.take_succ_cons, List.foldl_cons, List.filter_cons, decide_eq_true reached, if_pos rfl,
        ← taken]

/-! ### Balanced books -/

/-- The report in the outbox has the events of the next range, and the refusals since the last
report that was acknowledged. -/
structure Waiting (books : Books Health) (report : Report Health) : Prop where
  after : books.store.ackedCursor ≤ report.nextCursor
  reached : report.nextCursor ≤ books.store.sequence
  events : report.payload.events.all.Perm
    (between books.accepted books.store.ackedCursor report.nextCursor)
  total : report.payload.droppedTotal = report.droppedCount
  count : report.payload.droppedCount = (report.droppedCount : ℤ) - books.store.ackedDropped
  within : report.droppedCount ≤ books.store.dropped

/-- The books and the tables agree: what the table took is there or in a report that was
acknowledged, and what it refused is in the counters. -/
structure Balanced (books : Books Health) : Prop where
  ordered : Ordered books.accepted
  known : ∀ row ∈ books.accepted, 0 < row.cursor ∧ row.cursor ≤ books.store.sequence
  left : books.store.events =
    books.accepted.filter fun row => decide (books.store.ackedCursor < row.cursor)
  covers : Covers books.accepted 0 books.acknowledged
  cursor : lastCursor 0 books.acknowledged = books.store.ackedCursor
  reached : books.store.ackedCursor ≤ books.store.sequence
  waiting : ∀ report, books.store.outbox = some report → Waiting books report
  dropped : books.store.dropped = books.refused
  counted : (books.acknowledged.map fun report => report.payload.droppedCount).sum =
    books.store.ackedDropped
  total : ((books.acknowledged.getLast?.map fun report => report.payload.droppedTotal).getD 0) =
    books.store.ackedDropped
  full : books.store.events.length ≤ capacity

theorem balanced_fresh : Balanced (⟨.fresh, [], 0, []⟩ : Books Health) where
  ordered := .nil
  known := nofun
  left := rfl
  covers := trivial
  cursor := rfl
  reached := le_rfl
  waiting := nofun
  dropped := rfl
  counted := rfl
  total := rfl
  full := Nat.zero_le _

/-- An event that is recorded is in the table or counted. -/
theorem Balanced.record {books : Books Health} (balanced : Balanced books) (observed : Observed) :
    Balanced (books.enter (.committed (.record observed) (books.store.record observed))) := by
  by_cases isFull : capacity ≤ books.store.events.length
  · have same : books.store.record observed =
        { books.store with dropped := books.store.dropped + 1 } := if_pos isFull
    rw [same, Books.enter, if_pos isFull]
    exact { balanced with
      waiting := fun report isReport =>
        have waits := balanced.waiting report isReport
        { waits with within := Nat.le_succ_of_le waits.within }
      dropped := congrArg (· + 1) balanced.dropped }
  · have same : books.store.record observed =
        { books.store with
          events := books.store.events ++ [⟨books.store.sequence + 1, observed⟩]
          sequence := books.store.sequence + 1 } := if_neg isFull
    have later : books.store.ackedCursor < books.store.sequence + 1 :=
      Nat.lt_succ_of_le balanced.reached
    rw [same, Books.enter, if_neg isFull]
    exact
      { ordered := List.pairwise_append.mpr ⟨balanced.ordered, List.pairwise_singleton _ _,
          fun row member new isNew => by
            obtain rfl := List.mem_singleton.mp isNew
            exact Nat.lt_succ_of_le (balanced.known row member).2⟩
        known := fun row member => by
          rcases List.mem_append.mp member with old | new
          · exact ⟨(balanced.known row old).1, Nat.le_succ_of_le (balanced.known row old).2⟩
          · obtain rfl := List.mem_singleton.mp new
            exact ⟨Nat.succ_pos _, le_rfl⟩
        left := by
          dsimp only
          rw [List.filter_append, ← balanced.left, List.filter_singleton, decide_eq_true later]
          rfl
        covers := balanced.covers.new (balanced.cursor.trans_lt later)
        cursor := balanced.cursor
        reached := later.le
        waiting := fun report isReport =>
          have waits := balanced.waiting report isReport
          { after := waits.after
            reached := Nat.le_succ_of_le waits.reached
            events := by
              have new : report.nextCursor < (⟨books.store.sequence + 1, observed⟩ : Row).cursor :=
                Nat.lt_succ_of_le waits.reached
              dsimp only
              rw [between_new new]
              exact waits.events
            total := waits.total
            count := waits.count
            within := waits.within }
        dropped := balanced.dropped
        counted := balanced.counted
        total := balanced.total
        full := by
          dsimp only
          rw [List.length_append]
          exact Nat.lt_of_not_le isFull }

/-- A report that is made has the next events. -/
theorem Balanced.waiting_report {books : Books Health} (balanced : Balanced books)
    (draw : Draw Health) : Waiting books (books.store.report draw) := by
  have all : books.store.events.filter
      (fun row => decide (books.store.ackedCursor < row.cursor)) = books.store.events := by
    rw [balanced.left, List.filter_filter]
    exact List.filter_congr fun row _ => Bool.and_self _
  have rows : books.store.rows = books.store.events.take batch := congrArg (List.take batch) all
  have after : ∀ row ∈ books.store.events, books.store.ackedCursor < row.cursor := by
    intro row member
    rw [← all] at member
    exact of_decide_eq_true (List.mem_filter.mp member).2
  have ordered : Ordered books.store.events := by
    rw [balanced.left]
    exact balanced.ordered.filter _
  have taken := take_eq_filter ordered batch after
  have next : books.store.next =
      (books.store.events.take batch).foldl (fun _ row => row.cursor) books.store.ackedCursor := by
    rw [← rows]
    rfl
  refine ⟨?_, ?_, ?_, rfl, rfl, le_rfl⟩
  · show books.store.ackedCursor ≤ books.store.next
    rw [next]
    exact le_foldl_cursor (ordered.sublist (List.take_sublist _ _)) fun row member =>
      after row (List.mem_of_mem_take member)
  · show books.store.next ≤ books.store.sequence
    rw [next]
    refine foldl_cursor_le balanced.reached fun row member => ?_
    have inTable := List.mem_of_mem_take member
    rw [balanced.left] at inTable
    exact (balanced.known row (List.mem_of_mem_filter inTable)).2
  · show (books.store.rows.foldl Groups.push Groups.empty).all.Perm
      (between books.accepted books.store.ackedCursor books.store.next)
    have same : books.store.rows =
        between books.accepted books.store.ackedCursor books.store.next := by
      rw [rows, taken, ← next, balanced.left, List.filter_filter]
      refine List.filter_congr fun row _ => ?_
      rw [← Bool.decide_and, decide_eq_decide, and_comm]
    rw [← same]
    exact all_foldl_push books.store.rows Groups.empty

/-- The transaction of `prepare` keeps the books balanced. -/
theorem Balanced.prepare {books : Books Health} (balanced : Balanced books)
    {size : Payload Health → ℕ} (accepted : apply size (.prepare draw) books.store = .ok after) :
    Balanced (books.enter (.committed (.prepare draw) after)) := by
  rw [apply] at accepted
  split at accepted
  case h_1 =>
    obtain rfl := Except.ok.inj accepted
    exact balanced
  case h_2 =>
    split at accepted
    case isFalse => exact nomatch accepted
    case isTrue =>
      obtain rfl := Except.ok.inj accepted
      exact { balanced with
        waiting := fun report isReport => by
          obtain rfl := Option.some.inj isReport
          exact { balanced.waiting_report draw with } }

/-- An acknowledgement moves the events of the report out of the table. -/
theorem Balanced.acknowledge {books : Books Health} (balanced : Balanced books)
    (isReport : books.store.outbox = some report) (reportId : String) :
    Balanced (books.enter (.committed (.acknowledge reportId) (books.store.acknowledge report))) := by
  have waits := balanced.waiting report isReport
  have listed : books.acknowledged ++ books.store.outbox.toList = books.acknowledged ++ [report] := by
    rw [isReport]
    rfl
  rw [Books.enter, listed]
  exact
    { ordered := balanced.ordered
      known := balanced.known
      left := by
        show books.store.events.filter _ = _
        rw [balanced.left, List.filter_filter]
        refine List.filter_congr fun row _ => ?_
        rw [← decide_not, ← Bool.decide_and, decide_eq_decide]
        have after := waits.after
        show ¬ row.cursor ≤ report.nextCursor ∧ books.store.ackedCursor < row.cursor ↔
          report.nextCursor < row.cursor
        omega
      covers := balanced.covers.append (balanced.cursor.trans_le waits.after)
        (balanced.cursor.symm ▸ waits.events)
      cursor := List.foldl_append ..
      reached := waits.reached
      waiting := nofun
      dropped := balanced.dropped
      counted := by
        show ((books.acknowledged ++ [report]).map _).sum = (report.droppedCount : ℤ)
        rw [List.map_append, List.sum_append, balanced.counted, List.map_singleton,
          List.sum_singleton, waits.count]
        omega
      total := by
        show ((books.acknowledged ++ [report]).getLast?.map _).getD 0 = report.droppedCount
        rw [List.getLast?_append]
        exact waits.total
      full := (List.length_filter_le _ _).trans balanced.full }

/-! ### Runs of the publisher -/

/-- An acknowledgement in a trace. -/
def Acknowledges : Entry (Store Health) (Call Health) (Sent Health) → Prop
  | .committed (.acknowledge _) _ => True
  | _ => False

/-- The outbox has the report of a request. -/
def Holds (sent : Sent Health) : Prop :=
  ∃ report, store.outbox = some report ∧ sent = ⟨report.reportId, report.payload⟩

/-- Two requests without an acknowledgement between them have the same id and the same bytes. -/
def Identical : Prop :=
  ∀ before middle after first second,
    trace = before ++ .emitted first :: (middle ++ .emitted second :: after) →
    (∀ entry ∈ middle, ¬ Acknowledges entry) → second = first

/-- A report that was sent and not acknowledged since is in the outbox. -/
def Retained (world : World (Store Health) (Call Health) (Sent Health)) : Prop :=
  ∀ before after sent, world.trace = before ++ .emitted sent :: after →
    (∀ entry ∈ after, ¬ Acknowledges entry) → Holds world.store sent

/-- What holds in every state of a run. -/
structure Exact (world : World (Store Health) (Call Health) (Sent Health)) : Prop where
  store : (books world.trace).store = world.store
  balanced : Balanced (books world.trace)
  identical : Identical world.trace
  retained : Retained world
  delivered : ∀ report ∈ (books world.trace).acknowledged,
    .emitted ⟨report.reportId, report.payload⟩ ∈ world.trace

theorem books_append (entry : Entry (Store Health) (Call Health) (Sent Health)) :
    books (trace ++ [entry]) = (books trace).enter entry :=
  History.after_append_singleton trace entry

theorem store_enter (books : Books Health) (call : Call Health) (after : Store Health) :
    (books.enter (.committed call after)).store = after := by
  cases call with
  | record =>
    rw [Books.enter]
    split <;> rfl
  | prepare draw | acknowledge reportId => rfl

/-- A commit adds no request. -/
theorem Identical.committed {trace : List (Entry (Store Health) (Call Health) (Sent Health))}
    (identical : Identical trace) (call : Call Health) (store : Store Health) :
    Identical (trace ++ [.committed call store]) := by
  intro before middle after first second split none
  rcases History.append_singleton_eq_append_cons split with ⟨empty, -, -⟩ | ⟨rest, last, same⟩
  · exact absurd empty (List.append_ne_nil_of_right_ne_nil _ (List.cons_ne_nil _ _))
  rcases History.append_singleton_eq_append_cons last.symm with ⟨-, -, wrong⟩ | ⟨later, -, inner⟩
  · exact nomatch wrong
  · exact identical before middle later first second (inner ▸ same) none

variable {size : Payload Health → ℕ}
  {world later : World (Store Health) (Call Health) (Sent Health)}

theorem Retained.committed (retained : Retained world) {call : Call Health} {store : Store Health}
    (kept : ∀ sent, Holds world.store sent → Holds store sent) :
    Retained (world.committed call store) := by
  intro before after sent split none
  rcases History.append_singleton_eq_append_cons split with ⟨-, -, wrong⟩ | ⟨rest, last, same⟩
  · exact nomatch wrong
  · exact kept sent (retained before rest sent same fun entry member =>
      none entry (last ▸ List.mem_append_left _ member))

theorem exact_fresh : Exact (⟨.fresh, []⟩ : World (Store Health) (Call Health) (Sent Health)) where
  store := rfl
  balanced := balanced_fresh
  identical := fun _ _ _ _ _ split _ =>
    absurd split.symm (List.append_ne_nil_of_right_ne_nil _ (List.cons_ne_nil _ _))
  retained := fun _ _ _ split _ =>
    absurd split.symm (List.append_ne_nil_of_right_ne_nil _ (List.cons_ne_nil _ _))
  delivered := nofun

/-- A commit keeps everything when it keeps the books balanced and the report retained, and
acknowledges what was sent. -/
theorem Exact.committed (holds : Exact world) {call : Call Health} {store : Store Health}
    (balanced : Balanced ((books world.trace).enter (.committed call store)))
    (retained : Retained (world.committed call store))
    (delivered : ∀ report ∈ ((books world.trace).enter (.committed call store)).acknowledged,
      report ∈ (books world.trace).acknowledged ∨
        .emitted ⟨report.reportId, report.payload⟩ ∈ world.trace) :
    Exact (world.committed call store) := by
  have entered : books (world.committed call store).trace = _ := books_append world.trace _
  refine ⟨?_, ?_, holds.identical.committed _ _, retained, fun report member => ?_⟩
  · rw [entered, store_enter]
    rfl
  · rw [entered]
    exact balanced
  · rw [entered] at member
    exact List.mem_append_left _ ((delivered report member).elim (holds.delivered report) id)

/-- An event that another task records keeps everything. -/
theorem Exact.record (holds : Exact world) (observed : Observed) :
    Exact (world.committed (.record observed) (world.store.record observed)) := by
  have outbox : (world.store.record observed).outbox = world.store.outbox := by
    unfold Store.record
    split <;> rfl
  have listed : ((books world.trace).enter (.committed (.record observed)
      (world.store.record observed))).acknowledged = (books world.trace).acknowledged := by
    rw [Books.enter]
    split <;> rfl
  refine holds.committed ?_ (holds.retained.committed fun sent held => ?_) fun report member =>
    .inl (listed ▸ member)
  · rw [← holds.store]
    exact holds.balanced.record observed
  · obtain ⟨report, isReport, same⟩ := held
    exact ⟨report, outbox.trans isReport, same⟩

/-- A report that is made keeps everything, and it is in the outbox. -/
theorem Exact.prepare (holds : Exact world)
    (accepted : apply size (.prepare draw) world.store = .ok after) :
    Exact (world.committed (.prepare draw) after) := by
  refine holds.committed ?_ (holds.retained.committed fun sent held => ?_) fun report => .inl
  · rw [← holds.store] at accepted
    exact holds.balanced.prepare accepted
  · obtain ⟨report, isReport, same⟩ := held
    have unchanged : apply size (.prepare draw) world.store = .ok world.store := by
      rw [apply, isReport]
    obtain rfl := Except.ok.inj (unchanged.symm.trans accepted)
    exact ⟨report, isReport, same⟩

/-- An acknowledgement of a report that was sent keeps everything. -/
theorem Exact.acknowledge (holds : Exact world) {sent : Sent Health} (held : Holds world.store sent)
    (wasSent : .emitted sent ∈ world.trace)
    (accepted : apply size (.acknowledge sent.reportId) world.store = .ok after) :
    Exact (world.committed (.acknowledge sent.reportId) after) := by
  obtain ⟨report, isReport, rfl⟩ := held
  have done : apply size (.acknowledge report.reportId) world.store =
      .ok (world.store.acknowledge report) := by
    rw [apply, isReport]
    exact if_pos rfl
  obtain rfl := Except.ok.inj (done.symm.trans accepted)
  refine holds.committed ?_ ?_ fun other member => ?_
  · rw [← holds.store]
    exact holds.balanced.acknowledge (holds.store ▸ isReport) report.reportId
  · intro before later sent split none
    rcases History.append_singleton_eq_append_cons split with ⟨-, -, wrong⟩ | ⟨rest, last, -⟩
    · exact nomatch wrong
    · have member : Entry.committed (.acknowledge report.reportId) (world.store.acknowledge report) ∈
          later := by
        rw [last]
        exact List.mem_append_right _ (List.mem_singleton.mpr rfl)
      exact absurd trivial (none _ member)
  · refine (List.mem_append.mp member).imp_right fun new => ?_
    rw [holds.store, isReport] at new
    obtain rfl := List.mem_singleton.mp new
    exact wasSent

/-- Sending the report in the outbox keeps everything. -/
theorem Exact.sent (holds : Exact world)
    {sent : Sent Health} (held : Holds world.store sent) : Exact (world.emitted sent) := by
  refine ⟨?_, ?_, ?_, ?_, ?_⟩
  · show (books (world.trace ++ [_])).store = _
    rw [books_append]
    exact holds.store
  · show Balanced (books (world.trace ++ [_]))
    rw [books_append]
    exact holds.balanced
  · intro before middle after first second split none
    rcases History.append_singleton_eq_append_cons split with ⟨empty, -, -⟩ | ⟨rest, last, same⟩
    · exact absurd empty (List.append_ne_nil_of_right_ne_nil _ (List.cons_ne_nil _ _))
    rcases History.append_singleton_eq_append_cons last.symm with
      ⟨-, rfl, isSecond⟩ | ⟨later, -, inner⟩
    · obtain ⟨report, isReport, isFirst⟩ := holds.retained before rest first same none
      obtain ⟨other, isOther, isSent⟩ := held
      obtain rfl := Option.some.inj (isReport.symm.trans isOther)
      cases isSecond
      exact isSent.trans isFirst.symm
    · exact holds.identical before middle later first second (inner ▸ same) none
  · intro before after other split none
    rcases History.append_singleton_eq_append_cons split with ⟨-, -, isOther⟩ | ⟨rest, last, same⟩
    · cases isOther
      exact held
    · exact holds.retained before rest other same fun entry member =>
        none entry (last ▸ List.mem_append_left _ member)
  · intro report member
    have member : report ∈ (books (world.trace ++ [_])).acknowledged := member
    rw [books_append] at member
    exact List.mem_append_left _ (holds.delivered report member)

section

theorem Exact.recording (world : World (Store Health) (Call Health) (Sent Health))
    (call : Call Health) (store : Store Health) (other : Recording call)
    (accepted : apply size call world.store = .ok store) (holds : Exact world) :
    Exact (world.committed call store) := by
  obtain ⟨observed, rfl⟩ := other
  obtain rfl := Except.ok.inj accepted
  exact holds.record observed

theorem Holds.recording {sent : Sent Health}
    (disturbs : Disturbs (apply size) Recording world later) (held : Holds world.store sent) :
    Holds later.store sent := by
  refine disturbs.keeps (fun world => Holds world.store sent)
    (fun world call store other accepted held => ?_) held
  obtain ⟨observed, rfl⟩ := other
  obtain rfl := Except.ok.inj accepted
  obtain ⟨report, isReport, same⟩ := held
  have outbox : (world.store.record observed).outbox = world.store.outbox := by
    unfold Store.record
    split <;> rfl
  exact ⟨report, outbox.trans isReport, same⟩

theorem sent_recording {sent : Sent Health}
    (disturbs : Disturbs (apply size) Recording world later)
    (wasSent : .emitted sent ∈ world.trace) :
    .emitted sent ∈ later.trace :=
  disturbs.keeps (fun world => .emitted sent ∈ world.trace)
    (fun _ _ _ _ _ listed => List.mem_append_left _ listed) wasSent

/-- `prepare` returns the report in the outbox. -/
theorem prepare_safe (holds : Exact world) :
    Safe (apply size) Recording Exact
      (fun sent after => Exact after ∧ Holds after.store sent) prepare world := by
  intro draw between disturbs store accepted
  have next := (disturbs.keeps Exact Exact.recording holds).prepare accepted
  refine ⟨next, fun later disturbs => ?_⟩
  have next := disturbs.keeps Exact Exact.recording next
  show Safe _ _ _ _ (match later.store.outbox with
    | some report => _
    | none => _) later
  cases isReport : later.store.outbox with
  | none => trivial
  | some report => exact ⟨next, report, isReport, rfl⟩

/-- `publish` is safe: it acknowledges only a report that it has sent. -/
theorem publish_safe (holds : Exact world) :
    Safe (apply size) Recording Exact (fun _ _ => True) publish world := by
  refine Safe.bind ((prepare_safe holds).mono fun sent between ⟨holds, held⟩ => ?_)
  intro atSend disturbs
  have held := held.recording disturbs
  have holds := (disturbs.keeps Exact Exact.recording holds).sent held
  refine ⟨holds, fun answered => ?_⟩
  cases answered with
  | false => trivial
  | true =>
    intro atEnd disturbs store accepted
    have wasSent : .emitted sent ∈ atEnd.trace :=
      sent_recording disturbs (List.mem_append_right _ (List.mem_singleton.mpr rfl))
    have held : Holds (atSend.emitted sent).store sent := held
    exact ⟨(disturbs.keeps Exact Exact.recording holds).acknowledge (held.recording disturbs) wasSent
      accepted, trivial⟩

/-- Everything holds in every state of every run. -/
theorem exact_of_lived (lived : Lived size world) : Exact world :=
  lived.invariant exact_fresh Exact.recording fun _ known _ holds => known ▸ publish_safe holds

/-- The outbox loses nothing and repeats nothing. In every state of every run, whatever other tasks
record, wherever the publisher stops and whatever the receiver answers: the events that the table
took, each with its own cursor, are those of the acknowledged reports and those that are still in
the table; the acknowledged reports were sent, and have just the events of ranges of cursors that
follow one another; a report that was not acknowledged stays in the outbox and is sent again with
the same id and the same bytes; the dropped counts of the acknowledged reports add up to the total
in the last of them, a report in the outbox goes on from there, and the counter in the journal is
the number of events that were refused; and the table has at most 4096 rows. -/
theorem outbox_exact (size : Payload Health → ℕ)
    (world : World (Store Health) (Call Health) (Sent Health)) (lived : Lived size world) :
    ((books world.trace).acknowledged.flatMap (fun report => report.payload.events.all) ++
        world.store.events).Perm (books world.trace).accepted ∧
      ((books world.trace).accepted.map Row.cursor).Nodup ∧
      Covers (books world.trace).accepted 0 (books world.trace).acknowledged ∧
      (∀ report ∈ (books world.trace).acknowledged,
        .emitted ⟨report.reportId, report.payload⟩ ∈ world.trace) ∧
      Retained world ∧ Identical world.trace ∧
      ((books world.trace).acknowledged.map fun report => report.payload.droppedCount).sum =
        (((books world.trace).acknowledged.getLast?.map fun report =>
          report.payload.droppedTotal).getD 0 : ℕ) ∧
      (∀ report, world.store.outbox = some report →
        ((books world.trace).acknowledged.map fun report => report.payload.droppedCount).sum +
          report.payload.droppedCount = report.payload.droppedTotal ∧
        report.payload.droppedTotal ≤ (books world.trace).refused) ∧
      world.store.dropped = (books world.trace).refused ∧
      world.store.events.length ≤ capacity := by
  obtain ⟨store, balanced, identical, retained, delivered⟩ := exact_of_lived lived
  refine ⟨?_, ?_, balanced.covers, delivered, retained, identical, ?_, ?_, ?_, ?_⟩
  · have events : world.store.events = (books world.trace).accepted.filter fun row =>
        !decide (row.cursor ≤ (books world.trace).store.ackedCursor) := by
      rw [← store, balanced.left]
      refine List.filter_congr fun row _ => ?_
      rw [← decide_not, decide_eq_decide, Nat.not_le]
    have reported : between (books world.trace).accepted 0
        (lastCursor 0 (books world.trace).acknowledged) =
          (books world.trace).accepted.filter fun row =>
            decide (row.cursor ≤ (books world.trace).store.ackedCursor) := by
      rw [balanced.cursor]
      refine List.filter_congr fun row member => ?_
      rw [decide_eq_decide, and_iff_right (balanced.known row member).1]
    have perm := balanced.covers.perm
    rw [reported] at perm
    rw [events]
    exact (perm.append_right _).trans (List.filter_append_perm _ _)
  · exact List.Pairwise.map Row.cursor (fun _ _ less => less.ne) balanced.ordered
  · rw [balanced.counted, balanced.total]
  · intro report isReport
    have waits := balanced.waiting report (store ▸ isReport)
    rw [balanced.counted, waits.count, waits.total, ← balanced.dropped]
    exact ⟨by omega, waits.within⟩
  · rw [← store]
    exact balanced.dropped
  · rw [← store]
    exact balanced.full

end

/-- One event that is recorded, reported and acknowledged. -/
theorem outbox_exact_one_event : ∃ world : World (Store Unit) (Call Unit) (Sent Unit),
    Lived (fun _ => 0) world ∧
      (books world.trace).accepted = [⟨1, ⟨none, "served", "", 0⟩⟩] ∧ world.store.events = [] ∧
      ((books world.trace).acknowledged.flatMap (fun report => report.payload.events.all) ++
        world.store.events).Perm (books world.trace).accepted := by
  obtain ⟨world, lived, accepted, left⟩ : ∃ world, Lived (fun _ : Payload Unit => 0) world ∧
      (books world.trace).accepted = [⟨1, ⟨none, "served", "", 0⟩⟩] ∧ world.store.events = [] :=
    ⟨_, .process .start publish rfl (.disturbed (.more (.none _) ⟨⟨none, "served", "", 0⟩, rfl⟩ rfl)
      (.ask ⟨"node", "1", "coordinator", "report", 0, ()⟩ (.commit rfl (.read (.emit (.ask true
        (.commit rfl (.stop _ _)))))))), rfl, rfl⟩
  exact ⟨world, lived, accepted, left, (outbox_exact _ world lived).1⟩

end

end D20.Telemetry
