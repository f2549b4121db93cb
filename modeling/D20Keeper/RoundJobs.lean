/-
This file models the jobs of a round coordinator's journal: what discovery, a moved request, a
vanished one and its return write, and how a job that was not started expires. A job keeps a copy of
its request's deadline. Discovery writes it for a new job and for one that had vanished, and the
return of a vanished job writes it again; a request that is read again under a job that is still
open leaves the copy as it is. Expiry goes by the copy.
-/

import D20Keeper.Journal

namespace D20

namespace Journal

/-- The round a request is bound to, as the keeper read it from the chain. -/
structure RoundAssignment where
  beacon : ℕ
  round : ℕ
  fingerprint : String
  sealingLagMs : ℤ
  seenAt : ℕ
  deriving DecidableEq, Repr

/-- A row of `round_demand`. -/
structure RoundDemand where
  job : String
  assignment : RoundAssignment
  deriving DecidableEq, Repr

/-- The record under `observation:request_moved`: how many requests moved, and the last. -/
structure RequestMoved where
  count : ℕ
  request : String
  time : ℕ
  deriving DecidableEq, Repr

end Journal

open Journal

/-- The journal of a round coordinator's keeper: its rounds stand beside the jobs. -/
structure RoundJournal where
  journal : Journal
  roundDemand : Table RoundDemand String RoundDemand.job
  moves : Option RequestMoved

namespace RoundJournal

/-- The journal of a round coordinator's keeper that has just created it. -/
def fresh : RoundJournal where
  journal := .fresh
  roundDemand := .empty
  moves := none

/-! ### Statements -/

/-- A job that starts over with a deadline. -/
def restart (deadline : ℤ) (job : Job) : Job :=
  { job with state := .pending, proof := none, call := none, deadline := deadline }

theorem restart_id (deadline : ℤ) (job : Job) : (restart deadline job).id = job.id := rfl

/-- The columns of a round row that the chain decides. -/
def rebind (assignment : RoundAssignment) (row : RoundDemand) : RoundDemand :=
  { row with assignment := { row.assignment with
    beacon := assignment.beacon, round := assignment.round
    fingerprint := assignment.fingerprint } }

variable (state : RoundJournal)

/-- A request found by discovery: its job, the round it is bound to and the cursor past it. A job
that is new or had vanished starts with the request's deadline, without backoffs and with its round
row afresh; any other takes the round and the fingerprint alone. -/
def discoveredRound (id : String) (deadline : ℤ) (next : String)
    (assignment : RoundAssignment) : Except String (Bool × RoundJournal) := do
  let known := state.journal.jobs.rows.any fun job => job.id == id && job.state != .vanished
  let jobs := state.journal.jobs.upsert { id := id, deadline := deadline }
    (fun job => if job.state == .vanished then restart deadline job else job)
    (by intro job; split <;> rfl)
  let found : Journal := { state.journal with jobs := jobs }
  let cleared := if known then found else found.clearBackoffs id
  let _ ← tryI64 assignment.round
  let _ ← tryI64 assignment.seenAt
  let demand := state.roundDemand.upsert { job := id, assignment := assignment }
    (fun row => if known then rebind assignment row else { row with assignment := assignment })
    (by intro row; split <;> rfl)
  return (!known,
    { state with journal := cleared.setMeta "cursor" next, roundDemand := demand })

/-- A job that waits without a transaction in flight loses its proof and is pending again. -/
def unprove (journal : Journal) (id : String) : Journal :=
  journal.updateJobs
    (fun job => job.id == id && (job.state == .pending || job.state == .prepared) &&
      !journal.jobInFlight job.id && !journal.memberInFlight job.id)
    (fun job => { job with proof := none, call := none, state := .pending }) Job.id_unproved

/-- A request whose fields at the decision head are not the ones the journal holds for it: its round
row takes the chain's, and a job that is not in flight loses its proof and is pending again. -/
def requestMoved (id : String) (assignment : RoundAssignment) (now : ℕ) :
    Except String RoundJournal := do
  let _ ← tryI64 assignment.round
  let demand := state.roundDemand.update (fun row => row.job == id) (rebind assignment)
    fun _ => rfl
  let count := (state.moves.map RequestMoved.count).getD 0
  return { journal := (unprove state.journal id).clearBackoffs id, roundDemand := demand
           moves := some { count := count + 1, request := id, time := now } }

/-- A vanished job whose request the chain has again is pending with the request's deadline. -/
def reviveRound (id : String) (deadline : ℤ)
    (assignment : RoundAssignment) : Except String (Bool × RoundJournal) := do
  let revived := state.journal.updateJobs (fun job => job.id == id && job.state == .vanished)
    (restart deadline) (restart_id deadline)
  if state.journal.jobs.rows.any fun job => job.id == id && job.state == .vanished then
    let _ ← tryI64 assignment.round
    let _ ← tryI64 assignment.seenAt
    let demand := state.roundDemand.upsert { job := id, assignment := assignment }
      (fun row => { row with assignment := assignment }) fun _ => rfl
    return (true, { state with journal := revived.clearBackoffs id, roundDemand := demand })
  else
    return (false, state)

/-- A request that the coordinator does not have any more. -/
def vanished (state : RoundJournal) (id : String) : RoundJournal :=
  { state with
    journal := state.journal.updateJobs (fun job => job.id == id)
      (fun job => { job with state := .vanished, proof := none, call := none }) fun _ => rfl }

/-- Drop the jobs that were not started before their deadline. -/
def expireUnstarted (state : RoundJournal) (now : ℤ) : RoundJournal :=
  { state with journal := state.journal.expireUnstarted now }

/-! ### Runs -/

/-- The calls that read a request, that find it missing, or that expire jobs, with what was read:
`request_moved` is called with the request it read, whose deadline does not reach the journal. The
last stands for the other updates of jobs, which touch neither a deadline nor a vanished job; the
recovery of finality, which settles or restarts jobs with what it reads, is not among the calls. -/
inductive Call
  | discoveredRound (id : String) (deadline : ℤ) (next : String) (assignment : RoundAssignment)
  | requestMoved (id : String) (deadline : ℤ) (assignment : RoundAssignment) (now : ℕ)
  | vanished (id : String)
  | reviveRound (id : String) (deadline : ℤ) (assignment : RoundAssignment)
  | expireUnstarted (now : ℤ)
  | updateJobs (condition : Job → Bool) (change : Job → Job)
      (kept : ∀ job, (change job).id = job.id ∧ (change job).deadline = job.deadline)

/-- The journal after a call; one that fails is rolled back. -/
def Call.run : Call → RoundJournal
  | .discoveredRound id deadline next assignment =>
    ((state.discoveredRound id deadline next assignment).toOption.map Prod.snd).getD state
  | .requestMoved id _ assignment now => (state.requestMoved id assignment now).toOption.getD state
  | .vanished id => state.vanished id
  | .reviveRound id deadline assignment =>
    ((state.reviveRound id deadline assignment).toOption.map Prod.snd).getD state
  | .expireUnstarted now => state.expireUnstarted now
  | .updateJobs condition change kept =>
    { state with
      journal := state.journal.updateJobs (fun job => condition job && job.state != .vanished)
        change fun job => (kept job).1 }

/-- The request a call read, and its deadline on the chain. -/
def Call.read : Call → Option (String × ℤ)
  | .discoveredRound id deadline _ _ | .requestMoved id deadline _ _
  | .reviveRound id deadline _ => some (id, deadline)
  | .vanished _ | .expireUnstarted _ | .updateJobs _ _ _ => none

/-! ### Where a job comes from -/

/-- A job after a call is one of before with its deadline, and not one that had vanished unless it
still has; or its deadline is the one the call read. -/
def Stems (call : Call) (job : Job) : Prop :=
  (∃ old ∈ state.journal.jobs.rows, old.id = job.id ∧ old.deadline = job.deadline ∧
    (job.state ≠ .vanished → old.state ≠ .vanished)) ∨ call.read = some (job.id, job.deadline)

variable {job : Job} {state : RoundJournal}

theorem stems_of_mem {call : Call} (member : job ∈ state.journal.jobs.rows) :
    state.Stems call job :=
  .inl ⟨job, member, rfl, rfl, id⟩

theorem stems_of_update {call : Call} {condition : Job → Bool} {change : Job → Job}
    {kept : ∀ job, (change job).id = job.id}
    (member : job ∈ (state.journal.updateJobs condition change kept).jobs.rows)
    (deadlines : ∀ job, (change job).deadline = job.deadline)
    (revives : ∀ job, condition job = true → (change job).state ≠ .vanished →
      job.state ≠ .vanished) : state.Stems call job := by
  obtain ⟨old, oldMem, rfl⟩ := mem_updateJobs.mp member
  split
  case isTrue met =>
    exact .inl ⟨old, oldMem, (kept old).symm, (deadlines old).symm, revives old met⟩
  case isFalse => exact stems_of_mem oldMem

/-- The jobs after a discovery. -/
theorem stems_discoveredRound {after : RoundJournal} {id next : String} {deadline : ℤ}
    {assignment : RoundAssignment} {new : Bool}
    (found : state.discoveredRound id deadline next assignment = .ok (new, after))
    (member : job ∈ after.journal.jobs.rows) :
    state.Stems (.discoveredRound id deadline next assignment) job := by
  obtain ⟨_, _, found⟩ := bind_eq_ok.mp found
  obtain ⟨_, _, found⟩ := bind_eq_ok.mp found
  cases found
  have upserted : job ∈ (state.journal.jobs.upsert { id := id, deadline := deadline }
      (fun job => if job.state == .vanished then restart deadline job else job)
      (by intro job; split <;> rfl)).rows := by
    revert member
    split <;> exact fun member => member
  rcases state.journal.jobs.upsert_rows (fun job => if job.state == .vanished then
    restart deadline job else job) (by intro job; split <;> rfl)
    { id := id, deadline := deadline } with ⟨-, rows⟩ | ⟨-, rows⟩
  · rw [rows, List.mem_append, List.mem_singleton] at upserted
    rcases upserted with old | rfl
    · exact stems_of_mem old
    · exact .inr rfl
  · rw [rows] at upserted
    obtain ⟨old, oldMem, rfl⟩ := List.mem_map.mp upserted
    split
    case isFalse => exact stems_of_mem oldMem
    case isTrue same =>
      split
      case isFalse => exact stems_of_mem oldMem
      case isTrue gone =>
        have ids : old.id = id := beq_iff_eq.mp same
        exact .inr (by rw [← ids]; rfl)

/-- The jobs after the return of a vanished one. -/
theorem stems_reviveRound {after : RoundJournal} {id : String} {deadline : ℤ}
    {assignment : RoundAssignment} {revived : Bool}
    (returned : state.reviveRound id deadline assignment = .ok (revived, after))
    (member : job ∈ after.journal.jobs.rows) :
    state.Stems (.reviveRound id deadline assignment) job := by
  unfold reviveRound at returned
  dsimp only at returned
  split at returned
  · obtain ⟨_, _, returned⟩ := bind_eq_ok.mp returned
    obtain ⟨_, _, returned⟩ := bind_eq_ok.mp returned
    cases returned
    have updated : job ∈ (state.journal.updateJobs
        (fun job => job.id == id && job.state == .vanished) (restart deadline)
        (restart_id deadline)).jobs.rows := member
    obtain ⟨old, oldMem, rfl⟩ := mem_updateJobs.mp updated
    split
    case isFalse => exact stems_of_mem oldMem
    case isTrue same =>
      have ids : old.id = id := beq_iff_eq.mp (Bool.and_eq_true_iff.mp same).1
      exact .inr (by rw [← ids]; rfl)
  · cases returned
    exact stems_of_mem member

/-- The jobs after any call. -/
theorem Call.stems (call : Call) (member : job ∈ (call.run state).journal.jobs.rows) :
    state.Stems call job := by
  cases call with
  | discoveredRound id deadline next assignment =>
    unfold Call.run at member
    dsimp only at member
    cases found : state.discoveredRound id deadline next assignment with
    | error =>
      rw [found] at member
      exact stems_of_mem member
    | ok =>
      rw [found] at member
      exact stems_discoveredRound found member
  | requestMoved id deadline assignment =>
    unfold Call.run RoundJournal.requestMoved at member
    dsimp only at member
    cases fits : tryI64 assignment.round with
    | error =>
      rw [fits] at member
      exact stems_of_mem member
    | ok =>
      rw [fits] at member
      have updated : job ∈ (unprove state.journal id).jobs.rows := member
      refine stems_of_update updated (fun _ => rfl) fun job met _ gone => ?_
      rw [gone] at met
      simp at met
  | vanished => exact stems_of_update member (fun _ => rfl) fun _ _ still => absurd rfl still
  | reviveRound id deadline assignment =>
    unfold Call.run at member
    dsimp only at member
    cases returned : state.reviveRound id deadline assignment with
    | error =>
      rw [returned] at member
      exact stems_of_mem member
    | ok =>
      rw [returned] at member
      exact stems_reviveRound returned member
  | expireUnstarted =>
    refine stems_of_update member (fun _ => rfl) fun job met _ gone => ?_
    rw [gone] at met
    simp at met
  | updateJobs condition change kept =>
    refine stems_of_update member (fun job => (kept job).2) fun job met _ => ?_
    exact bne_iff_ne.mp (Bool.and_eq_true_iff.mp met).2

end RoundJournal

/-- A journal beside the deadlines that were last read from the chain. -/
structure WatchedJobs where
  state : RoundJournal
  lastRead : String → Option ℤ

namespace WatchedJobs

open RoundJournal

/-- A journal that was just created, with nothing read. -/
def start : WatchedJobs := ⟨.fresh, fun _ => none⟩

variable (watched : WatchedJobs)

/-- One call, with what it read remembered. -/
def after (call : RoundJournal.Call) : WatchedJobs where
  state := call.run watched.state
  lastRead := match call.read with
    | none => watched.lastRead
    | some (id, deadline) => fun other => if other = id then some deadline else watched.lastRead other

/-- A sequence of calls. -/
def run (calls : List RoundJournal.Call) : WatchedJobs :=
  calls.foldl after watched

/-- A call that reads no later deadline than the journal holds for an open job. -/
def Timely (call : RoundJournal.Call) : Prop :=
  ∀ id deadline, call.read = some (id, deadline) → ∀ job ∈ watched.state.journal.jobs.rows,
    job.id = id → job.state ≠ .vanished → deadline ≤ job.deadline

/-- A sequence of such calls. -/
def AllTimely (watched : WatchedJobs) : List RoundJournal.Call → Prop
  | [] => True
  | call :: rest => watched.Timely call ∧ (watched.after call).AllTimely rest

/-- The deadline last read for an open job is not later than the one the journal holds. -/
def Covered : Prop :=
  ∀ job ∈ watched.state.journal.jobs.rows, job.state ≠ .vanished →
    ∃ deadline, watched.lastRead job.id = some deadline ∧ deadline ≤ job.deadline

theorem lastRead_after (call : RoundJournal.Call) (id : String) :
    (∃ deadline, call.read = some (id, deadline) ∧
        (watched.after call).lastRead id = some deadline) ∨
      ((∀ deadline, call.read ≠ some (id, deadline)) ∧
        (watched.after call).lastRead id = watched.lastRead id) := by
  unfold after
  cases read : call.read with
  | none => exact .inr ⟨nofun, rfl⟩
  | some pair =>
    obtain ⟨other, deadline⟩ := pair
    dsimp only
    by_cases same : id = other
    · exact .inl ⟨deadline, by rw [same], if_pos same⟩
    · refine .inr ⟨fun _ equal => same ?_, if_neg same⟩
      rw [Option.some.injEq, Prod.mk.injEq] at equal
      exact equal.1.symm

/-- One call that is timely keeps the deadlines covered. -/
theorem Covered.step {watched : WatchedJobs} {call : RoundJournal.Call} (covered : watched.Covered)
    (timely : watched.Timely call) : (watched.after call).Covered := by
  intro job member still
  rcases call.stems member with ⟨old, oldMem, ids, deadlines, stays⟩ | read
  · obtain ⟨deadline, known, covers⟩ := covered old oldMem (stays still)
    rw [← deadlines, ← ids]
    rcases watched.lastRead_after call old.id with ⟨fresh, read, last⟩ | ⟨-, last⟩
    · exact ⟨fresh, last, timely old.id fresh read old oldMem rfl (stays still)⟩
    · exact ⟨deadline, last.trans known, covers⟩
  · rcases watched.lastRead_after call job.id with ⟨fresh, again, last⟩ | ⟨unread, -⟩
    · rw [read, Option.some.injEq, Prod.mk.injEq] at again
      exact ⟨fresh, last, Int.le_of_eq again.2.symm⟩
    · exact absurd read (unread job.deadline)

/-- A sequence of timely calls keeps the deadlines covered. -/
theorem Covered.run {calls : List RoundJournal.Call} {watched : WatchedJobs}
    (covered : watched.Covered) (timely : watched.AllTimely calls) :
    (watched.run calls).Covered := by
  induction calls generalizing watched with
  | nil => exact covered
  | cons call rest inductionHypothesis =>
    exact inductionHypothesis (covered.step timely.1) timely.2

/-- In every run from a new journal in which no call reads, for a job the journal holds and that has
not vanished, a later deadline than the journaled one: whenever a job is marked expired, the
deadline last read from the chain for its request is past. -/
theorem expired_only_when_past (calls : List RoundJournal.Call) (timely : start.AllTimely calls)
    (now : ℤ) (before : Job) (beforeMem : before ∈ (start.run calls).state.journal.jobs.rows)
    (expired : Job)
    (expiredMem : expired ∈
      ((start.run calls).after (.expireUnstarted now)).state.journal.jobs.rows)
    (same : expired.id = before.id) (unexpired : before.state ≠ .expired)
    (marked : expired.state = .expired) :
    ∃ deadline, (start.run calls).lastRead before.id = some deadline ∧ deadline < now := by
  have covered : (start.run calls).Covered := Covered.run (fun _ member => nomatch member) timely
  obtain ⟨old, oldMem, result⟩ := mem_updateJobs.mp expiredMem
  have ids : old.id = expired.id := by
    rw [← result]
    split <;> rfl
  have equal := (start.run calls).state.journal.jobs.eq_of_key_eq oldMem beforeMem
    (ids.trans same)
  rw [equal] at result
  split at result
  case isFalse => exact absurd (result ▸ marked) unexpired
  case isTrue due =>
    rw [Bool.and_eq_true, decide_eq_true_eq] at due
    have still : before.state ≠ .vanished := by
      intro gone
      rw [gone] at due
      exact nomatch due.2
    obtain ⟨deadline, known, covers⟩ := covered before beforeMem still
    exact ⟨deadline, known, Int.lt_of_le_of_lt covers due.1⟩

/-- A request's assignment to a round. -/
def firstRound (fingerprint : String) : RoundAssignment where
  beacon := 0
  round := 1
  fingerprint := fingerprint
  sealingLagMs := 0
  seenAt := 0

/-- A request is found, and found moved to an earlier deadline. -/
def movedEarlier : List RoundJournal.Call :=
  [.discoveredRound "1" 100 "2" (firstRound "a"), .requestMoved "1" 90 (firstRound "b") 5]

theorem allTimely_movedEarlier : start.AllTimely movedEarlier := by
  have first : start.Timely (.discoveredRound "1" 100 "2" (firstRound "a")) :=
    fun _ _ _ _ member => nomatch member
  refine ⟨first, ?_, trivial⟩
  intro id deadline read job member
  cases read
  have only : job = { id := "1", deadline := 100 } := List.mem_singleton.mp member
  rw [only]
  exact fun _ _ => by decide

theorem expired_only_when_past_moved :
    ∃ deadline, (start.run movedEarlier).lastRead "1" = some deadline ∧ deadline < 150 :=
  expired_only_when_past movedEarlier allTimely_movedEarlier 150 { id := "1", deadline := 100 }
    (by decide) { id := "1", deadline := 100, state := .expired } (by decide) rfl (by decide) rfl

/-- A request is found, and found moved to a later deadline. -/
def movedLater : List RoundJournal.Call :=
  [.discoveredRound "1" 100 "2" (firstRound "a"), .requestMoved "1" 200 (firstRound "b") 5]

/-- The request that moved to a later deadline is expired by the deadline of before. -/
theorem moved_request_expires :
    (start.run movedLater).state.journal.jobs.rows = [{ id := "1", deadline := 100 }] ∧
    ((start.run movedLater).after (.expireUnstarted 150)).state.journal.jobs.rows =
      [{ id := "1", deadline := 100, state := .expired }] ∧
    (start.run movedLater).lastRead "1" = some 200 ∧ ¬(200 : ℤ) < 150 := by
  decide +kernel

end WatchedJobs

end D20
