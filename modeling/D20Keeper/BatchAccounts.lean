/-
This file is about the accounts of a batch. The requests of a batch are in three tables at once: the
attempts of its nonce carry the key of the batch, the member list under that key names the requests,
and each request has its own job. Signing a batch writes all three together and resolving its nonce
settles all three together; between the two, whatever replaces, cancels, resolves or reopens the
batch, the list under the key is the one that was signed.
-/

import Mathlib.Data.List.Perm.Subperm
import D20Keeper.Reopening

namespace D20.Journal

/-! ### Calls that end -/

/-- How a call ends: it commits, or one of its statements fails and the transaction is rolled
back. -/
def Call.Ends (digest : String → String) (call : Call) (journal after : Journal) : Prop :=
  call.apply digest journal = .ok after ∨ after = journal

/-- The journals that calls lead to, in any order and with any of them rolled back. -/
inductive Reaches (digest : String → String) (start : Journal) : Journal → Prop
  | start : Reaches digest start start
  | call {journal after : Journal} (earlier : Reaches digest start journal) (call : Call)
      (ends : call.Ends digest journal after) : Reaches digest start after

theorem Reaches.keeps {digest : String → String} {start journal : Journal}
    (reaches : Reaches digest start journal) {holds : Journal → Prop} (first : holds start)
    (step : ∀ (call : Call) (before after : Journal), holds before →
      call.apply digest before = .ok after → holds after) : holds journal := by
  induction reaches with
  | start => exact first
  | call earlier call ends inductionHypothesis =>
    rcases ends with committed | same
    · exact step call _ _ inductionHypothesis committed
    · exact same ▸ inductionHypothesis

variable {digest : String → String} {journal after : Journal} {members : List String}

/-- The work of every attempt is on record in every journal that is reached. -/
theorem Reaches.backed (reaches : Reaches digest fresh journal) : Backed digest journal :=
  reaches.keeps ⟨fun _ member => (nomatch member), fun _ listed => absurd rfl listed⟩
    fun _ _ _ backed committed => backed.step committed

/-! ### Signing -/

/-- A job that is signed. -/
def Job.sign (job : Job) : Job := { job with state := .signed }

theorem Job.id_sign (job : Job) : job.sign.id = job.id := rfl

theorem Job.sign_sign (job : Job) : job.sign.sign = job.sign := rfl

/-- Marking the members signed signs exactly their jobs. -/
theorem markMembersSigned_jobs (marked : journal.markMembersSigned members = .ok after) :
    after.jobs.rows =
      journal.jobs.rows.map (Table.changeNamed Job.id Job.sign members.contains) := by
  induction members generalizing journal with
  | nil =>
    cases marked
    exact (List.map_id _).symm
  | cons id rest inductionHypothesis =>
    obtain ⟨_, found, marked⟩ := bind_eq_ok.mp marked
    rw [ensure_eq_ok] at found
    have one : 0 < journal.jobs.rows.countP fun job => job.id == id && job.canSign :=
      Nat.lt_of_lt_of_eq Nat.one_pos found.symm
    obtain ⟨member, memberMem, both⟩ := List.countP_pos_iff.mp one
    rw [Bool.and_eq_true, beq_iff_eq] at both
    have first : (journal.updateJobs (fun job => job.id == id && job.canSign)
        (fun job => { job with state := .signed }) fun _ => rfl).jobs.rows =
        journal.jobs.rows.map (Table.changeNamed Job.id Job.sign (· == id)) := by
      unfold updateJobs
      rw [Table.update_rows]
      refine List.map_congr_left fun job jobMem => ?_
      unfold Table.changeNamed
      by_cases same : job.id = id
      · have equal := journal.jobs.eq_of_key_eq jobMem memberMem (same.trans both.1.symm)
        have found : (member.id == id && member.canSign) = true := by
          rw [both.1, both.2, beq_self_eq_true]
          rfl
        rw [equal, if_pos found, if_pos (beq_iff_eq.mpr both.1)]
        rfl
      · simp only [beq_false_of_ne same, Bool.false_and, Bool.false_eq_true, if_false]
    have comp := Table.changeNamed_comp Job.id_sign Job.sign_sign (· == id) rest.contains
    have names : (id :: rest).contains = fun name => name == id || rest.contains name :=
      funext fun _ => List.contains_cons
    rw [inductionHypothesis marked, first, List.map_map, comp, names]

/-- No member is live in another job. -/
theorem checkMembers_ok {job : String} (checked : journal.checkMembers job members = .ok ()) :
    ∀ id ∈ members, ∀ live ∈ journal.txs.rows, live.state.active = true → live.job ≠ job →
      live.job ≠ id ∧ id ∉ journal.membersIn live.job := by
  induction members with
  | nil => exact fun _ member => nomatch member
  | cons head rest inductionHypothesis =>
    obtain ⟨_, clear, checked⟩ := bind_eq_ok.mp checked
    rw [ensure_eq_ok] at clear
    intro id member live liveMem active other
    rcases List.mem_cons.mp member with rfl | later
    · have free := Table.count_eq_zero.mp clear live liveMem
      rw [active, bne_iff_ne.mpr other, Bool.true_and, Bool.true_and, Bool.or_eq_false_iff] at free
      refine ⟨fun same => ?_, fun listed => ?_⟩
      · rw [same, beq_self_eq_true] at free
        exact nomatch free.1
      · obtain ⟨row, rowMem, rfl⟩ := List.mem_map.mp listed
        obtain ⟨rowMem, sameJob⟩ := List.mem_filter.mp rowMem
        have unlisted := List.any_eq_false.mp free.2 row rowMem
        rw [beq_self_eq_true, Bool.true_and] at unlisted
        exact unlisted sameJob
    · exact inductionHypothesis checked id later live liveMem active other

/-- What signing a batch does: the attempt stands behind the others, the list under its key is its
members in their order, and exactly the jobs of the members are signed. No member is, alone or
through another batch, in a live attempt of another job. -/
structure BatchSigned (digest : String → String) (journal after : Journal) (attempt : Attempt)
    (members : List String) : Prop where
  attempts : after.txs.rows = journal.txs.rows ++ [attempt.inserted (nextId journal.txs.rows)]
  list : after.membersIn attempt.job = members
  lists : ∀ job, job ≠ attempt.job → after.membersIn job = journal.membersIn job
  key : batchKey digest members = .ok attempt.job
  distinct : members.Nodup
  known : ∀ id ∈ members, id ∈ journal.jobs.rows.map Job.id
  jobs : after.jobs.rows =
    journal.jobs.rows.map (Table.changeNamed Job.id Job.sign members.contains)
  apart : ∀ id ∈ members, ∀ live ∈ journal.txs.rows, live.state.active = true →
    live.job ≠ attempt.job → live.job ≠ id ∧ id ∉ journal.membersIn live.job

/-- A batch is signed as a whole. -/
theorem batchSigned_of_ok {attempt : Attempt} {mark : Option Mark}
    (signed : signedBatchMarked digest journal attempt members mark = .ok after) :
    BatchSigned digest journal after attempt members := by
  obtain ⟨signs, serves⟩ := signedBatchMarked_ok signed
  unfold signedBatchMarked at signed
  obtain ⟨_, _, signed⟩ := bind_eq_ok.mp signed
  obtain ⟨_, _, signed⟩ := bind_eq_ok.mp signed
  obtain ⟨_, _, signed⟩ := bind_eq_ok.mp signed
  obtain ⟨_, distinct, signed⟩ := bind_eq_ok.mp signed
  obtain ⟨_, checked, signed⟩ := bind_eq_ok.mp signed
  obtain ⟨claimed, claim, signed⟩ := bind_eq_ok.mp signed
  obtain ⟨marked, write, signed⟩ := bind_eq_ok.mp signed
  rw [ensure_eq_ok] at distinct
  obtain ⟨_, _, _, _, _, sameClaimed⟩ := claimLane_ok.mp claim
  obtain ⟨_, sameMarked, -⟩ := writeMarks_ok write
  have unmoved : marked.jobs = journal.jobs := by
    rw [sameMarked, sameClaimed]
  have jobs : after.jobs.rows =
      journal.jobs.rows.map (Table.changeNamed Job.id Job.sign members.contains) := by
    dsimp only at signed
    split at signed
    · obtain ⟨listed, inserted, signed⟩ := bind_eq_ok.mp signed
      obtain ⟨_, sameListed, -⟩ := insertMembers_ok inserted
      rw [markMembersSigned_jobs signed, sameListed, ← unmoved]
    · obtain ⟨_, _, signed⟩ := bind_eq_ok.mp signed
      rw [markMembersSigned_jobs signed, ← unmoved]
  exact
    { attempts := signs.rows, list := serves.listed, lists := serves.others, key := serves.key
      distinct, known := serves.known, jobs, apart := checkMembers_ok checked }

/-! ### Resolving -/

/-- A job after its nonce resolved. A member of a batch that returns to `prepared` without calldata
is pending. -/
def Resolution.job (job : Job) : Resolution → Job
  | .state .prepared => { job with state := if job.call.isNone then .pending else .prepared }
  | .state settled => { job with state := settled }
  | .reprove => { job with state := .pending, proof := none, call := none }

theorem Resolution.job_id (job : Job) (state : Resolution) : (state.job job).id = job.id := by
  unfold Resolution.job
  split <;> rfl

/-- A job after the nonce of a batch resolved: a member has the state that is accounted for it. -/
def resolvedJob (states : List (String × Resolution)) (job : Job) : Job :=
  match states.lookup job.id with
  | none => job
  | some state => state.job job

theorem resolveMember_jobs (journal : Journal) (id : String) (state : Resolution) :
    (journal.resolveMember id state).jobs.rows =
      journal.jobs.rows.map fun job => if job.id == id then state.job job else job := by
  cases state with
  | reprove => rfl
  | state state =>
    cases state with
    | prepared =>
      unfold resolveMember setMetaOnce
      dsimp only
      split <;> rfl
    | _ => rfl

/-- Resolving members that are distinct changes each once. -/
theorem resolveMembers_jobs {states : List (String × Resolution)}
    (distinct : (states.map Prod.fst).Nodup)
    (resolved : journal.resolveMembers states = .ok after) :
    after.jobs.rows = journal.jobs.rows.map (resolvedJob states) ∧
      ∀ id ∈ states.map Prod.fst, id ∈ journal.jobs.rows.map Job.id := by
  induction states generalizing journal with
  | nil =>
    cases resolved
    exact ⟨(List.map_id _).symm, nofun⟩
  | cons entry rest inductionHypothesis =>
    obtain ⟨id, state⟩ := entry
    rw [List.map_cons, List.nodup_cons] at distinct
    obtain ⟨_, found, resolved⟩ := bind_eq_ok.mp resolved
    rw [ensure_eq_ok] at found
    obtain ⟨jobs, known⟩ := inductionHypothesis distinct.2 resolved
    obtain ⟨_, _, same, ids⟩ := resolveMember_eq journal id state
    refine ⟨?_, fun wanted member => ?_⟩
    · rw [jobs, resolveMember_jobs, List.map_map]
      refine List.map_congr_left fun job _ => ?_
      simp only [Function.comp_apply]
      by_cases own : job.id = id
      · have absent : rest.lookup (state.job job).id = none := by
          rw [Resolution.job_id, own, List.lookup_eq_none_iff]
          intro entry entryMem
          rw [bne_iff_ne]
          intro same
          exact distinct.1 (List.mem_map.mpr ⟨entry, entryMem, same.symm⟩)
        rw [if_pos (beq_iff_eq.mpr own)]
        unfold resolvedJob
        rw [absent, own, List.lookup_cons_self]
      · rw [if_neg (by rw [beq_iff_eq]; exact own)]
        unfold resolvedJob
        rw [List.lookup_cons, beq_false_of_ne own]
    · rcases List.mem_cons.mp member with rfl | later
      · exact journal.jobs.mem_keys_of_count found
      · have old := known wanted later
        rw [same] at old
        exact ids ▸ old

/-- What resolving the nonce of a batch does: every attempt of the nonce is resolved, the floor
moves past it, and the jobs that move are exactly those of the members of the batch, each once. -/
structure BatchResolved (journal after : Journal) (nonce : ℕ) (key : String)
    (states : List (String × Resolution)) : Prop where
  attempts : after.txs.rows = journal.txs.rows.map (resolvedRow nonce)
  floor : after.nonceFloor = max (castInteger journal.nonceFloor) (castInteger (nonce + 1))
  accounted : (states.map Prod.fst).Perm (journal.membersIn key)
  distinct : (states.map Prod.fst).Nodup
  known : ∀ id ∈ states.map Prod.fst, id ∈ journal.jobs.rows.map Job.id
  jobs : after.jobs.rows = journal.jobs.rows.map (resolvedJob states)
  lists : after.batchMembers = journal.batchMembers

/-- The nonce of a batch is resolved as a whole. -/
theorem batchResolved_of_ok {nonce : ℕ} {key : String} {states : List (String × Resolution)}
    {mark : Option Mark}
    (resolved : journal.resolveNonceBatchMarked nonce key states mark = .ok after) :
    BatchResolved journal after nonce key states := by
  have resolves := resolveNonceBatchMarked_ok resolved
  obtain ⟨next, counted, resolved⟩ := bind_eq_ok.mp resolved
  obtain ⟨_, _, resolved⟩ := bind_eq_ok.mp resolved
  obtain ⟨_, accounted, resolved⟩ := bind_eq_ok.mp resolved
  obtain ⟨marked, write, resolved⟩ := bind_eq_ok.mp resolved
  rw [ensure_eq_ok] at accounted
  obtain ⟨once, counts, every⟩ := accounted
  obtain ⟨_, sameMarked, -⟩ := writeMarks_ok write
  have distinct : (states.map Prod.fst).Nodup := by
    rw [← List.dedup_eq_self]
    exact (List.dedup_sublist _).eq_of_length (once.trans (List.length_map _).symm)
  have perm : (states.map Prod.fst).Perm (journal.membersIn key) := by
    rw [List.dedup_eq_self.mpr distinct] at counts every
    have inside : (journal.membersIn key).Subperm (states.map Prod.fst) :=
      List.subperm_of_subset (journal.membersIn_nodup key) every
    exact (inside.perm_of_length_le (Nat.le_of_eq counts)).symm
  obtain ⟨jobs, known⟩ := resolveMembers_jobs distinct resolved
  have unmoved : (marked.settleNonce nonce next).jobs = journal.jobs := by
    rw [sameMarked]
    rfl
  rw [unmoved] at jobs known
  refine ⟨?_, resolves.floor, perm, distinct, known, jobs, resolves.members⟩
  rw [resolves.txs]
  refine (setTxState_rows fun attempt => ?_).trans (List.append_nil _)
  simp only [beq_iff_eq]
  rfl

/-! ### The list of a batch -/

/-- A list that is on record stays as it is. -/
theorem Reaches.membersIn_eq {later : Journal} (reaches : Reaches digest journal later)
    {job : String} (listed : journal.membersIn job ≠ []) :
    later.membersIn job = journal.membersIn job := by
  have kept : ∀ (call : Call) (before after : Journal),
      before.membersIn job = journal.membersIn job → call.apply digest before = .ok after →
        after.membersIn job = journal.membersIn job := by
    intro call before after same committed
    by_cases inserts : call.lists = some job
    · cases call with
      | signedBatch =>
        cases inserts
        have serves := (signedBatchMarked_ok committed).2
        rcases serves.before with absent | present
        · exact absurd (same.symm.trans absent) listed
        · rw [serves.listed, ← present, same]
      | _ => exact nomatch inserts
    · rw [(Call.does committed).members job inserts, same]
  exact reaches.keeps (rfl : journal.membersIn job = journal.membersIn job) kept

/-- In every journal that calls lead to from a new one, with any of them rolled back at any
statement: signing a batch writes the attempt, its ordered member list and the signed state of every
member together if it commits, refusing a member that is in a live attempt of another job, alone or
through another batch, and changes nothing if it does not; resolving the nonce of a batch moves
exactly its members, each once, with every attempt of the nonce and the floor if it commits, and
changes nothing if it does not; and once a batch has an attempt its ordered list never changes
again, and its key is the key of that list. -/
theorem batch_accounting (digest : String → String) (journal : Journal)
    (reached : Reaches digest fresh journal) :
    (∀ attempt members mark after,
      (Call.signedBatch attempt members mark).Ends digest journal after →
        ((Call.signedBatch attempt members mark).apply digest journal = .ok after →
          BatchSigned digest journal after attempt members) ∧
        ((Call.signedBatch attempt members mark).apply digest journal ≠ .ok after →
          after = journal)) ∧
    (∀ nonce key states mark after,
      (Call.resolveNonceBatch nonce key states mark).Ends digest journal after →
        ((Call.resolveNonceBatch nonce key states mark).apply digest journal = .ok after →
          BatchResolved journal after nonce key states) ∧
        ((Call.resolveNonceBatch nonce key states mark).apply digest journal ≠ .ok after →
          after = journal)) ∧
    ∀ later, Reaches digest journal later → ∀ attempt ∈ journal.txs.rows,
      attempt.kind.isEpoch = false → isBatchJob attempt.job = true →
        later.membersIn attempt.job = journal.membersIn attempt.job ∧
        batchKey digest (later.membersIn attempt.job) = .ok attempt.job := by
  refine ⟨fun attempt members mark after ends => ?_, fun nonce key states mark after ends => ?_,
    fun later reaches attempt member game isBatch => ?_⟩
  · exact ⟨batchSigned_of_ok, ends.resolve_left⟩
  · exact ⟨batchResolved_of_ok, ends.resolve_left⟩
  · have listed := (reached.backed.attempts attempt member).batch game isBatch
    have same := reaches.membersIn_eq listed
    refine ⟨same, ?_⟩
    rw [same]
    exact (reached.backed.lists attempt.job listed).1

/-- Two requests that are found and proven. -/
def preparedPair : List Call :=
  [.discovered "1" 9 "2", .discovered "2" 9 "3", .prepared "1" "p" "c", .prepared "2" "p" "c"]

/-- The journal after some calls, of which those that fail are rolled back. -/
def afterCalls (digest : String → String) (journal : Journal) : List Call → Journal
  | [] => journal
  | call :: rest => afterCalls digest ((call.apply digest journal).toOption.getD journal) rest

theorem reaches_afterCalls (digest : String → String) (calls : List Call) {start : Journal}
    (earlier : Reaches digest start journal) :
    Reaches digest start (afterCalls digest journal calls) := by
  induction calls generalizing journal with
  | nil => exact earlier
  | cons call rest inductionHypothesis =>
    refine inductionHypothesis (earlier.call call ?_)
    cases applied : call.apply digest journal with
    | error => exact .inr rfl
    | ok => exact .inl applied

/-- A batch of the two requests. -/
def pairBatch : Attempt :=
  { fulfillment "batch:1:2:1,2" "a" 0 with kind := .fulfillBatch }

/-- How the two requests end: one is served, the other is to be proven again. -/
def pairStates : List (String × Resolution) := [("1", .state .served), ("2", .reprove)]

theorem batch_accounting_pair :
    ∃ signed resolved,
      signedBatchMarked id (afterCalls id fresh preparedPair) pairBatch ["1", "2"] none =
        .ok signed ∧
      BatchSigned id (afterCalls id fresh preparedPair) signed pairBatch ["1", "2"] ∧
      signed.resolveNonceBatchMarked 0 "batch:1:2:1,2" pairStates none = .ok resolved ∧
      BatchResolved signed resolved 0 "batch:1:2:1,2" pairStates := by
  have reached : Reaches id fresh (afterCalls id fresh preparedPair) :=
    reaches_afterCalls id preparedPair .start
  have signs := (batch_accounting id _ reached).1 pairBatch ["1", "2"] none _ (.inl rfl)
  have resolves := (batch_accounting id _ (reached.call (.signedBatch pairBatch ["1", "2"] none)
    (.inl rfl))).2.1 0 "batch:1:2:1,2" pairStates none _ (.inl rfl)
  exact ⟨_, _, rfl, signs.1 rfl, rfl, resolves.1 rfl⟩

end D20.Journal
