/-
This file is about the lanes a recovery parks. Reopening a nonce and starting a fill both park every
other live attempt, again and again while the recovery walks from nonce to nonce, and the end of the
recovery returns what is parked. Parking never touches an attempt that is parked already, so what an
attempt remembers is the state it had before the first parking; and beside the parking a call
touches only the nonce it reopens: its attempts, their marks and the work they serve.
-/

import D20Keeper.JournalCalls

namespace D20.Journal

/-! ### The calls of a recovery -/

/-- The calls of a recovery that park attempts. -/
inductive RecoveryCall
  | reopenNonce (nonce chainTime wallTime : ℕ)
  | beginFill (fill : Fill)

variable (journal : Journal)

/-- The journal after a call; one that fails changes nothing. -/
def RecoveryCall.run : RecoveryCall → Journal
  | .reopenNonce nonce chainTime wallTime =>
    match journal.reopenNonce nonce chainTime wallTime with
    | .ok (_, after) => after
    | .error _ => journal
  | .beginFill fill => journal.beginFill fill

/-- Whether a call reopens a nonce: its arguments fit and there are bytes for the last attempt. -/
def takesEffect (nonce chainTime : ℕ) : Bool :=
  decide (nonce ≤ maxI64 ∧ chainTime ≤ maxI64) && !bytesGone (journal.attemptsOf nonce)

/-- The nonces a call reopens. -/
def RecoveryCall.reopened : RecoveryCall → List ℕ
  | .reopenNonce nonce chainTime _ => if journal.takesEffect nonce chainTime then [nonce] else []
  | .beginFill _ => []

/-- The attempts a call parks: those its `UPDATE` finds signed or submitted. -/
def RecoveryCall.parks : RecoveryCall → Attempt → Bool
  | .reopenNonce nonce chainTime _, attempt =>
    journal.takesEffect nonce chainTime && (attempt.state.active && attempt.nonce != nonce)
  | .beginFill _, attempt => attempt.state.active

/-- The journal after a sequence of calls. -/
def runRecovery (journal : Journal) : List RecoveryCall → Journal
  | [] => journal
  | call :: rest => (call.run journal).runRecovery rest

/-- The nonces a sequence of calls reopens. -/
def reopenedBy (journal : Journal) : List RecoveryCall → List ℕ
  | [] => []
  | call :: rest => call.reopened journal ++ (call.run journal).reopenedBy rest

/-- How often a sequence of calls parks the transaction of a hash. -/
def timesParked (journal : Journal) (hash : String) : List RecoveryCall → ℕ
  | [] => 0
  | call :: rest =>
    (if journal.txs.rows.any fun attempt => attempt.hash == hash && call.parks journal attempt
      then 1 else 0) + (call.run journal).timesParked hash rest

/-- How a recovery ends: the parked attempts return, alone or with the incident cleared. -/
inductive Unparking
  | unparkLanes
  | clearFinalityIncident (summary : String)

/-- The journal at the end of a recovery. -/
def Unparking.run : Unparking → Journal
  | .unparkLanes => journal.unparkLanes
  | .clearFinalityIncident summary => journal.clearFinalityIncident summary

/-! ### What belongs to a nonce -/

/-- A request that an attempt serves, alone or as a member of its batch. -/
def servesRequest (attempt : Attempt) (id : String) : Bool :=
  !attempt.kind.isEpoch && if isBatchJob attempt.job then
    (journal.membersIn attempt.job).contains id else id == attempt.job

/-- The requests that the attempts of some nonces serve. -/
def requestsOf (nonces : List ℕ) (id : String) : Bool :=
  journal.txs.rows.any fun attempt =>
    nonces.contains attempt.nonce && journal.servesRequest attempt id

/-- The epochs that the attempts of some nonces serve. -/
def epochsOf (nonces : List ℕ) (key : String) : Bool :=
  journal.txs.rows.any fun attempt =>
    nonces.contains attempt.nonce && (attempt.kind.isEpoch && key == attempt.job)

/-- The marks of some nonces: of the receipts of their attempts, and of the nonces themselves. -/
def marksOf (nonces : List ℕ) (mark : Mark) : Bool :=
  (mark.kind == .receipt && journal.txs.rows.any fun attempt =>
    nonces.contains attempt.nonce && attempt.hash == mark.reference) ||
  (mark.kind == .nonce && nonces.any fun nonce => mark.reference == toString nonce)

/-- A job that is submitted again if it is one of the given requests. -/
def submitJob : (String → Bool) → Job → Job :=
  Table.changeNamed Job.id fun job => { job with state := .submitted }

/-- An epoch that is submitted again if it is one of the given ones. -/
def submitEpoch : (String → Bool) → EpochWork → EpochWork :=
  Table.changeNamed EpochWork.key fun work => { work with state := .submitted }

/-- One attempt beside what parking and reopening leave of it. -/
structure ParkedRow (reopened : List ℕ) (before after : Attempt) : Prop where
  same : after =
    { before with state := after.state, created := after.created, broadcast := after.broadcast }
  others : before.nonce ∉ reopened → after = before ∨ after = parkedRow before
  own : before.nonce ∈ reopened → after.state = .submitted ∨ after.state = .parkedSubmitted

/-- What the calls of a recovery leave of a journal when they reopen some nonces: they park other
attempts, they take the attempts of those nonces back, delete their marks and submit the requests
and epochs they serve again, and they write `nonce_started` of those nonces and the fill. -/
structure Parks (journal after : Journal) (reopened : List ℕ) : Prop where
  attempts : List.Forall₂ (ParkedRow reopened) journal.txs.rows after.txs.rows
  jobs : after.jobs.rows = journal.jobs.rows.map (submitJob (journal.requestsOf reopened))
  work : after.epochWork.rows =
    journal.epochWork.rows.map (submitEpoch (journal.epochsOf reopened))
  marks : after.softMarks.rows =
    journal.softMarks.rows.filter fun mark => !journal.marksOf reopened mark
  texts : ∀ key, (∀ nonce ∈ reopened, key ≠ "nonce_started:" ++ toString nonce) →
    after.metaText key = journal.metaText key
  rest : after = { journal with
    txs := after.txs, jobs := after.jobs, epochWork := after.epochWork,
    softMarks := after.softMarks, metaText := after.metaText, fill := after.fill }

/-! ### Reopening the work of a nonce -/

/-- The requests of an entry of the work that is reopened. -/
def entryRequests (entry : String × Bool) (id : String) : Bool :=
  !entry.2 && if isBatchJob entry.1 then (journal.membersIn entry.1).contains id else id == entry.1

theorem submitJob_comp (first second : String → Bool) :
    submitJob second ∘ submitJob first = submitJob fun id => first id || second id := by
  unfold submitJob
  refine Table.changeNamed_comp ?_ ?_ first second
  · exact fun _ => rfl
  · exact fun _ => rfl

theorem submitEpoch_comp (first second : String → Bool) :
    submitEpoch second ∘ submitEpoch first = submitEpoch fun key => first key || second key := by
  unfold submitEpoch
  refine Table.changeNamed_comp ?_ ?_ first second
  · exact fun _ => rfl
  · exact fun _ => rfl

theorem submitJob_none : submitJob (fun _ => false) = id := rfl

theorem submitEpoch_none : submitEpoch (fun _ => false) = id := rfl

/-- Reopening one entry of work. -/
theorem reopenWork_rows (entry : String × Bool) :
    (journal.reopenWork entry).jobs.rows =
        journal.jobs.rows.map (submitJob (journal.entryRequests entry)) ∧
      (journal.reopenWork entry).epochWork.rows =
        journal.epochWork.rows.map (submitEpoch fun key => entry.2 && key == entry.1) := by
  obtain ⟨job, epoch⟩ := entry
  cases epoch with
  | true => exact ⟨(List.map_id _).symm, rfl⟩
  | false =>
    cases batch : isBatchJob job with
    | true =>
      rw [reopenWork_batch batch]
      refine ⟨?_, (List.map_id _).symm⟩
      unfold updateJobs entryRequests
      rw [Table.update_rows]
      simp only [batch, Bool.not_false, Bool.true_and, if_true]
      rfl
    | false =>
      rw [reopenWork_single batch]
      refine ⟨?_, (List.map_id _).symm⟩
      unfold updateJobs entryRequests
      rw [Table.update_rows]
      simp only [batch, Bool.not_false, Bool.true_and, Bool.false_eq_true, if_false]
      rfl

/-- Reopening some work submits the requests and the epochs of that work again and changes nothing
else of them. -/
theorem foldl_reopenWork_rows (entries : List (String × Bool)) (journal : Journal) :
    (entries.foldl reopenWork journal).jobs.rows =
        journal.jobs.rows.map
          (submitJob fun id => entries.any fun entry => journal.entryRequests entry id) ∧
      (entries.foldl reopenWork journal).epochWork.rows =
        journal.epochWork.rows.map
          (submitEpoch fun key => entries.any fun entry => entry.2 && key == entry.1) := by
  induction entries generalizing journal with
  | nil => exact ⟨(List.map_id _).symm, (List.map_id _).symm⟩
  | cons entry rest inductionHypothesis =>
    obtain ⟨jobs, work⟩ := inductionHypothesis (journal.reopenWork entry)
    obtain ⟨firstJobs, firstWork⟩ := journal.reopenWork_rows entry
    obtain ⟨_, _, same, -⟩ := journal.reopenWork_eq entry
    have members : (journal.reopenWork entry).entryRequests = journal.entryRequests := by
      rw [same]
      rfl
    rw [List.foldl_cons, jobs, work, firstJobs, firstWork, List.map_map, List.map_map, members,
      submitJob_comp, submitEpoch_comp]
    simp only [List.any_cons]
    exact ⟨trivial, trivial⟩

/-! ### One call -/

theorem ParkedRow.refl (attempt : Attempt) : ParkedRow [] attempt attempt :=
  ⟨rfl, fun _ => .inl rfl, nofun⟩

theorem forall₂_map {Row : Type} {relation : Row → Row → Prop} {change : Row → Row}
    {rows : List Row} (holds : ∀ row ∈ rows, relation row (change row)) :
    List.Forall₂ relation rows (rows.map change) :=
  List.forall₂_map_right_iff.mpr (List.forall₂_same.mpr holds)

theorem marksOf_nil (mark : Mark) : journal.marksOf [] mark = false := by
  simp [marksOf]

theorem requestsOf_nil : journal.requestsOf [] = fun _ => false := by
  funext id
  simp [requestsOf]

theorem epochsOf_nil : journal.epochsOf [] = fun _ => false := by
  funext key
  simp [epochsOf]

variable {journal after : Journal} {nonce chainTime : ℕ} {reopened : List ℕ}

/-- Parking attempts alone. -/
theorem Parks.of_park (attempts : List.Forall₂ (ParkedRow [])
    journal.txs.rows after.txs.rows)
    (rest : after = { journal with txs := after.txs, fill := after.fill }) :
    Parks journal after [] where
  attempts := attempts
  jobs := by
    rw [rest, requestsOf_nil, submitJob_none, List.map_id]
  work := by
    rw [rest, epochsOf_nil, submitEpoch_none, List.map_id]
  marks := by
    rw [rest]
    simp only [marksOf_nil, Bool.not_false, List.filter_true]
  texts := by
    intro key _
    rw [rest]
  rest := by
    rw [rest]

variable (journal)

theorem Parks.refl : Parks journal journal [] :=
  .of_park (List.forall₂_same.mpr fun attempt _ => ParkedRow.refl attempt) rfl

theorem parks_beginFill (fill : Fill) :
    Parks journal (journal.beginFill fill) [] := by
  refine .of_park ?_ rfl
  have rows : (journal.beginFill fill).txs.rows = journal.txs.rows.map parkedRow :=
    (setTxState_rows parkedRow_eq).trans (List.append_nil _)
  rw [rows]
  exact forall₂_map fun attempt _ => ⟨rfl, fun _ => .inr rfl, nofun⟩

/-- The work of the attempts of a nonce. -/
def workOf (nonce : ℕ) : List (String × Bool) :=
  ((journal.attemptsOf nonce).map fun attempt => (attempt.job, attempt.kind.isEpoch)).dedup

theorem any_workOf (nonce : ℕ) (test : String × Bool → Bool) :
    (journal.workOf nonce).any test = journal.txs.rows.any fun attempt =>
      [nonce].contains attempt.nonce && test (attempt.job, attempt.kind.isEpoch) := by
  rw [Bool.eq_iff_iff, List.any_eq_true]
  simp only [workOf, List.mem_dedup, List.mem_map, attemptsOf, List.mem_filter, beq_iff_eq,
    List.any_eq_true, List.contains_cons, List.contains_nil, Bool.or_false, Bool.and_eq_true]
  constructor
  · rintro ⟨entry, ⟨attempt, ⟨member, same⟩, rfl⟩, requested⟩
    exact ⟨attempt, member, same, requested⟩
  · rintro ⟨attempt, member, same, requested⟩
    exact ⟨_, ⟨attempt, ⟨member, same⟩, rfl⟩, requested⟩

/-- The marks that are deleted with a nonce are those of the nonce. -/
theorem marksOf_singleton (nonce : ℕ) (mark : Mark) :
    ((mark.kind == .receipt && ((journal.attemptsOf nonce).map Attempt.hash).contains
        mark.reference) || (mark.kind == .nonce && mark.reference == toString nonce)) =
      journal.marksOf [nonce] mark := by
  have hashes : ((journal.attemptsOf nonce).map Attempt.hash).contains mark.reference =
      journal.txs.rows.any fun attempt =>
        [nonce].contains attempt.nonce && attempt.hash == mark.reference := by
    rw [Bool.eq_iff_iff, List.contains_iff_mem]
    simp only [List.mem_map, attemptsOf, List.mem_filter, beq_iff_eq, List.any_eq_true,
      List.contains_cons, List.contains_nil, Bool.or_false, Bool.and_eq_true]
    constructor
    · rintro ⟨attempt, ⟨member, same⟩, hash⟩
      exact ⟨attempt, member, same, hash⟩
    · rintro ⟨attempt, member, same, hash⟩
      exact ⟨attempt, ⟨member, same⟩, hash⟩
  unfold marksOf
  rw [hashes, List.any_cons, List.any_nil, Bool.or_false]

/-- One attempt when a nonce is reopened. -/
theorem parkedRow_reopenedRow (nonce now : ℕ) (attempt : Attempt) :
    ParkedRow [nonce] attempt (reopenedRow nonce now attempt) := by
  unfold reopenedRow
  split
  case isTrue same =>
    exact ⟨rfl, fun other => absurd (List.mem_singleton.mpr same) other, fun _ => .inl rfl⟩
  case isFalse other =>
    exact ⟨rfl, fun _ => .inr rfl, fun own => absurd (List.mem_singleton.mp own) other⟩

/-- A nonce is the only one in the lane, and its old marks are gone. -/
def relane (nonce now : ℕ) : Journal :=
  ((journal.setTxState (fun attempt => attempt.state.active && attempt.nonce != nonce)
    TxState.park).deleteMarks ((journal.attemptsOf nonce).map Attempt.hash)
      nonce).restartAttempts nonce now

/-- The journal once a nonce is reopened. -/
def reopenedJournal (nonce now wallTime : ℕ) : Journal :=
  ((journal.workOf nonce).foldl reopenWork (journal.relane nonce now)).setMeta
    ("nonce_started:" ++ toString nonce) (toString wallTime)

variable {journal}

/-- Reopening a nonce, when it takes effect. -/
theorem reopenNonce_of_takesEffect (effect : journal.takesEffect nonce chainTime = true)
    (wallTime : ℕ) :
    journal.reopenNonce nonce chainTime wallTime =
      .ok (.lane, journal.reopenedJournal nonce chainTime wallTime) := by
  unfold takesEffect at effect
  rw [Bool.and_eq_true, decide_eq_true_eq, Bool.not_eq_true'] at effect
  obtain ⟨⟨nonceFits, timeFits⟩, bytes⟩ := effect
  unfold Journal.reopenNonce
  rw [tryI64_eq_ok.mpr ⟨nonceFits, rfl⟩, tryI64_eq_ok.mpr ⟨timeFits, rfl⟩]
  simp only [Bind.bind, Except.bind]
  rw [if_neg (Bool.eq_false_iff.mp bytes)]
  rfl

theorem run_reopenNonce_of_takesEffect (effect : journal.takesEffect nonce chainTime = true)
    (wallTime : ℕ) :
    (RecoveryCall.reopenNonce nonce chainTime wallTime).run journal =
      journal.reopenedJournal nonce chainTime wallTime := by
  unfold RecoveryCall.run
  dsimp only
  rw [reopenNonce_of_takesEffect effect]

/-- The attempts once a nonce is reopened. -/
theorem reopenedJournal_rows (journal : Journal) (nonce now wallTime : ℕ) :
    (journal.reopenedJournal nonce now wallTime).txs.rows =
      journal.txs.rows.map (reopenedRow nonce now) := by
  obtain ⟨_, _, same, -⟩ := foldl_reopenWork_eq (journal.workOf nonce) (journal.relane nonce now)
  unfold reopenedJournal
  rw [same]
  exact restartAttempts_rows journal nonce now

/-- Reopening a nonce parks the others and touches what belongs to the nonce. -/
theorem parks_reopenedJournal (journal : Journal) (nonce now wallTime : ℕ) :
    Parks journal (journal.reopenedJournal nonce now wallTime) [nonce] := by
  obtain ⟨jobs, work⟩ := foldl_reopenWork_rows (journal.workOf nonce) (journal.relane nonce now)
  obtain ⟨_, _, same, -⟩ := foldl_reopenWork_eq (journal.workOf nonce) (journal.relane nonce now)
  have requests : (fun id => (journal.workOf nonce).any fun entry =>
      (journal.relane nonce now).entryRequests entry id) = journal.requestsOf [nonce] :=
    funext fun _ => journal.any_workOf nonce _
  have epochs : (fun key => (journal.workOf nonce).any fun entry => entry.2 && key == entry.1) =
      journal.epochsOf [nonce] := funext fun _ => journal.any_workOf nonce _
  exact
    { attempts := by
        rw [reopenedJournal_rows]
        exact forall₂_map fun attempt _ => parkedRow_reopenedRow nonce now attempt
      jobs := by
        rw [requests] at jobs
        exact jobs
      work := by
        exact work.trans (congrArg (fun named => journal.epochWork.rows.map (submitEpoch named))
          epochs)
      marks := by
        unfold reopenedJournal
        rw [same]
        refine List.filter_congr fun mark _ => ?_
        exact congrArg not (journal.marksOf_singleton nonce mark)
      texts := by
        intro key other
        unfold reopenedJournal
        rw [same]
        exact if_neg (other nonce (List.mem_singleton.mpr rfl))
      rest := by
        unfold reopenedJournal
        rw [same]
        rfl }

/-- A call that does not take effect changes nothing. -/
theorem run_reopenNonce_of_not_takesEffect (effect : journal.takesEffect nonce chainTime = false)
    (wallTime : ℕ) : (RecoveryCall.reopenNonce nonce chainTime wallTime).run journal = journal := by
  unfold RecoveryCall.run
  dsimp only
  cases reopened : journal.reopenNonce nonce chainTime wallTime with
  | error => rfl
  | ok pair =>
    obtain ⟨outcome, after⟩ := pair
    rcases reopenNonce_ok reopened with ⟨-, same, -⟩ | ⟨-, reopens⟩
    · exact same
    · unfold Journal.reopenNonce at reopened
      obtain ⟨_, nonceFits, reopened⟩ := bind_eq_ok.mp reopened
      obtain ⟨_, timeFits, -⟩ := bind_eq_ok.mp reopened
      have present : journal.takesEffect nonce chainTime = true := by
        unfold takesEffect
        rw [reopens.bytes, Bool.not_false, Bool.and_true, decide_eq_true_eq]
        exact ⟨(tryI64_eq_ok.mp nonceFits).1, (tryI64_eq_ok.mp timeFits).1⟩
      rw [effect] at present
      exact nomatch present

/-- What one call leaves. -/
theorem RecoveryCall.parks_run (journal : Journal) (call : RecoveryCall) :
    Parks journal (call.run journal) (call.reopened journal) := by
  cases call with
  | beginFill fill => exact parks_beginFill journal fill
  | reopenNonce nonce chainTime wallTime =>
    cases effect : journal.takesEffect nonce chainTime with
    | true =>
      have reopened : (RecoveryCall.reopenNonce nonce chainTime wallTime).reopened journal =
          [nonce] := if_pos effect
      rw [run_reopenNonce_of_takesEffect effect, reopened]
      exact parks_reopenedJournal journal nonce chainTime wallTime
    | false =>
      have reopened : (RecoveryCall.reopenNonce nonce chainTime wallTime).reopened journal = [] :=
        if_neg (Bool.eq_false_iff.mp effect)
      rw [run_reopenNonce_of_not_takesEffect effect, reopened]
      exact Parks.refl journal

/-! ### A sequence of calls -/

/-- Rows beside rows beside rows. -/
theorem forall₂_comp {Row : Type} {first second both : Row → Row → Prop}
    {before middle after : List Row} (firstRows : List.Forall₂ first before middle)
    (secondRows : List.Forall₂ second middle after)
    (comp : ∀ {old between new : Row}, first old between → second between new → both old new) :
    List.Forall₂ both before after := by
  induction firstRows generalizing after with
  | nil =>
    cases secondRows
    exact .nil
  | cons head _ inductionHypothesis =>
    cases secondRows with
    | cons next tail => exact .cons (comp head next) (inductionHypothesis tail)

theorem parkedRow_parkedRow (attempt : Attempt) :
    parkedRow (parkedRow attempt) = parkedRow attempt := by
  unfold parkedRow
  cases attempt.state <;> rfl

theorem ParkedRow.trans {first second : List ℕ} {before middle after : Attempt}
    (once : ParkedRow first before middle) (again : ParkedRow second middle after) :
    ParkedRow (first ++ second) before after := by
  have nonce : middle.nonce = before.nonce := by rw [once.same]
  refine ⟨?_, fun others => ?_, fun own => ?_⟩
  · rw [again.same, once.same]
  · rw [List.mem_append, not_or] at others
    rcases again.others (nonce ▸ others.2) with rfl | rfl
    · exact once.others others.1
    · rcases once.others others.1 with rfl | rfl
      · exact .inr rfl
      · exact .inr (parkedRow_parkedRow before)
  · by_cases later : before.nonce ∈ second
    · exact again.own (nonce ▸ later)
    · have earlier := once.own ((List.mem_append.mp own).resolve_right later)
      rcases again.others (nonce ▸ later) with rfl | rfl
      · exact earlier
      · unfold parkedRow
        rcases earlier with state | state <;> rw [state] <;> exact .inr rfl

/-- What is said of an attempt without its state and its times is said of it before and after. -/
theorem Parks.any_eq (parks : Parks journal after reopened) {holds : Attempt → Bool}
    (blind : ∀ attempt state created broadcast, holds { attempt with
      state := state, created := created, broadcast := broadcast } = holds attempt) :
    after.txs.rows.any holds = journal.txs.rows.any holds := by
  have rows := parks.attempts
  revert rows
  generalize journal.txs.rows = before
  generalize after.txs.rows = later
  intro rows
  induction rows with
  | nil => rfl
  | cons head _ inductionHypothesis =>
    rw [List.any_cons, List.any_cons, inductionHypothesis, head.same, blind]

theorem Parks.requestsOf_eq (parks : Parks journal after reopened) (nonces : List ℕ) :
    after.requestsOf nonces = journal.requestsOf nonces := by
  funext id
  have members : after.servesRequest = journal.servesRequest := by
    rw [parks.rest]
    rfl
  unfold requestsOf
  rw [members]
  exact parks.any_eq fun _ _ _ _ => rfl

theorem Parks.epochsOf_eq (parks : Parks journal after reopened) (nonces : List ℕ) :
    after.epochsOf nonces = journal.epochsOf nonces := by
  funext key
  exact parks.any_eq fun _ _ _ _ => rfl

theorem Parks.marksOf_eq (parks : Parks journal after reopened) (nonces : List ℕ) :
    after.marksOf nonces = journal.marksOf nonces := by
  funext mark
  unfold marksOf
  congr 2
  exact parks.any_eq fun _ _ _ _ => rfl

/-- What belongs to the nonces of two lists belongs to those of one or of the other. -/
theorem any_append_nonces (rows : List Attempt) (first second : List ℕ) (holds : Attempt → Bool) :
    (rows.any fun attempt => (first ++ second).contains attempt.nonce && holds attempt) =
      ((rows.any fun attempt => first.contains attempt.nonce && holds attempt) ||
        rows.any fun attempt => second.contains attempt.nonce && holds attempt) := by
  induction rows with
  | nil => rfl
  | cons attempt rest inductionHypothesis =>
    rw [List.any_cons, List.any_cons, List.any_cons, inductionHypothesis, List.contains_append,
      Bool.and_or_distrib_right]
    simp only [Bool.or_assoc, Bool.or_left_comm]

theorem marksOf_append (journal : Journal) (first second : List ℕ) (mark : Mark) :
    journal.marksOf (first ++ second) mark =
      (journal.marksOf first mark || journal.marksOf second mark) := by
  unfold marksOf
  rw [any_append_nonces, List.any_append]
  simp only [Bool.and_or_distrib_left, Bool.or_assoc, Bool.or_left_comm]

/-- Two sequences of calls, one after the other. -/
theorem Parks.trans {middle : Journal} {first second : List ℕ} (once : Parks journal middle first)
    (again : Parks middle after second) :
    Parks journal after (first ++ second) where
  attempts := forall₂_comp once.attempts again.attempts ParkedRow.trans
  jobs := by
    have requests : journal.requestsOf (first ++ second) =
        fun id => journal.requestsOf first id || journal.requestsOf second id :=
      funext fun _ => any_append_nonces _ _ _ _
    rw [again.jobs, once.jobs, List.map_map, submitJob_comp, once.requestsOf_eq, requests]
  work := by
    have epochs : journal.epochsOf (first ++ second) =
        fun key => journal.epochsOf first key || journal.epochsOf second key :=
      funext fun _ => any_append_nonces _ _ _ _
    rw [again.work, once.work, List.map_map, submitEpoch_comp, once.epochsOf_eq, epochs]
  marks := by
    rw [again.marks, once.marks, List.filter_filter, once.marksOf_eq]
    refine List.filter_congr fun mark _ => ?_
    rw [marksOf_append, Bool.not_or, Bool.and_comm]
  texts := by
    intro key other
    rw [again.texts key fun nonce member => other nonce (List.mem_append_right _ member),
      once.texts key fun nonce member => other nonce (List.mem_append_left _ member)]
  rest := by
    rw [again.rest, once.rest]

/-- What a sequence of calls leaves. -/
theorem parks_runRecovery (calls : List RecoveryCall) (journal : Journal) :
    Parks journal (journal.runRecovery calls) (journal.reopenedBy calls) := by
  induction calls generalizing journal with
  | nil => exact Parks.refl journal
  | cons call rest inductionHypothesis =>
    exact (call.parks_run journal).trans (inductionHypothesis (call.run journal))

/-! ### Parked once -/

/-- What a call does to an attempt. -/
def RecoveryCall.change (journal : Journal) : RecoveryCall → Attempt → Attempt
  | .reopenNonce nonce chainTime _ =>
    if journal.takesEffect nonce chainTime then reopenedRow nonce chainTime else id
  | .beginFill _ => parkedRow

/-- The attempts after a call. -/
theorem RecoveryCall.run_rows (journal : Journal) (call : RecoveryCall) :
    (call.run journal).txs.rows = journal.txs.rows.map (call.change journal) := by
  cases call with
  | beginFill => exact (setTxState_rows parkedRow_eq).trans (List.append_nil _)
  | reopenNonce nonce chainTime wallTime =>
    cases effect : journal.takesEffect nonce chainTime with
    | true =>
      have change : (RecoveryCall.reopenNonce nonce chainTime wallTime).change journal =
          reopenedRow nonce chainTime := if_pos effect
      rw [run_reopenNonce_of_takesEffect effect, change]
      exact reopenedJournal_rows journal nonce chainTime wallTime
    | false =>
      have change : (RecoveryCall.reopenNonce nonce chainTime wallTime).change journal = id :=
        if_neg (Bool.eq_false_iff.mp effect)
      rw [run_reopenNonce_of_not_takesEffect effect, change, List.map_id]

/-- A call parks an attempt that is live, and does nothing to another of a nonce that it does not
reopen. -/
theorem RecoveryCall.change_eq {call : RecoveryCall} {attempt : Attempt}
    (other : attempt.nonce ∉ call.reopened journal) :
    call.change journal attempt =
        (if call.parks journal attempt then parkedRow attempt else attempt) ∧
      (call.parks journal attempt = true → attempt.state.active = true) := by
  cases call with
  | beginFill =>
    exact ⟨(parkedRow_eq attempt).symm, id⟩
  | reopenNonce nonce chainTime wallTime =>
    have parks : (RecoveryCall.reopenNonce nonce chainTime wallTime).parks journal attempt =
        (journal.takesEffect nonce chainTime &&
          (attempt.state.active && attempt.nonce != nonce)) := rfl
    unfold RecoveryCall.reopened at other
    unfold RecoveryCall.change
    dsimp only at other ⊢
    by_cases effect : journal.takesEffect nonce chainTime = true
    · rw [if_pos effect, List.mem_singleton] at other
      rw [effect, Bool.true_and, bne_iff_ne.mpr other, Bool.and_true] at parks
      rw [parks, if_pos effect]
      refine ⟨?_, id⟩
      unfold reopenedRow
      rw [if_neg other]
      exact (parkedRow_eq attempt).symm
    · rw [Bool.eq_false_iff.mpr effect, Bool.false_and] at parks
      rw [parks, if_neg effect]
      exact ⟨rfl, nofun⟩

/-- An attempt whose nonce is not reopened is parked at most once, and only if it was live. -/
theorem timesParked_le (calls : List RecoveryCall) (journal : Journal) (attempt : Attempt)
    (member : attempt ∈ journal.txs.rows) (other : attempt.nonce ∉ journal.reopenedBy calls) :
    journal.timesParked attempt.hash calls ≤ if attempt.state.active then 1 else 0 := by
  induction calls generalizing journal attempt with
  | nil => exact Nat.zero_le _
  | cons call rest inductionHypothesis =>
    rw [reopenedBy, List.mem_append, not_or] at other
    obtain ⟨change, active⟩ := call.change_eq other.1
    have found : (journal.txs.rows.any fun row =>
        row.hash == attempt.hash && call.parks journal row) = call.parks journal attempt := by
      rw [Bool.eq_iff_iff, List.any_eq_true]
      constructor
      · rintro ⟨row, rowMem, both⟩
        rw [Bool.and_eq_true, beq_iff_eq] at both
        exact journal.txs.eq_of_key_eq rowMem member both.1 ▸ both.2
      · intro parks
        exact ⟨attempt, member, by rw [beq_self_eq_true, parks]; rfl⟩
    have nextMem : call.change journal attempt ∈ (call.run journal).txs.rows := by
      rw [call.run_rows]
      exact List.mem_map_of_mem member
    have later := inductionHypothesis (call.run journal) (call.change journal attempt) nextMem
    rw [change] at later
    rw [timesParked, found]
    cases parks : call.parks journal attempt with
    | false =>
      rw [parks, if_neg Bool.false_ne_true] at later
      rw [if_neg Bool.false_ne_true, Nat.zero_add]
      exact later other.2
    | true =>
      rw [parks, if_pos rfl] at later
      have idle : (parkedRow attempt).state.active = false := by
        unfold parkedRow
        cases attempt.state <;> rfl
      have none : (call.run journal).timesParked attempt.hash rest ≤ 0 := by
        have bound := later other.2
        rw [idle] at bound
        exact bound
      rw [if_pos rfl, if_pos (active parks)]
      exact Nat.add_le_add_left none 1

/-! ### The end of a recovery -/

/-- One attempt beside what a recovery leaves of it: if its nonce was not reopened, it is as it was,
and a parked one is in the state it was parked in; if it was, it is submitted again. -/
structure Restored (reopened : List ℕ) (before after : Attempt) : Prop where
  unparked : before.nonce ∉ reopened → before.state.parked = false → after = before
  parked : before.nonce ∉ reopened → before.state.parked = true →
    after = { before with state := before.state.unpark }
  reopened : before.nonce ∈ reopened → after = { before with
    state := .submitted, created := after.created, broadcast := after.broadcast }

/-- The attempts at the end of a recovery. -/
theorem Unparking.run_rows (journal : Journal) (finish : Unparking) :
    (finish.run journal).txs.rows = journal.txs.rows.map unparkedRow := by
  have rows : journal.unparkLanes.txs.rows = journal.txs.rows.map unparkedRow :=
    (setTxState_rows unparkedRow_eq).trans (List.append_nil _)
  cases finish with
  | unparkLanes => exact rows
  | clearFinalityIncident summary =>
    obtain ⟨_, _, _, same⟩ := journal.clearFinalityIncident_eq summary
    unfold Unparking.run
    dsimp only
    rw [same]
    exact rows

/-- Returning an attempt undoes every parking. -/
theorem ParkedRow.restored {before after : Attempt} (parked : ParkedRow reopened before after) :
    Restored reopened before (unparkedRow after) := by
  have undone : unparkedRow (parkedRow before) = unparkedRow before := by
    unfold unparkedRow parkedRow
    cases before.state <;> rfl
  have others : before.nonce ∉ reopened → unparkedRow after = unparkedRow before := by
    intro other
    rcases parked.others other with rfl | rfl
    · rfl
    · exact undone
  refine ⟨fun other idle => ?_, fun other waiting => others other, fun own => ?_⟩
  · rw [others other]
    exact (unparkedRow_eq before).symm.trans (if_neg (Bool.eq_false_iff.mp idle))
  · have submitted : after.state.unpark = .submitted := by
      rcases parked.own own with state | state <;> rw [state] <;> rfl
    unfold unparkedRow
    rw [submitted, parked.same]

/-- For every journal, every sequence of calls that reopen nonces and start fills, and either end of
the recovery: an attempt whose nonce is not reopened has at the end exactly the state it had before
it was first parked, and is parked at most once meanwhile; no attempt is left parked; beside the
parking and their own keys the calls change only the attempts, the marks and the requests and epochs
of the nonces they reopen, and the end changes no mark, no request, no epoch and no member list. -/
theorem parking_reversible_and_local (journal : Journal) (calls : List RecoveryCall)
    (finish : Unparking) :
    Parks journal (journal.runRecovery calls) (journal.reopenedBy calls) ∧
    List.Forall₂ (Restored (journal.reopenedBy calls)) journal.txs.rows
      (finish.run (journal.runRecovery calls)).txs.rows ∧
    (∀ attempt ∈ journal.txs.rows, attempt.nonce ∉ journal.reopenedBy calls →
      journal.timesParked attempt.hash calls ≤ 1) ∧
    (∀ attempt ∈ (finish.run (journal.runRecovery calls)).txs.rows,
      attempt.state.parked = false) ∧
    (let recovered := journal.runRecovery calls
    (finish.run recovered).softMarks = recovered.softMarks ∧
      (finish.run recovered).jobs = recovered.jobs ∧
      (finish.run recovered).epochWork = recovered.epochWork ∧
      (finish.run recovered).batchMembers = recovered.batchMembers) := by
  have parks := parks_runRecovery calls journal
  refine ⟨parks, ?_, fun attempt member other => ?_, fun attempt member => ?_, ?_⟩
  · rw [finish.run_rows]
    exact List.forall₂_map_right_iff.mpr (parks.attempts.imp fun _ _ => ParkedRow.restored)
  · refine Nat.le_trans (timesParked_le calls journal attempt member other) ?_
    split
    · exact Nat.le_refl 1
    · exact Nat.zero_le 1
  · rw [finish.run_rows] at member
    obtain ⟨old, -, rfl⟩ := List.mem_map.mp member
    unfold unparkedRow
    cases old.state <;> rfl
  · cases finish with
    | unparkLanes => exact ⟨rfl, rfl, rfl, rfl⟩
    | clearFinalityIncident summary =>
      obtain ⟨_, _, _, same⟩ := (journal.runRecovery calls).clearFinalityIncident_eq summary
      unfold Unparking.run
      dsimp only
      rw [same]
      exact ⟨rfl, rfl, rfl, rfl⟩

end D20.Journal
