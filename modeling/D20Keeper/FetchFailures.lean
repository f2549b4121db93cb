/-
This file models how the round lane dates the failures of its fetches. Each demanded round has a row
of work; a failed fetch writes its time there, and the start of the run of failures it belongs to.
The health of the lane is observed from these two times. The rows are compared with the course of
each round, which is the list of its failures since it was last demanded: the start that is stored
is the first failure of the last run, and a fault stands when the run of a demanded round is a
stall.
-/

import Mathlib.Data.List.Chain
import D20Keeper.History
import D20Keeper.Journal

namespace D20.RoundLane

/-! ### The rows of work -/

/-- `RETRY_SECONDS`. -/
def retrySeconds : ℕ := 2

/-- `UNAVAILABLE_SECONDS`. -/
def unavailableSeconds : ℕ := 10

/-- `FETCH_TIMEOUT`, in seconds. -/
def fetchTimeoutSeconds : ℕ := 8

/-- `RUN_GAP_SECONDS`. -/
def runGapSeconds : ℕ := fetchTimeoutSeconds + retrySeconds + 5

/-- The states of a row. -/
inductive WorkState
  | pending
  | verified
  deriving DecidableEq, Repr

/-- A row of `round_work`, which its beacon and round are the key of. -/
structure Work where
  state : WorkState := .pending
  signature : Option String := none
  randomness : Option String := none
  attempts : ℤ := 0
  retryAt : ℤ := 0
  lastError : Option String := none
  failingSince : Option ℤ := none
  failedAt : Option ℤ := none
  failedRpc : Option Bool := none
  deriving DecidableEq, Repr

/-- A round of a beacon. -/
structure RoundKey where
  beacon : ℕ
  round : ℕ
  deriving DecidableEq, Repr

/-- What the lane keeps in the journal: its rows, and the two records of its health. -/
structure Board where
  work : RoundKey → Option Work
  roundUnavailable : Option String
  roundRpcError : Option String

variable (board : Board)

/-- A change of the row of a round, if it has one that is pending. -/
def Board.change (key : RoundKey) (update : Work → Work) : Board :=
  { board with
    work := Function.update board.work key ((board.work key).map fun row =>
      if row.state = .pending then update row else row) }

/-- The start of the run of failures that a failure now belongs to: a new one when there is none or
the last failure was longer ago than the gap. -/
def runStart (row : Work) (now : ℤ) : ℤ :=
  match row.failingSince with
  | none => now
  | some since => if row.failedAt.getD 0 < now - runGapSeconds then now else since

/-- `record_failure`: a failed fetch of a round. -/
def Board.recordFailure (key : RoundKey) (message : String) (chainRead : Bool) (now : ℕ) : Board :=
  board.change key fun row =>
    { row with
      retryAt := now + retrySeconds
      lastError := some message
      failingSince := some (runStart row now)
      failedAt := some (now : ℤ)
      failedRpc := some chainRead }

/-- The write of a fetch that got the round. -/
def Board.recordVerified (key : RoundKey) (signature randomness : String) : Board :=
  board.change key fun row =>
    { row with
      state := .verified
      signature := some signature
      randomness := some randomness
      retryAt := 0
      lastError := none
      failingSince := none
      failedAt := none
      failedRpc := none }

/-! ### The health of the lane -/

/-- `u64::try_from` of a stored time. -/
def stored (time : ℤ) : Except String ℕ :=
  if 0 ≤ time then .ok time.toNat else .error "out of range integral type conversion attempted"

/-- A row is a stall now: it is pending, its run of failures began long enough ago and its last
failure is recent. -/
def isStall (row : Work) (since failedAt now : ℕ) : Bool :=
  decide (row.state = .pending ∧ unavailableSeconds ≤ now - since ∧
    now ≤ failedAt + runGapSeconds)

/-- The first demanded round whose row is a stall. -/
def findStall (board : Board) (now : ℕ) :
    List RoundKey → Except String (Option (RoundKey × Work))
  | [] => .ok none
  | key :: rest =>
    match board.work key with
    | none => findStall board now rest
    | some row =>
      match row.failingSince, row.failedAt with
      | some since, some failedAt => do
        if isStall row (← stored since) (← stored failedAt) now then return some (key, row)
        else findStall board now rest
      | _, _ => findStall board now rest

/-- The value of a record of the lane's health. -/
def RoundKey.text (key : RoundKey) : String := toString key.beacon ++ ":" ++ toString key.round

/-- The fault of a stall is raised and the other one cleared; without a stall both are cleared. -/
def Board.report : Option (RoundKey × Work) → Board
  | some (key, row) =>
    if row.failedRpc = some true then
      { board with roundRpcError := some key.text, roundUnavailable := none }
    else { board with roundUnavailable := some key.text, roundRpcError := none }
  | none => { board with roundUnavailable := none, roundRpcError := none }

/-- `observe_health`: the first stall of the demand is reported. -/
def Board.observeHealth (demand : List RoundKey) (now : ℕ) : Except String Board :=
  (findStall board now demand).map board.report

/-! ### Runs of the lane -/

/-- What is written to the rows, and the observations of the health. -/
inductive Entry
  | demanded (key : RoundKey)
  | dropped (key : RoundKey)
  | attempted (key : RoundKey)
  | failed (key : RoundKey) (message : String) (chainRead : Bool) (now : ℕ)
  | verified (key : RoundKey) (signature randomness : String)
  | health (demand : List RoundKey) (now : ℕ)

/-- The board after an entry. An observation that fails writes nothing. -/
def Board.enter : Entry → Board
  | .demanded key =>
    { board with work := Function.update board.work key (some ((board.work key).getD {})) }
  | .dropped key => { board with work := Function.update board.work key none }
  | .attempted key => board.change key fun row => { row with attempts := row.attempts + 1 }
  | .failed key message chainRead now => board.recordFailure key message chainRead now
  | .verified key signature randomness => board.recordVerified key signature randomness
  | .health demand now => (board.observeHealth demand now).toOption.getD board

/-- The board of a new journal. -/
def Board.empty : Board := ⟨fun _ => none, none, none⟩

variable (entries : List Entry)

/-- The board after a sequence of entries. -/
def boardAfter : Board := History.after Board.enter Board.empty entries

/-! ### The course of a round -/

/-- A failed fetch: when, and whether a read of the chain failed. -/
structure Failure where
  time : ℕ
  chainRead : Bool
  deriving DecidableEq, Repr

/-- What has become of a round: it is not demanded, it is pending with the failures since it was, or
it is verified. -/
inductive Course
  | absent
  | pending (failures : List Failure)
  | verified
  deriving DecidableEq, Repr

/-- A course that goes on if it is pending. -/
def Course.whilePending (course : Course) (next : List Failure → Course) : Course :=
  match course with
  | .pending failures => next failures
  | .absent => .absent
  | .verified => .verified

theorem Course.whilePending_of_idle {course : Course}
    (idle : ∀ failures, course ≠ .pending failures) (next : List Failure → Course) :
    course.whilePending next = course := by
  cases course with
  | pending failures => exact absurd rfl (idle failures)
  | absent => rfl
  | verified => rfl

/-- What an entry does to the course of a round. -/
def Course.enter (key : RoundKey) (course : Course) : Entry → Course
  | .demanded other => if other = key ∧ course = .absent then .pending [] else course
  | .dropped other => if other = key then .absent else course
  | .failed other _ chainRead now =>
    if other = key then
      course.whilePending fun failures => .pending (failures ++ [⟨now, chainRead⟩])
    else course
  | .verified other _ _ => if other = key then course.whilePending fun _ => .verified else course
  | .attempted _ => course
  | .health _ _ => course

/-- The course of a round after a sequence of entries. -/
def courseAfter (key : RoundKey) : Course :=
  History.after (Course.enter key) .absent entries

/-- The failures end with a run from the first to the last of these two: in it, consecutive failures
are at most the gap apart, and the failure before it, if there is one, is further away. -/
def LastRun (failures : List Failure) (first last : Failure) : Prop :=
  ∃ before run, failures = before ++ run ∧ run.head? = some first ∧ run.getLast? = some last ∧
    run.IsChain (fun earlier later => later.time ≤ earlier.time + runGapSeconds) ∧
    ∀ previous, before.getLast? = some previous → previous.time + runGapSeconds < first.time

theorem LastRun.start {failures : List Failure} {failure : Failure}
    (away : ∀ previous, failures.getLast? = some previous →
      previous.time + runGapSeconds < failure.time) :
    LastRun (failures ++ [failure]) failure failure :=
  ⟨failures, [failure], rfl, rfl, rfl, List.isChain_singleton _, away⟩

variable {failures : List Failure} {first last : Failure}

theorem LastRun.append {failure : Failure} (run : LastRun failures first last)
    (soon : failure.time ≤ last.time + runGapSeconds) :
    LastRun (failures ++ [failure]) first failure := by
  obtain ⟨before, run, rfl, begins, ends, chain, away⟩ := run
  refine ⟨before, run ++ [failure], List.append_assoc .., ?_, List.getLast?_concat, ?_, away⟩
  · rw [List.head?_append, begins]
    rfl
  · refine List.isChain_append.mpr ⟨chain, List.isChain_singleton _, fun earlier isLast later new => ?_⟩
    obtain rfl := Option.some.inj (ends.symm.trans isLast)
    obtain rfl := Option.some.inj new
    exact soon

theorem LastRun.getLast? (run : LastRun failures first last) : failures.getLast? = some last := by
  obtain ⟨before, run, rfl, -, ends, -, -⟩ := run
  rw [List.getLast?_append, ends]
  rfl

/-- A run that reaches further back than a maximal one is the same. -/
theorem head_eq_of_isChain {extra run : List Failure} {before : List Failure}
    (begins : run.head? = some first)
    (away : ∀ previous, (before ++ extra).getLast? = some previous →
      previous.time + runGapSeconds < first.time)
    (chain : (extra ++ run).IsChain fun earlier later =>
      later.time ≤ earlier.time + runGapSeconds) : (extra ++ run).head? = some first := by
  rcases List.eq_nil_or_concat extra with rfl | ⟨front, previous, rfl⟩
  · exact begins
  · rw [List.concat_eq_append] at away chain
    have near := (List.isChain_append.mp chain).2.2 previous List.getLast?_concat first begins
    have far := away previous (by rw [← List.append_assoc, List.getLast?_concat])
    omega

/-- There is one last run. -/
theorem LastRun.unique {otherFirst otherLast : Failure} (run : LastRun failures first last)
    (other : LastRun failures otherFirst otherLast) : first = otherFirst ∧ last = otherLast := by
  refine ⟨?_, Option.some.inj (run.getLast?.symm.trans other.getLast?)⟩
  obtain ⟨before, run, rfl, begins, -, chain, away⟩ := run
  obtain ⟨otherBefore, otherRun, split, otherBegins, -, otherChain, otherAway⟩ := other
  rcases List.append_eq_append_iff.mp split with ⟨extra, rfl, rfl⟩ | ⟨extra, rfl, rfl⟩
  · exact Option.some.inj (begins.symm.trans (head_eq_of_isChain otherBegins otherAway chain))
  · exact Option.some.inj ((head_eq_of_isChain begins away otherChain).symm.trans otherBegins)

/-- The times of a row are those of the failures of its round. -/
def Dated (failures : List Failure) (row : Work) : Prop :=
  (failures = [] ∧ row.failingSince = none ∧ row.failedAt = none) ∨
    ∃ first last, LastRun failures first last ∧ row.failingSince = some (first.time : ℤ) ∧
      row.failedAt = some (last.time : ℤ) ∧ row.failedRpc = some last.chainRead

/-- A row is where its course says. -/
def Follows (course : Course) : Option Work → Prop
  | none => course = .absent
  | some row =>
    (row.state = .verified ∧ row.failingSince = none ∧ course = .verified) ∨
      (row.state = .pending ∧ ∃ failures, course = .pending failures ∧ Dated failures row)

/-- The start that a failure is dated with is the first failure of the run it belongs to. -/
theorem Dated.runStart {row : Work} (dated : Dated failures row) (failure : Failure) :
    ∃ first, LastRun (failures ++ [failure]) first failure ∧
      runStart row failure.time = first.time := by
  unfold RoundLane.runStart
  rcases dated with ⟨rfl, since, failedAt⟩ | ⟨first, last, run, since, failedAt, -⟩
  · rw [since]
    exact ⟨failure, .start fun _ none => (nomatch none), rfl⟩
  · rw [since, failedAt]
    dsimp only [Option.getD_some]
    split
    case isTrue longAgo =>
      refine ⟨failure, .start fun previous isLast => ?_, rfl⟩
      have same : last = previous := Option.some.inj (run.getLast?.symm.trans isLast)
      rw [← same]
      omega
    case isFalse recent => exact ⟨first, run.append (by omega), rfl⟩

/-! ### What each entry does to a row -/

section

variable {board : Board} {key : RoundKey} {course : Course}

theorem work_change_of_ne {other : RoundKey} (different : other ≠ key) (update : Work → Work) :
    (board.change other update).work key = board.work key :=
  Function.update_of_ne different.symm ..

/-- A pending row is changed, and the others follow their course as before. -/
theorem Follows.change {update : Work → Work} {next : Course}
    (follows : Follows course (board.work key))
    (idle : (∀ failures, course ≠ .pending failures) → next = course)
    (active : ∀ failures row, course = .pending failures → row.state = .pending →
      Dated failures row → Follows next (some (update row))) :
    Follows next ((board.change key update).work key) := by
  rw [show (board.change key update).work key = _ from Function.update_self ..]
  cases kept : board.work key with
  | none =>
    rw [kept] at follows
    have absent : course = .absent := follows
    exact (idle fun failures pending => nomatch absent.symm.trans pending).trans absent
  | some row =>
    rw [kept] at follows
    rcases follows with ⟨verified, cleared, same⟩ | ⟨pending, failures, same, dated⟩
    · have stays := idle fun failures pending => nomatch same.symm.trans pending
      rw [Option.map_some, if_neg (by rw [verified]; decide), stays]
      exact .inl ⟨verified, cleared, same⟩
    · rw [Option.map_some, if_pos pending]
      exact active failures row same pending dated

theorem work_report (stall : Option (RoundKey × Work)) :
    (board.report stall).work = board.work := by
  unfold Board.report
  split
  · split <;> rfl
  · rfl

theorem work_health (demand : List RoundKey) (now : ℕ) :
    (board.enter (.health demand now)).work = board.work := by
  show (((findStall board now demand).map board.report).toOption.getD board).work = board.work
  cases findStall board now demand with
  | error => rfl
  | ok stall => exact work_report stall

/-- Each entry moves the row of a round as it moves its course. -/
theorem Follows.enter (follows : Follows course (board.work key)) (entry : Entry) :
    Follows (course.enter key entry) ((board.enter entry).work key) := by
  cases entry with
  | demanded other =>
    show Follows (if other = key ∧ course = .absent then .pending [] else course)
      (Function.update board.work other (some ((board.work other).getD {})) key)
    by_cases same : other = key
    · subst same
      rw [Function.update_self]
      cases kept : board.work other with
      | none =>
        rw [kept] at follows
        rw [if_pos ⟨rfl, follows⟩]
        exact .inr ⟨rfl, [], rfl, .inl ⟨rfl, rfl, rfl⟩⟩
      | some =>
        rw [kept] at follows
        have present : course ≠ .absent := by
          rintro rfl
          rcases follows with ⟨-, -, wrong⟩ | ⟨-, failures, wrong, -⟩ <;> exact nomatch wrong
        rw [if_neg fun both => present both.2]
        exact follows
    · rw [Function.update_of_ne (Ne.symm same), if_neg fun both => same both.1]
      exact follows
  | dropped other =>
    show Follows (if other = key then .absent else course)
      (Function.update board.work other none key)
    by_cases same : other = key
    · subst same
      rw [Function.update_self, if_pos rfl]
      rfl
    · rw [Function.update_of_ne (Ne.symm same), if_neg same]
      exact follows
  | attempted other =>
    show Follows course ((board.change other _).work key)
    by_cases same : other = key
    · subst same
      exact follows.change (fun _ => rfl) fun failures row same pending dated =>
        .inr ⟨pending, failures, same, dated⟩
    · rw [work_change_of_ne same]
      exact follows
  | failed other message chainRead now =>
    show Follows (if other = key then _ else course) ((board.change other _).work key)
    by_cases same : other = key
    · subst same
      rw [if_pos rfl]
      refine follows.change (fun idle => Course.whilePending_of_idle idle _)
        fun failures row same pending dated => ?_
      obtain ⟨first, run, start⟩ := dated.runStart ⟨now, chainRead⟩
      subst same
      exact .inr ⟨pending, _, rfl, .inr ⟨first, _, run, congrArg some start, rfl, rfl⟩⟩
    · rw [work_change_of_ne same, if_neg same]
      exact follows
  | verified other =>
    show Follows (if other = key then _ else course) ((board.change other _).work key)
    by_cases same : other = key
    · subst same
      rw [if_pos rfl]
      refine follows.change (fun idle => Course.whilePending_of_idle idle _)
        fun failures row same pending dated => ?_
      subst same
      exact .inl ⟨rfl, rfl, rfl⟩
    · rw [work_change_of_ne same, if_neg same]
      exact follows
  | health =>
    rw [work_health]
    exact follows

end

/-- The row of every round follows its course in every run. -/
theorem follows_boardAfter (key : RoundKey) :
    Follows (courseAfter entries key) ((boardAfter entries).work key) := by
  induction entries using List.reverseRecOn with
  | nil => rfl
  | append_singleton entries entry inductionHypothesis =>
    have board : boardAfter (entries ++ [entry]) = (boardAfter entries).enter entry :=
      History.after_append_singleton ..
    have course : courseAfter (entries ++ [entry]) key = (courseAfter entries key).enter key entry :=
      History.after_append_singleton ..
    rw [board, course]
    exact inductionHypothesis.enter entry

/-! ### What an observation finds -/

/-- The round of a course is a stall of a kind now: the last run of its failures began at least ten
seconds ago, and the last failure is at most fifteen seconds old and of this kind. -/
def Course.Stall (course : Course) (now : ℕ) (chainRead : Bool) : Prop :=
  ∃ failures first last, course = .pending failures ∧ LastRun failures first last ∧
    first.time + unavailableSeconds ≤ now ∧ now ≤ last.time + runGapSeconds ∧
    last.chainRead = chainRead

section

variable {board : Board} {courses : RoundKey → Course}

theorem stored_natCast (time : ℕ) : stored (time : ℤ) = .ok time := if_pos (Int.natCast_nonneg time)

/-- The row of a stall is found. -/
theorem findStall_of_stall {key : RoundKey} {rest : List RoundKey} {now : ℕ} {chainRead : Bool}
    (follows : Follows (courses key) (board.work key))
    (stall : (courses key).Stall now chainRead) :
    ∃ row, findStall board now (key :: rest) = .ok (some (key, row)) ∧
      row.failedRpc = some chainRead := by
  obtain ⟨failures, first, last, course, run, began, recent, kind⟩ := stall
  rw [course] at follows
  cases kept : board.work key with
  | none =>
    rw [kept] at follows
    exact nomatch follows
  | some row =>
    rw [kept] at follows
    rcases follows with ⟨-, -, wrong⟩ | ⟨pending, same, equal, dated⟩
    · exact nomatch wrong
    obtain rfl := Course.pending.inj equal
    rcases dated with ⟨rfl, -⟩ | ⟨start, final, stored, since, failedAt, failedRpc⟩
    · exact nomatch run.getLast?
    obtain ⟨rfl, rfl⟩ := run.unique stored
    have isStall : isStall row first.time last.time now = true :=
      decide_eq_true ⟨pending, by omega, recent⟩
    refine ⟨row, ?_, kind ▸ failedRpc⟩
    rw [findStall, kept]
    dsimp only
    rw [since, failedAt]
    dsimp only
    rw [stored_natCast, stored_natCast]
    exact if_pos isStall

/-- A row that is no stall is passed over. -/
theorem findStall_of_no_stall {key : RoundKey} {rest : List RoundKey} {now : ℕ}
    (follows : Follows (courses key) (board.work key))
    (none : ∀ chainRead, ¬ (courses key).Stall now chainRead) :
    findStall board now (key :: rest) = findStall board now rest := by
  rw [findStall]
  cases kept : board.work key with
  | none => rfl
  | some =>
    rw [kept] at follows
    dsimp only
    rcases follows with ⟨-, cleared, -⟩ | ⟨pending, failures, course, dated⟩
    · rw [cleared]
    rcases dated with ⟨-, since, -⟩ | ⟨first, last, run, since, failedAt, -⟩
    · rw [since]
    rw [since, failedAt]
    dsimp only
    rw [stored_natCast, stored_natCast]
    refine if_neg fun isStall => ?_
    obtain ⟨-, began, recent⟩ := of_decide_eq_true isStall
    have positive : 0 < unavailableSeconds := by decide
    exact none last.chainRead ⟨failures, first, last, course, run, by omega, recent, rfl⟩

/-- What the search finds: the row of a demanded round that is a stall, or that there is none. -/
theorem findStall_spec (demand : List RoundKey) (now : ℕ)
    (follows : ∀ key ∈ demand, Follows (courses key) (board.work key)) :
    (∃ key ∈ demand, ∃ row chainRead, findStall board now demand = .ok (some (key, row)) ∧
        row.failedRpc = some chainRead ∧ (courses key).Stall now chainRead) ∨
      (findStall board now demand = .ok none ∧
        ∀ key ∈ demand, ∀ chainRead, ¬ (courses key).Stall now chainRead) := by
  induction demand with
  | nil => exact .inr ⟨rfl, fun key member => absurd member List.not_mem_nil⟩
  | cons key rest inductionHypothesis =>
    have here := follows key List.mem_cons_self
    by_cases stalled : ∃ chainRead, (courses key).Stall now chainRead
    · obtain ⟨chainRead, stall⟩ := stalled
      obtain ⟨row, found, kind⟩ := @findStall_of_stall board courses key rest now chainRead here stall
      exact .inl ⟨key, List.mem_cons_self, row, chainRead, found, kind, stall⟩
    · have none : ∀ chainRead, ¬ (courses key).Stall now chainRead := fun chainRead stall =>
        stalled ⟨chainRead, stall⟩
      rw [findStall_of_no_stall here none]
      rcases inductionHypothesis fun other member => follows other (List.mem_cons_of_mem _ member) with
        ⟨other, member, row, chainRead, found⟩ | ⟨found, others⟩
      · exact .inl ⟨other, List.mem_cons_of_mem _ member, row, chainRead, found⟩
      · exact .inr ⟨found, List.forall_mem_cons.mpr ⟨none, others⟩⟩

/-- The faults after an observation: that of the kind of a stall, or none without one. -/
theorem faults_health (demand : List RoundKey) (now : ℕ)
    (follows : ∀ key ∈ demand, Follows (courses key) (board.work key)) :
    (∃ key ∈ demand, ∃ chainRead, (courses key).Stall now chainRead ∧
        (board.enter (.health demand now)).roundRpcError.isSome = chainRead ∧
        (board.enter (.health demand now)).roundUnavailable.isSome = !chainRead) ∨
      ((board.enter (.health demand now)).roundRpcError = none ∧
        (board.enter (.health demand now)).roundUnavailable = none ∧
        ∀ key ∈ demand, ∀ chainRead, ¬ (courses key).Stall now chainRead) := by
  have entered : ∀ stall, findStall board now demand = .ok stall →
      board.enter (.health demand now) = board.report stall := by
    intro stall found
    show (((findStall board now demand).map board.report).toOption.getD board) = _
    rw [found]
    rfl
  rcases findStall_spec demand now follows with
    ⟨key, member, row, chainRead, found, kind, stall⟩ | ⟨found, none⟩
  · refine .inl ⟨key, member, chainRead, stall, ?_⟩
    rw [entered _ found]
    unfold Board.report
    dsimp only
    rw [kind]
    cases chainRead <;> exact ⟨rfl, rfl⟩
  · rw [entered _ found]
    exact .inr ⟨rfl, rfl, none⟩

/-- At most one of the two faults stands. -/
def Board.OneFault (board : Board) : Prop :=
  board.roundUnavailable = none ∨ board.roundRpcError = none

/-- Every entry keeps at most one fault standing. -/
theorem Board.OneFault.enter (one : board.OneFault) (entry : Entry) :
    (board.enter entry).OneFault := by
  cases entry with
  | health demand now =>
    show Board.OneFault (((findStall board now demand).map board.report).toOption.getD board)
    cases findStall board now demand with
    | error => exact one
    | ok stall =>
      show (board.report stall).OneFault
      unfold Board.report
      split
      · split
        · exact .inl rfl
        · exact .inr rfl
      · exact .inl rfl
  | demanded => exact one
  | dropped => exact one
  | attempted => exact one
  | failed => exact one
  | verified => exact one

end

/-! ### The dating of failures in every run -/

/-- The dating of the failures of round fetches, in every run. The start that is stored for a
pending round is the time of the first failure of the last run of its failures, and there is one
such run. After an observation of the health a fault stands exactly when some demanded round is a
stall, and it is of the kind of a demanded stall's last failure. At most one of the two faults
stands in every state. -/
theorem failures_are_dated (entries : List Entry) :
    (∀ key failures, courseAfter entries key = .pending failures →
      ∃ row, (boardAfter entries).work key = some row ∧ row.state = .pending ∧
        ∀ first last, LastRun failures first last →
          row.failingSince = some (first.time : ℤ) ∧ row.failedAt = some (last.time : ℤ)) ∧
    (∀ key failures, courseAfter entries key = .pending failures → failures ≠ [] →
      ∃ first last, LastRun failures first last) ∧
    (∀ demand now,
      let after := boardAfter (entries ++ [.health demand now])
      let stall := fun chainRead => ∃ key ∈ demand, (courseAfter entries key).Stall now chainRead
      (after.roundRpcError.isSome ∨ after.roundUnavailable.isSome ↔ stall true ∨ stall false) ∧
        (after.roundRpcError.isSome → stall true) ∧
        (after.roundUnavailable.isSome → stall false)) ∧
    ¬ ((boardAfter entries).roundUnavailable.isSome ∧ (boardAfter entries).roundRpcError.isSome) := by
  have follows := follows_boardAfter entries
  have pending : ∀ key failures, courseAfter entries key = .pending failures →
      ∃ row, (boardAfter entries).work key = some row ∧ row.state = .pending ∧
        Dated failures row := by
    intro key failures course
    have row := follows key
    rw [course] at row
    cases kept : (boardAfter entries).work key with
    | none =>
      rw [kept] at row
      exact nomatch row
    | some work =>
      rw [kept] at row
      rcases row with ⟨-, -, wrong⟩ | ⟨pending, same, equal, dated⟩
      · exact nomatch wrong
      · exact ⟨work, rfl, pending, Course.pending.inj equal ▸ dated⟩
  refine ⟨fun key failures course => ?_, fun key failures course some => ?_,
    fun demand now => ?_, ?_⟩
  · obtain ⟨row, kept, isPending, dated⟩ := pending key failures course
    refine ⟨row, kept, isPending, fun first last run => ?_⟩
    rcases dated with ⟨rfl, -⟩ | ⟨start, final, other, since, failedAt, -⟩
    · exact nomatch run.getLast?
    · obtain ⟨rfl, rfl⟩ := run.unique other
      exact ⟨since, failedAt⟩
  · obtain ⟨row, -, -, none | ⟨first, last, run, -⟩⟩ := pending key failures course
    · exact absurd none.1 some
    · exact ⟨first, last, run⟩
  · have board : boardAfter (entries ++ [.health demand now]) =
        (boardAfter entries).enter (.health demand now) := History.after_append_singleton ..
    dsimp only
    rw [board]
    rcases faults_health demand now fun key _ => follows key with
      ⟨key, member, chainRead, stall, rpcError, unavailable⟩ | ⟨rpcError, unavailable, none⟩
    · rw [rpcError, unavailable]
      cases chainRead with
      | true => exact ⟨⟨fun _ => .inl ⟨key, member, stall⟩, fun _ => .inl rfl⟩,
          fun _ => ⟨key, member, stall⟩, nofun⟩
      | false => exact ⟨⟨fun _ => .inr ⟨key, member, stall⟩, fun _ => .inr rfl⟩,
          nofun, fun _ => ⟨key, member, stall⟩⟩
    · rw [rpcError, unavailable]
      refine ⟨⟨by simp, ?_⟩, nofun, nofun⟩
      rintro (⟨key, member, stall⟩ | ⟨key, member, stall⟩) <;> exact absurd stall (none key member _)
  · have one : (boardAfter entries).OneFault :=
      @History.relates _ _ Board.enter Board.empty (fun _ => True) (fun _ board => board.OneFault)
        (fun _ _ _ => trivial) (.inl rfl) (fun _ entry _ _ one => one.enter entry) entries trivial
    rintro ⟨unavailable, rpcError⟩
    rcases one with none | none
    · rw [none] at unavailable
      exact Bool.false_ne_true unavailable
    · rw [none] at rpcError
      exact Bool.false_ne_true rpcError

/-- A round that failed at 100, and at 130 and 140 in a run of its own. -/
def twoRuns : List Entry :=
  [.demanded ⟨0, 5⟩, .failed ⟨0, 5⟩ "No drand relay served round 5" false 100,
    .failed ⟨0, 5⟩ "No drand relay served round 5" false 130,
    .failed ⟨0, 5⟩ "No drand relay served round 5" false 140]

theorem failures_are_dated_two_runs :
    (boardAfter (twoRuns ++ [.health [⟨0, 5⟩] 141])).roundUnavailable = some "0:5" ∧
      ∃ key ∈ [(⟨0, 5⟩ : RoundKey)], (courseAfter twoRuns key).Stall 141 false := by
  have raised : (boardAfter (twoRuns ++ [.health [⟨0, 5⟩] 141])).roundUnavailable = some "0:5" := by
    decide
  exact ⟨raised, ((failures_are_dated twoRuns).2.2.1 [⟨0, 5⟩] 141).2.2 (by rw [raised]; rfl)⟩

end D20.RoundLane
