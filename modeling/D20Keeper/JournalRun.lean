/-
This file runs the journal. A call that fails leaves the journal as it was. A history is a journal
together with what its run did before: the nonces that were reopened and not resolved since, and
every nonce that was ever resolved. The calls come as the keeper makes them, and then every call is
a move of the abstract nonce lane or leaves it alone, so that what holds of the lane holds of the
journal in every state of every run.
-/

import D20Keeper.JournalCalls
import D20Keeper.NonceLane

namespace D20.Journal

/-! ### Histories -/

/-- A journal with what its run did before. -/
structure History where
  journal : Journal
  reopened : List ℕ
  resolved : List ℕ

/-- The start of a run. -/
def History.start : History := ⟨fresh, [], []⟩

/-- The nonces that are reopened and not resolved since, after a call that committed. -/
def Call.reopens (journal : Journal) (reopened : List ℕ) : Call → List ℕ
  | .reopenNonce nonce _ _ =>
    if bytesGone (journal.attemptsOf nonce) then reopened else nonce :: reopened
  | .resolveNonce nonce | .resolveNonceJob nonce _ _ _ | .resolveNonceEpoch nonce _ _ _
  | .resolveNonceBatch nonce _ _ _ => reopened.filter (· ≠ nonce)
  | _ => reopened

variable {journal : Journal} {nonce floor : ℕ}

/-- The nonces that were ever resolved, after a call that committed. -/
def Call.resolves (resolved : List ℕ) : Call → List ℕ
  | .resolveNonce nonce | .resolveNonceJob nonce _ _ _ | .resolveNonceEpoch nonce _ _ _
  | .resolveNonceBatch nonce _ _ _ | .sweepFinish nonce _ _ => nonce :: resolved
  | _ => resolved

/-- The history after a call. -/
def History.after (digest : String → String) (history : History) (call : Call) : History :=
  match call.apply digest history.journal with
  | .error _ => history
  | .ok journal =>
    { journal := journal
      reopened := call.reopens history.journal history.reopened
      resolved := call.resolves history.resolved }

theorem History.after_of_ok {digest : String → String} {history : History} {call : Call}
    (committed : call.apply digest history.journal = .ok journal) :
    history.after digest call =
      { journal := journal
        reopened := call.reopens history.journal history.reopened
        resolved := call.resolves history.resolved } := by
  unfold History.after
  rw [committed]

/-- An attempt joins the lane of its nonce and job: a replacement or a cancellation. -/
def Joins (journal : Journal) (attempt : Attempt) : Prop :=
  ∃ live ∈ journal.txs.rows, live.state.active = true ∧ live.nonce = attempt.nonce ∧
    live.job = attempt.job

/-- An attempt may be the first of its work: at a nonce that is not below the floor, and while no
attempt is parked or reopened. -/
def History.MayStart (history : History) (attempt : Attempt) : Prop :=
  history.journal.nonceFloor ≤ attempt.nonce ∧
    (∀ row ∈ history.journal.txs.rows, row.state.parked = false) ∧ history.reopened = []

/-- The calls as the keeper makes them: it replaces what is in the lane or starts new work when it
may, it stamps attempts of the lane, it returns parked attempts when nothing that was reopened is
open, and it saves and finishes the sweep on record. -/
def History.Allows (history : History) : Call → Prop
  | .signed attempt _ | .signedBatch attempt _ _ =>
    Joins history.journal attempt ∨ history.MayStart attempt
  | .txSubmitted id => ∀ row ∈ history.journal.txs.rows, row.id = id → row.state.active = true
  | .unparkLanes | .clearFinalityIncident _ => history.reopened = []
  | .sweepSave attempt _ =>
    ∀ current, history.journal.sweepAttempt = some current → attempt.nonce = current.nonce
  | .sweepFinish nonce _ _ =>
    ∀ current, history.journal.sweepAttempt = some current → nonce = current.nonce
  | _ => True

/-- The runs: the calls made so far, and the history they lead to. -/
inductive Runs (digest : String → String) : List Call → History → Prop
  | start : Runs digest [] History.start
  | call {calls : List Call} {history : History} (run : Runs digest calls history) (call : Call)
      (allowed : history.Allows call) : Runs digest (calls ++ [call]) (history.after digest call)

/-! ### The lane of a history -/

/-- The phase of an attempt's state. -/
def TxState.phase : TxState → NonceLane.Phase
  | .signed | .submitted => .live
  | .parkedSigned | .parkedSubmitted => .parked
  | .resolved => .settled

theorem TxState.phase_live {state : TxState} : state.phase = .live ↔ state.active = true := by
  cases state <;> decide

theorem TxState.phase_parked {state : TxState} : state.phase = .parked ↔ state.parked = true := by
  cases state <;> decide

theorem TxState.phase_park (state : TxState) : state.park.phase = state.phase.park := by
  cases state <;> rfl

/-- An attempt as a slot of the lane. -/
def Attempt.slot (attempt : Attempt) : NonceLane.Slot String :=
  ⟨attempt.nonce, attempt.job, attempt.state.phase⟩

/-- The lane of a history. -/
def History.lane (history : History) : NonceLane.Lane String where
  slots := history.journal.txs.rows.map Attempt.slot
  floor := history.journal.nonceFloor
  reopened := history.reopened

theorem History.mem_slots {history : History} {slot : NonceLane.Slot String} :
    slot ∈ history.lane.slots ↔ ∃ attempt ∈ history.journal.txs.rows, attempt.slot = slot :=
  List.mem_map

/-- Changing the states of attempts by their nonce and state moves the phases of their slots. -/
theorem map_slot_of_phase {rows : List Attempt} {change : Attempt → Attempt}
    {lane : NonceLane.Lane String} (slots : lane.slots = rows.map Attempt.slot)
    {phase : ℕ → NonceLane.Phase → NonceLane.Phase}
    (changed : ∀ attempt ∈ rows, (change attempt).slot =
      ⟨attempt.nonce, attempt.job, phase attempt.nonce attempt.state.phase⟩) :
    (rows.map change).map Attempt.slot = lane.rephase phase := by
  unfold NonceLane.Lane.rephase
  rw [slots, List.map_map, List.map_map]
  refine List.map_congr_left fun attempt member => ?_
  exact changed attempt member

theorem slots_setTxState {condition : Attempt → Bool} {state : TxState → TxState}
    {lane : NonceLane.Lane String} (slots : lane.slots = journal.txs.rows.map Attempt.slot)
    {phase : ℕ → NonceLane.Phase → NonceLane.Phase} (changed : ∀ attempt ∈ journal.txs.rows,
      (if condition attempt then state attempt.state else attempt.state).phase =
        phase attempt.nonce attempt.state.phase) :
    (journal.setTxState condition state).txs.rows.map Attempt.slot = lane.rephase phase := by
  refine map_slot_of_phase slots fun attempt member => ?_
  rw [← changed attempt member]
  split <;> rfl

/-! ### Every call is a move of the lane -/

theorem floor_le_raised {next : ℕ} (small : floor ≤ maxI64) :
    floor ≤ max (castInteger floor) (castInteger next) := by
  unfold castInteger
  omega

theorem raised_le_maxI64 {next : ℕ} : max (castInteger floor) (castInteger next) ≤ maxI64 := by
  unfold castInteger
  omega

theorem lt_raised (fits : nonce + 1 ≤ maxI64) :
    nonce < max (castInteger floor) (castInteger (nonce + 1)) := by
  unfold castInteger
  omega

variable {digest : String → String} {history : History} {call : Call}

/-- What one call does to the lane and beside it. The sweep on record is the one before, with its
nonce, or one that the call started; and a nonce that the call resolved is below the floor, or is
the nonce of the sweep that was on record, whose successor the floor is raised to as far as the
database has integers. -/
structure Moves (call : Call) (before after : History) : Prop where
  lane : before.lane = after.lane ∨ NonceLane.Move before.lane after.lane
  bounded : after.journal.nonceFloor ≤ maxI64
  inserted : before.journal.txs.rows.length < after.journal.txs.rows.length →
    before.journal.sweepAttempt = none
  started : before.journal.sweepAttempt = none → after.journal.sweepAttempt.isSome = true →
    ∀ row ∈ before.journal.txs.rows, row.state.active = false
  sweep : ∀ attempt, after.journal.sweepAttempt = some attempt →
    (∃ current, before.journal.sweepAttempt = some current ∧ attempt.nonce = current.nonce) ∨
      ∃ mark, call = .sweepStart attempt mark ∧ attempt.nonce ≤ maxI64
  resolved : ∀ nonce ∈ after.resolved, nonce ∈ before.resolved ∨
    nonce < after.journal.nonceFloor ∨
    ∃ current, before.journal.sweepAttempt = some current ∧ nonce = current.nonce ∧
      castInteger (nonce + 1) ≤ after.journal.nonceFloor

/-- A call that keeps the number of attempts and the sweep. -/
theorem Moves.of_lane {after : History}
    (lane : history.lane = after.lane ∨ NonceLane.Move history.lane after.lane)
    (floor : after.journal.nonceFloor ≤ maxI64)
    (length : after.journal.txs.rows.length = history.journal.txs.rows.length)
    (sweep : after.journal.sweepAttempt = history.journal.sweepAttempt)
    (resolved : ∀ nonce ∈ after.resolved,
      nonce ∈ history.resolved ∨ nonce < after.journal.nonceFloor) :
    Moves call history after where
  lane := lane
  bounded := floor
  inserted := fun longer => absurd longer (by omega)
  started := by
    intro absent present
    rw [sweep, absent] at present
    exact nomatch present
  sweep := fun attempt present => .inl ⟨attempt, sweep ▸ present, rfl⟩
  resolved := fun nonce member => (resolved nonce member).imp_right .inl

theorem Moves.of_same (bounded : history.journal.nonceFloor ≤ maxI64)
    (slots : journal.txs.rows.map Attempt.slot = history.journal.txs.rows.map Attempt.slot)
    (floor : journal.nonceFloor = history.journal.nonceFloor)
    (sweep : journal.sweepAttempt = history.journal.sweepAttempt) :
    Moves call history { history with journal := journal } := by
  refine .of_lane (.inl ?_) (floor ▸ bounded) ?_ sweep fun _ member => .inl member
  · unfold History.lane
    rw [slots, floor]
  · have lengths := congrArg List.length slots
    rwa [List.length_map, List.length_map] at lengths

theorem Signs.clear {attempt : Attempt} {mark : Option Mark}
    (signs : Signs history.journal journal attempt mark) :
    ∀ slot ∈ history.lane.slots, slot.phase = .live →
      slot.nonce = attempt.nonce ∧ slot.owner = attempt.job := by
  intro slot member live
  obtain ⟨row, rowMem, rfl⟩ := History.mem_slots.mp member
  exact signs.free row rowMem (TxState.phase_live.mp live)

/-- When the keeper signs is when the lane admits a slot. -/
theorem turn_of_allowed {attempt : Attempt}
    (turn : Joins history.journal attempt ∨ history.MayStart attempt) :
    (∃ slot ∈ history.lane.slots, slot.phase = .live ∧ slot.nonce = attempt.nonce) ∨
      (history.lane.floor ≤ attempt.nonce ∧
        (∀ slot ∈ history.lane.slots, slot.phase ≠ .parked) ∧ history.lane.reopened = []) := by
  rcases turn with ⟨live, liveMem, active, nonce, -⟩ | ⟨above, unparked, closed⟩
  · exact .inl ⟨live.slot, History.mem_slots.mpr ⟨live, liveMem, rfl⟩,
      TxState.phase_live.mpr active, nonce⟩
  · refine .inr ⟨above, fun slot member parked => ?_, closed⟩
    obtain ⟨row, rowMem, rfl⟩ := History.mem_slots.mp member
    have isParked := TxState.phase_parked.mp parked
    rw [unparked row rowMem] at isParked
    exact nomatch isParked

section

variable (bounded : history.journal.nonceFloor ≤ maxI64)

include bounded

/-- Signing an attempt admits it to the lane. -/
theorem Moves.of_signs {attempt : Attempt} {mark : Option Mark}
    (signs : Signs history.journal journal attempt mark)
    (turn : Joins history.journal attempt ∨ history.MayStart attempt) :
    Moves call history { history with journal := journal } where
  lane := by
    have move := NonceLane.Move.enter history.lane attempt.nonce attempt.job signs.clear
      (turn_of_allowed turn)
    have slots : journal.txs.rows.map Attempt.slot =
        history.lane.slots ++ [⟨attempt.nonce, attempt.job, .live⟩] := by
      rw [signs.rows, List.map_append]
      rfl
    have same : ({ history with journal := journal } : History).lane =
        { history.lane with
          slots := history.lane.slots ++ [⟨attempt.nonce, attempt.job, .live⟩] } := by
      unfold History.lane at slots ⊢
      rw [slots, signs.floor]
    rw [same]
    exact .inr move
  bounded := signs.floor ▸ bounded
  inserted := fun _ => signs.sweepless
  started := by
    intro absent present
    rw [signs.sweep, absent] at present
    exact nomatch present
  sweep := fun attempt present => .inl ⟨attempt, signs.sweep ▸ present, rfl⟩
  resolved := fun _ member => .inl member

/-- Resolving a nonce settles it in the lane. -/
theorem Moves.of_resolves
    (resolves : Resolves history.journal journal nonce) :
    Moves call history
      { journal := journal
        reopened := history.reopened.filter (· ≠ nonce)
        resolved := nonce :: history.resolved } := by
  have slots : journal.txs.rows.map Attempt.slot =
      history.lane.rephase (NonceLane.settling nonce) := by
    rw [resolves.txs]
    refine slots_setTxState rfl fun attempt _ => ?_
    unfold NonceLane.settling
    by_cases same : attempt.nonce = nonce
    · rw [if_pos (beq_iff_eq.mpr same), if_pos same]
      rfl
    · rw [if_neg (by simpa using same), if_neg same]
  have move := NonceLane.Move.settle history.lane nonce journal.nonceFloor
    (resolves.floor ▸ lt_raised resolves.fits) (resolves.floor ▸ floor_le_raised bounded)
  rw [← slots] at move
  refine .of_lane (.inr move) (resolves.floor ▸ raised_le_maxI64) ?_ resolves.sweep ?_
  · show journal.txs.rows.length = _
    rw [resolves.txs]
    exact List.length_map _
  · intro used member
    rcases List.mem_cons.mp member with rfl | old
    · exact .inr (resolves.floor ▸ lt_raised resolves.fits)
    · exact .inl old

/-- Reopening a nonce takes it back into the lane. -/
theorem Moves.of_reopens {now : ℕ}
    (reopens : Reopens history.journal journal nonce now) :
    Moves call history
      { history with journal := journal, reopened := nonce :: history.reopened } := by
  have slots : journal.txs.rows.map Attempt.slot =
      history.lane.rephase (NonceLane.reopening nonce) := by
    rw [reopens.rows]
    refine map_slot_of_phase rfl fun attempt _ => ?_
    unfold reopenedRow NonceLane.reopening
    split
    · rfl
    · rw [← TxState.phase_park]
      rfl
  have move := NonceLane.Move.reopen history.lane nonce
  have floor : history.lane.floor = journal.nonceFloor := reopens.floor.symm
  rw [← slots, floor] at move
  refine .of_lane (.inr move) (reopens.floor ▸ bounded) ?_ reopens.sweep
    fun _ member => .inl member
  show journal.txs.rows.length = _
  rw [reopens.rows]
  exact List.length_map _

/-- Parking every live attempt. -/
theorem Moves.of_park
    (txs : journal.txs = (history.journal.setTxState (fun attempt => attempt.state.active)
      TxState.park).txs) (floor : journal.nonceFloor = history.journal.nonceFloor)
    (sweep : journal.sweepAttempt = history.journal.sweepAttempt) :
    Moves call history { history with journal := journal } := by
  have slots : journal.txs.rows.map Attempt.slot = history.lane.rephase NonceLane.parking := by
    rw [txs]
    refine slots_setTxState rfl fun attempt _ => ?_
    unfold NonceLane.parking
    cases attempt.state <;> rfl
  have move := NonceLane.Move.park history.lane
  have sameFloor : history.lane.floor = journal.nonceFloor := floor.symm
  rw [← slots, sameFloor] at move
  refine .of_lane (.inr move) (floor ▸ bounded) ?_ sweep fun _ member => .inl member
  show journal.txs.rows.length = _
  rw [txs]
  exact List.length_map _

/-- Returning the parked attempts. -/
theorem Moves.of_unpark
    (closed : history.reopened = []) (txs : journal.txs = history.journal.unparkLanes.txs)
    (floor : journal.nonceFloor = history.journal.nonceFloor)
    (sweep : journal.sweepAttempt = history.journal.sweepAttempt) :
    Moves call history { history with journal := journal } := by
  have slots : journal.txs.rows.map Attempt.slot = history.lane.rephase NonceLane.unparking := by
    rw [txs]
    refine slots_setTxState rfl fun attempt _ => ?_
    unfold NonceLane.unparking
    cases attempt.state <;> rfl
  have move := NonceLane.Move.unpark history.lane closed
  have sameFloor : history.lane.floor = journal.nonceFloor := floor.symm
  rw [← slots, sameFloor] at move
  refine .of_lane (.inr move) (floor ▸ bounded) ?_ sweep fun _ member => .inl member
  show journal.txs.rows.length = _
  rw [txs]
  exact List.length_map _

/-- Finishing a sweep raises the floor and leaves the slots alone. -/
theorem Moves.of_finish {outcome : SweepOutcome} {mark : Option Mark}
    (allowed : history.Allows (.sweepFinish nonce outcome mark))
    (finished : history.journal.sweepFinishMarked nonce outcome mark = .ok journal) :
    Moves call history
      { history with journal := journal, resolved := nonce :: history.resolved } := by
  obtain ⟨present, marks, same, -⟩ := sweepFinishMarked_ok finished
  obtain ⟨current, recorded⟩ := Option.isSome_iff_exists.mp present
  subst same
  have move := NonceLane.Move.raise history.lane
    (max (castInteger history.journal.nonceFloor) (castInteger (nonce + 1)))
    (floor_le_raised bounded)
  refine ⟨.inr move, raised_le_maxI64, fun longer => absurd longer (lt_irrefl _),
    fun _ started => (nomatch started), fun _ left => (nomatch left), fun used member => ?_⟩
  rcases List.mem_cons.mp member with rfl | old
  · exact .inr (.inr ⟨current, recorded, allowed current recorded, le_max_right _ _⟩)
  · exact .inl old

theorem Moves.of_start {attempt : SweepAttempt} {mark : Option Mark}
    (started : history.journal.sweepStartMarked attempt mark = .ok journal) :
    Moves (.sweepStart attempt mark) history { history with journal := journal } := by
  obtain ⟨idle, fits, -, -, marks, same, -, -⟩ := sweepStartMarked_ok started
  subst same
  refine ⟨.inl rfl, bounded, fun longer => absurd longer (lt_irrefl _), fun _ _ => idle,
    fun current present => .inr ⟨mark, ?_⟩, fun _ member => .inl member⟩
  cases present
  exact ⟨rfl, fits⟩

/-- Saving a sweep keeps its nonce. -/
theorem Moves.of_save {attempt : SweepAttempt} {mark : Option Mark}
    (allowed : history.Allows (.sweepSave attempt mark))
    (saved : history.journal.sweepSaveMarked attempt mark = .ok journal) :
    Moves call history { history with journal := journal } := by
  obtain ⟨present, marks, same, -, -⟩ := sweepSaveMarked_ok saved
  obtain ⟨current, recorded⟩ := Option.isSome_iff_exists.mp present
  subst same
  refine ⟨.inl rfl, bounded, fun longer => absurd longer (lt_irrefl _), fun absent => ?_,
    fun kept keptEq => .inl ⟨current, recorded, ?_⟩, fun _ member => .inl member⟩
  · rw [recorded] at absent
    exact nomatch absent
  · cases keptEq
    exact allowed current recorded

/-- Every call that the keeper makes moves the lane, or leaves it alone. -/
theorem moves_of_call
    (allowed : history.Allows call) (committed : call.apply digest history.journal = .ok journal) :
    Moves call history
      { journal := journal
        reopened := call.reopens history.journal history.reopened
        resolved := call.resolves history.resolved } := by
  cases call with
  | signed => exact .of_signs bounded (signedMarked_ok committed).1 allowed
  | signedBatch =>
    exact .of_signs bounded (signedBatchMarked_ok committed).1 allowed
  | txSubmitted =>
    cases committed
    refine .of_same bounded ?_ rfl rfl
    unfold Journal.txSubmitted setTxState
    rw [Table.update_rows, List.map_map]
    refine List.map_congr_left fun attempt member => ?_
    simp only [Function.comp_apply]
    split
    case isTrue same =>
      have active := allowed attempt member (beq_iff_eq.mp same)
      unfold Attempt.slot
      rw [TxState.phase_live.mpr active]
      rfl
    case isFalse => rfl
  | broadcastAttempt =>
    cases committed
    refine .of_same bounded ?_ rfl rfl
    unfold Journal.broadcastAttempt
    rw [Table.update_rows, List.map_map]
    refine List.map_congr_left fun attempt _ => ?_
    simp only [Function.comp_apply]
    split <;> rfl
  | resolveNonce => exact .of_resolves bounded (resolveNonce_ok committed)
  | resolveNonceJob =>
    exact .of_resolves bounded (resolveNonceJobMarked_ok committed)
  | resolveNonceEpoch =>
    exact .of_resolves bounded (resolveNonceEpochMarked_ok committed)
  | resolveNonceBatch =>
    exact .of_resolves bounded (resolveNonceBatchMarked_ok committed)
  | reopenNonce nonce chainTime wallTime =>
    cases result : history.journal.reopenNonce nonce chainTime wallTime with
    | error =>
      rw [Call.apply, result] at committed
      cases committed
    | ok =>
      rw [Call.apply, result] at committed
      cases committed
      rcases reopenNonce_ok result with ⟨-, same, blank⟩ | ⟨-, reopens⟩
      · rw [Call.reopens, if_pos blank, same]
        exact .of_same bounded rfl rfl rfl
      · rw [Call.reopens, if_neg (Bool.eq_false_iff.mp reopens.bytes)]
        exact .of_reopens bounded reopens
  | beginFill =>
    cases committed
    exact .of_park bounded rfl rfl rfl
  | setFill =>
    obtain ⟨marks, same, -, -⟩ := setFillMarked_ok committed
    subst same
    exact .of_same bounded rfl rfl rfl
  | settleFill =>
    obtain ⟨marks, same, -⟩ := settleFill_ok committed
    subst same
    exact .of_same bounded rfl rfl rfl
  | unparkLanes =>
    cases committed
    exact .of_unpark bounded allowed rfl rfl rfl
  | clearFinalityIncident summary =>
    cases committed
    obtain ⟨_, _, _, same⟩ := history.journal.clearFinalityIncident_eq summary
    rw [same]
    exact .of_unpark bounded allowed rfl rfl rfl
  | compactHistory =>
    rcases compactHistoryFor_ok committed with
      ⟨-, same⟩ | ⟨-, jobs, work, txs, later, same, rows, -, -⟩
    · subst same
      exact .of_same bounded rfl rfl rfl
    · subst same
      refine .of_same bounded ?_ rfl rfl
      rw [rows, List.map_map]
      refine List.map_congr_left fun attempt _ => ?_
      simp only [Function.comp_apply]
      unfold compactedRow
      split <;> rfl
  | sweepSubmit =>
    obtain ⟨_, _, committed⟩ := bind_eq_ok.mp committed
    cases committed
    exact .of_same bounded rfl rfl rfl
  | sweepStart => exact .of_start bounded committed
  | sweepSave => exact .of_save bounded allowed committed
  | sweepFinish => exact .of_finish bounded allowed committed
  | openFor =>
    cases committed
    have move := NonceLane.Move.raise history.lane history.journal.openFor.nonceFloor
      (floor_le_raised bounded)
    exact .of_lane (.inr move) raised_le_maxI64 rfl rfl fun _ member => .inl member
  | sweepCancelRequest | sweepRefuse | discovered | epochFound | prepared | membersState
  | expireUnstarted | updateJobs | epochState | updateWork | setFinality =>
    cases committed
    exact .of_same bounded rfl rfl rfl
  | laneStarted =>
    cases committed
    unfold setMetaOnce
    split <;> exact .of_same bounded rfl rfl rfl

end

/-- A call that fails or commits moves the lane, or leaves it alone. -/
theorem moves_after (digest : String → String) (bounded : history.journal.nonceFloor ≤ maxI64)
    (allowed : history.Allows call) : Moves call history (history.after digest call) := by
  cases committed : call.apply digest history.journal with
  | error =>
    have same : history.after digest call = history := by
      unfold History.after
      rw [committed]
    rw [same]
    exact .of_same bounded rfl rfl rfl
  | ok =>
    rw [History.after_of_ok committed]
    exact moves_of_call bounded allowed committed

/-- The lane is sound in every state of every run. -/
theorem Runs.sound {calls : List Call} (run : Runs digest calls history) :
    NonceLane.Sound history.lane ∧ history.journal.nonceFloor ≤ maxI64 := by
  induction run with
  | start => exact ⟨NonceLane.Sound.of_empty rfl, Nat.zero_le _⟩
  | call _ call allowed inductionHypothesis =>
    obtain ⟨sound, bounded⟩ := inductionHypothesis
    have moves := moves_after digest bounded allowed
    refine ⟨?_, moves.bounded⟩
    rcases moves.lane with same | move
    · rw [← same]
      exact sound
    · exact sound.step move

/-! ### The floor -/

/-- A call other than a sweep that is started at the largest nonce, whose successor is not an
integer of the database. -/
def Call.BelowLargest : Call → Prop
  | .sweepStart attempt _ => attempt.nonce ≠ maxI64
  | _ => True

/-- The floor is above every nonce that was ever resolved, and can be raised past the nonce of
the sweep on record. -/
structure History.Floored (history : History) : Prop where
  sweep : ∀ attempt, history.journal.sweepAttempt = some attempt → attempt.nonce < maxI64
  resolved : ∀ nonce ∈ history.resolved, nonce < history.journal.nonceFloor

/-- No call lowers the floor or takes an attempt away. -/
theorem Moves.grows {after : History} (moves : Moves call history after) :
    history.journal.nonceFloor ≤ after.journal.nonceFloor ∧
      (history.journal.txs.rows.map fun attempt => (attempt.nonce, attempt.job)) <+:
        after.journal.txs.rows.map fun attempt => (attempt.nonce, attempt.job) := by
  have lane : history.lane.floor ≤ after.lane.floor ∧
      (history.lane.slots.map fun slot => (slot.nonce, slot.owner)) <+:
        after.lane.slots.map fun slot => (slot.nonce, slot.owner) := by
    rcases moves.lane with same | move
    · rw [same]
      exact ⟨le_rfl, List.prefix_rfl⟩
    · exact ⟨move.floor_le, move.slots_prefix⟩
  unfold History.lane at lane
  rwa [List.map_map, List.map_map] at lane

/-- A call below the largest nonce keeps the floor above every resolved nonce. -/
theorem Moves.floored {after : History} (moves : Moves call history after)
    (below : call.BelowLargest) (floored : history.Floored) : after.Floored where
  sweep := by
    intro attempt present
    rcases moves.sweep attempt present with ⟨current, recorded, same⟩ | ⟨mark, started, fits⟩
    · rw [same]
      exact floored.sweep current recorded
    · subst started
      exact lt_of_le_of_ne fits below
  resolved := by
    intro nonce member
    rcases moves.resolved nonce member with old | low | ⟨current, recorded, same, raised⟩
    · exact (floored.resolved nonce old).trans_le moves.grows.1
    · exact low
    · have small := floored.sweep current recorded
      unfold castInteger at raised
      omega

/-- The floor is above every nonce that was ever resolved, in every run of calls below the largest
nonce. -/
theorem Runs.floored {calls : List Call} (run : Runs digest calls history)
    (below : ∀ call ∈ calls, call.BelowLargest) : history.Floored := by
  induction run with
  | start => exact ⟨fun _ present => (nomatch present), fun _ member => (nomatch member)⟩
  | call run call allowed inductionHypothesis =>
    have moves := moves_after digest run.sound.2 allowed
    exact moves.floored (below call (List.mem_append_right _ (List.mem_singleton_self call)))
      (inductionHypothesis fun call member => below call (List.mem_append_left _ member))

/-- In every state of every run, the attempts that are signed or submitted share one nonce and one
job, and all attempts of a nonce belong to one job. Whatever call the keeper makes next, no attempt
is taken away, none is inserted while a sweep is on record, no sweep starts while an attempt is
signed or submitted, and the floor does not fall. If no sweep was started at the largest nonce, the
floor is above every nonce that was ever resolved. -/
theorem single_lane_and_floor (digest : String → String) (calls : List Call) (history : History)
    (run : Runs digest calls history) :
    (∀ first ∈ history.journal.unresolved, ∀ second ∈ history.journal.unresolved,
      first.nonce = second.nonce ∧ first.job = second.job) ∧
    (∀ first ∈ history.journal.txs.rows, ∀ second ∈ history.journal.txs.rows,
      first.nonce = second.nonce → first.job = second.job) ∧
    (∀ call, history.Allows call →
      ((history.journal.txs.rows.map fun attempt => (attempt.nonce, attempt.job)) <+:
        (history.after digest call).journal.txs.rows.map
          fun attempt => (attempt.nonce, attempt.job)) ∧
      (history.journal.txs.rows.length < (history.after digest call).journal.txs.rows.length →
        history.journal.sweepAttempt = none) ∧
      (history.journal.sweepAttempt = none →
        (history.after digest call).journal.sweepAttempt.isSome = true →
        history.journal.unresolved = []) ∧
      history.journal.nonceFloor ≤ (history.after digest call).journal.nonceFloor) ∧
    ((∀ call ∈ calls, call.BelowLargest) →
      ∀ nonce ∈ history.resolved, nonce < history.journal.nonceFloor) := by
  obtain ⟨sound, bounded⟩ := run.sound
  refine ⟨?_, ?_, fun call allowed => ?_, fun below => (run.floored below).resolved⟩
  · intro first firstMem second secondMem
    obtain ⟨firstRow, firstActive⟩ := List.mem_filter.mp firstMem
    obtain ⟨secondRow, secondActive⟩ := List.mem_filter.mp secondMem
    exact sound.one_lane (History.mem_slots.mpr ⟨first, firstRow, rfl⟩)
      (History.mem_slots.mpr ⟨second, secondRow, rfl⟩) (TxState.phase_live.mpr firstActive)
      (TxState.phase_live.mpr secondActive)
  · intro first firstRow second secondRow nonces
    exact sound.owned first.slot (History.mem_slots.mpr ⟨first, firstRow, rfl⟩) second.slot
      (History.mem_slots.mpr ⟨second, secondRow, rfl⟩) nonces
  · have moves := moves_after digest bounded allowed
    refine ⟨moves.grows.2, moves.inserted, fun absent present => ?_, moves.grows.1⟩
    refine List.filter_eq_nil_iff.mpr fun row member active => ?_
    rw [moves.started absent present row member] at active
    exact nomatch active

/-- An attempt that fulfills one request. -/
def fulfillment (job hash : String) (nonce : ℕ) : Attempt where
  job := job
  nonce := nonce
  hash := hash
  raw := "0x02"
  kind := .fulfill
  fee := "1"
  gas := 1
  priority := "1"
  payload := "0x"
  created := 0

/-- Two requests are served in turn, and the nonce of the first is reopened while the second is in
the lane. -/
def reopenedLane : List Call :=
  [.discovered "1" 9 "2", .signed (fulfillment "1" "a" 0) none,
    .resolveNonceJob 0 "1" (.state .served) none, .discovered "2" 9 "3",
    .signed (fulfillment "2" "b" 1) none, .reopenNonce 0 5 5]

theorem runs_reopenedLane :
    Runs id reopenedLane (reopenedLane.foldl (History.after id) History.start) := by
  have first : Runs id [.discovered "1" 9 "2"]
      (History.start.after id (.discovered "1" 9 "2")) := Runs.start.call _ trivial
  have second := first.call (.signed (fulfillment "1" "a" 0) none)
    (.inr ⟨by decide, by decide, rfl⟩)
  have third := second.call (.resolveNonceJob 0 "1" (.state .served) none) trivial
  have fourth := third.call (.discovered "2" 9 "3") trivial
  have fifth := fourth.call (.signed (fulfillment "2" "b" 1) none)
    (.inr ⟨by decide, by decide, rfl⟩)
  exact fifth.call (.reopenNonce 0 5 5) trivial

theorem single_lane_and_floor_reopened :
    ((reopenedLane.foldl (History.after id) History.start).journal.unresolved.map
      Attempt.nonce) = [0] ∧
    ∀ nonce ∈ (reopenedLane.foldl (History.after id) History.start).resolved,
      nonce < (reopenedLane.foldl (History.after id) History.start).journal.nonceFloor := by
  refine ⟨by decide, ?_⟩
  refine (single_lane_and_floor id reopenedLane _ runs_reopenedLane).2.2.2 fun call member => ?_
  unfold reopenedLane at member
  simp only [List.mem_cons, List.not_mem_nil, or_false] at member
  rcases member with rfl | rfl | rfl | rfl | rfl | rfl <;> trivial

/-- A request of the smallest sweep. -/
def smallSweep : SweepRequest := { mode := .amount, wei := "1", requestedAt := 0 }

/-- The outcome of a sweep that was sent. -/
def sentSweep : SweepOutcome where
  state := .sent
  detail := ""
  recipient := none
  value := none
  txHash := none
  requestedAt := 0
  finishedAt := 1

/-- A sweep at the largest nonce, from its request to its receipt. -/
def largestSweep : List Call :=
  [.sweepSubmit smallSweep,
    .sweepStart
      { request := smallSweep, nonce := maxI64, recipient := "", value := "1", txs := [] } none,
    .sweepFinish maxI64 sentSweep none]

/-- A sweep at the largest nonce is resolved and leaves the floor at that nonce. -/
theorem largest_sweep_leaves_the_floor :
    ∃ history, Runs id largestSweep history ∧ maxI64 ∈ history.resolved ∧
      ¬maxI64 < history.journal.nonceFloor := by
  have submitted : Runs id [.sweepSubmit smallSweep]
      (History.start.after id (.sweepSubmit smallSweep)) := Runs.start.call _ trivial
  have started := submitted.call (.sweepStart
    { request := smallSweep, nonce := maxI64, recipient := "", value := "1", txs := [] } none)
    trivial
  refine ⟨_, started.call _ fun current recorded => ?_, ?_, ?_⟩
  · cases recorded
    rfl
  · exact List.mem_cons_self
  · exact lt_irrefl _

end D20.Journal
