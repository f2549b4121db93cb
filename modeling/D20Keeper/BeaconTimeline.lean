/-
This file reads the schedule of `BeaconBook` as a timeline: the eras that were
replaced, the one in force, and the change that is pending. `roundAt` answers
from the era in force at its time, or from the first one.

Scheduling a beacon amends the timeline at the time of its block and cancelling
a change cuts it there, so neither changes what a time up to then resolves to.
-/

import D20Keeper.BeaconBook

namespace D20

open Evm
open Timeline (inForceOrFirst inForce cut inForce_append_of_lt inForce_append_of_le)

namespace BeaconBook

/-! ### The eras -/

variable (book : BeaconBook)

/-- The era in force, as the schedule names it. -/
def currentEra : Era :=
  ⟨book.schedule.beaconId, book.schedule.since, book.schedule.genesis, book.schedule.period⟩

/-- The era that the schedule names next. -/
def nextEra : Era :=
  ⟨book.schedule.nextBeaconId, book.schedule.nextFrom, book.schedule.nextGenesis,
    book.schedule.nextPeriod⟩

/-- The era of the pending change, if there is one. -/
def pendingEra : List Era :=
  if book.schedule.nextFrom = 0 then [] else [book.nextEra]

/-- The eras that have begun, oldest first. -/
def begunEras : List Era := book.past ++ [book.currentEra]

/-- The eras of a book, oldest first. -/
def eras : List Era := book.begunEras ++ book.pendingEra

/-- The beacon and round of a time in an era. -/
def eraRound (timestamp : Nat) (era : Era) : Except Panic (Nat × Nat) := do
  return (era.beaconId, ← round era.genesis era.period timestamp)

/-- The era that a time resolves to. -/
def eraAt (timestamp : Nat) : Option Era :=
  inForceOrFirst Era.since book.eras timestamp

/-- The loop over the replaced eras finds the one in force or the first. -/
theorem scanPast_reverse (timestamp : Nat) (past : List Era) :
    scanPast timestamp past.reverse = inForceOrFirst Era.since past timestamp := by
  induction past using List.reverseRecOn with
  | nil => rfl
  | append_singleton older era inductionHypothesis =>
    rw [List.reverse_append, List.reverse_singleton, List.singleton_append]
    unfold inForceOrFirst at inductionHypothesis ⊢
    by_cases begun : era.since ≤ timestamp
    · rw [inForce_append_of_le begun, Option.some_or]
      cases older.reverse with
      | nil => rfl
      | cons => exact if_neg (Nat.not_lt.mpr begun)
    · rw [inForce_append_of_lt (Nat.lt_of_not_le begun)]
      cases older with
      | nil => rfl
      | cons oldest rest =>
        rw [List.cons_append, List.head?_cons]
        rw [List.head?_cons] at inductionHypothesis
        rw [← inductionHypothesis]
        cases reversed : (oldest :: rest).reverse with
        | nil => exact absurd reversed (by simp)
        | cons => exact if_pos (Nat.lt_of_not_le begun)

theorem head?_eras : book.eras.head? = book.begunEras.head? :=
  List.head?_append_of_ne_nil _ (by simp [begunEras])

variable {timestamp time : Nat} {book after : BeaconBook} {block : Block}

theorem inForce_eras_of_taken
    (taken : book.schedule.nextFrom ≠ 0 ∧ book.schedule.nextFrom ≤ timestamp) :
    inForce Era.since book.eras timestamp = some book.nextEra := by
  unfold eras pendingEra
  rw [if_neg taken.1]
  have begun : book.nextEra.since ≤ timestamp := taken.2
  exact inForce_append_of_le begun

theorem inForce_eras_of_not_taken
    (untaken : ¬(book.schedule.nextFrom ≠ 0 ∧ book.schedule.nextFrom ≤ timestamp)) :
    inForce Era.since book.eras timestamp =
      inForce Era.since book.begunEras timestamp := by
  unfold eras pendingEra
  split
  · rw [List.append_nil]
  · rename_i pending
    have later : timestamp < book.nextEra.since :=
      Nat.lt_of_not_le fun begun => untaken ⟨pending, begun⟩
    exact inForce_append_of_lt later

/-- `roundAt` answers from the era that a time resolves to. -/
theorem roundAt_eq (book : BeaconBook) (timestamp : Nat) :
    book.roundAt timestamp =
      match book.eraAt timestamp with
      | none => .error .outOfBounds
      | some era => eraRound timestamp era := by
  unfold eraAt inForceOrFirst
  rw [head?_eras]
  by_cases taken : book.schedule.nextFrom ≠ 0 ∧ book.schedule.nextFrom ≤ timestamp
  · rw [inForce_eras_of_taken taken]
    exact if_pos taken
  · rw [inForce_eras_of_not_taken taken]
    unfold roundAt begunEras
    dsimp only
    rw [if_neg taken]
    by_cases current : book.schedule.since ≤ timestamp
    · rw [inForce_append_of_le (show book.currentEra.since ≤ timestamp from current),
        if_pos (Or.inl current)]
      rfl
    · rw [inForce_append_of_lt
        (show timestamp < book.currentEra.since from Nat.lt_of_not_le current)]
      cases book.past with
      | nil =>
        rw [if_pos (Or.inr List.length_nil)]
        rfl
      | cons oldest rest =>
        have replaced : (oldest :: rest).length ≠ 0 := by simp
        rw [if_neg (not_or.mpr ⟨current, replaced⟩), scanPast_reverse]
        rfl

/-! ### Books in order -/

/-- The eras that have begun at a time are those before the pending change, and every era starts
after the one before it. -/
structure InTime (time : Nat) (book : BeaconBook) : Prop where
  begun : ∀ era ∈ book.begunEras, era.since ≤ time
  ascending : book.eras.Pairwise fun earlier later => earlier.since < later.since

theorem InTime.later {later : Nat} (inTime : InTime time book) (le : time ≤ later) :
    InTime later book :=
  ⟨fun era member => (inTime.begun era member).trans le, inTime.ascending⟩

theorem mem_begunEras_current (book : BeaconBook) : book.currentEra ∈ book.begunEras :=
  List.mem_append_right _ (List.mem_singleton_self _)

/-- A request binds what its time resolves to. -/
theorem assignRound_eq (inTime : InTime block.timestamp book) :
    book.assignRound block = book.roundAt block.timestamp := by
  have begun : book.schedule.since ≤ block.timestamp :=
    inTime.begun _ book.mem_begunEras_current
  unfold assignRound roundAt
  dsimp only
  split
  · rfl
  · rw [if_pos (Or.inl begun)]

/-- What has begun by a time is what the timeline keeps when it is cut there. -/
theorem InTime.cut_eras (inTime : InTime time book) :
    cut Era.since time book.eras =
      if book.schedule.nextFrom ≠ 0 ∧ book.schedule.nextFrom ≤ time then book.eras
      else book.begunEras := by
  split
  · rename_i taken
    refine Timeline.cut_eq_self fun era member => ?_
    rcases List.mem_append.mp member with earlier | last
    · exact inTime.begun era earlier
    · unfold pendingEra at last
      rw [if_neg taken.1, List.mem_singleton] at last
      rw [last]
      exact taken.2
  · rename_i untaken
    unfold eras pendingEra
    split
    · rw [List.append_nil]
      exact Timeline.cut_eq_self inTime.begun
    · rename_i pending
      refine Timeline.cut_append_of_lt inTime.begun ?_
      exact Nat.lt_of_not_le fun taken => untaken ⟨pending, taken⟩

/-! ### Changes of the schedule -/

/-- What scheduling a beacon does: the timeline is amended at the time of the block by an era of
the beacon that starts later. -/
theorem InTime.scheduleBeacon_eras {beaconId fromTime : Nat} (inTime : InTime block.timestamp book)
    (scheduled : book.scheduleBeacon block beaconId fromTime = .ok after) :
    ∃ beacon, book.beacons[beaconId]? = some beacon ∧
      block.timestamp + minScheduleLead ≤ fromTime ∧ fromTime < 2 ^ 40 ∧
      after.begunEras = cut Era.since block.timestamp book.eras ∧
      after.pendingEra = [⟨beaconId, fromTime, beacon.genesis, beacon.period⟩] ∧
      after.beacons = book.beacons ∧ after.registered = book.registered ∧
      after.roundRandomness = book.roundRandomness := by
  rw [inTime.cut_eras]
  unfold scheduleBeacon at scheduled
  split at scheduled
  · cases scheduled
  · rename_i beacon registered
    split at scheduled
    · cases scheduled
    · rename_i valid
      rw [not_or] at valid
      cases scheduled
      have small : fromTime < 2 ^ 40 := by omega
      have positive : fromTime ≠ 0 := by
        have := valid.1
        unfold minScheduleLead at this
        omega
      refine ⟨beacon, registered, Nat.le_of_not_lt valid.1, small, ?_, ?_, rfl, rfl, rfl⟩
      · by_cases taken : book.schedule.nextFrom ≠ 0 ∧ book.schedule.nextFrom ≤ block.timestamp
        · simp only [begunEras, currentEra, eras, pendingEra, nextEra, settled, if_pos taken,
            if_neg taken.1]
        · simp only [begunEras, currentEra, if_neg taken]
      · simp only [pendingEra, nextEra, Nat.mod_eq_of_lt small, if_neg positive]

/-- What cancelling a change does: the timeline is cut at the time of the block. -/
theorem InTime.cancelSchedule_eras {beaconId fromTime : Nat} (inTime : InTime block.timestamp book)
    (cancelled : book.cancelSchedule block = .ok (after, beaconId, fromTime)) :
    block.timestamp < fromTime ∧
      (∃ genesis period, book.pendingEra = [⟨beaconId, fromTime, genesis, period⟩]) ∧
      after.begunEras = cut Era.since block.timestamp book.eras ∧
      after.pendingEra = [] ∧ after.beacons = book.beacons ∧
      after.registered = book.registered ∧ after.roundRandomness = book.roundRandomness := by
  rw [inTime.cut_eras]
  unfold cancelSchedule at cancelled
  dsimp only at cancelled
  split at cancelled
  · cases cancelled
  · rename_i pending
    rw [not_or] at pending
    cases cancelled
    refine ⟨Nat.lt_of_not_le pending.2, ⟨_, _, if_neg pending.1⟩, ?_, rfl, rfl, rfl, rfl⟩
    rw [if_neg fun taken => pending.2 taken.2]
    rfl

/-- A book whose begun eras are those of another cut at a time, followed by a later era or none,
resolves every time up to then as before. -/
theorem InTime.eraAt_eq (inTime : InTime time book)
    (begun : after.begunEras = cut Era.since time book.eras)
    (ahead : ∀ era ∈ after.pendingEra, time < era.since) (within : timestamp ≤ time) :
    after.eraAt timestamp = book.eraAt timestamp := by
  unfold eraAt inForceOrFirst
  have same : inForce Era.since after.eras timestamp =
      inForce Era.since book.eras timestamp := by
    have later : ∀ era ∈ after.pendingEra, timestamp < era.since := fun era member =>
      within.trans_lt (ahead era member)
    unfold eras at *
    rw [Timeline.inForce_append_of_forall_lt later, begun, Timeline.inForce_cut within]
  have first : after.eras.head? = book.eras.head? := by
    rw [head?_eras, head?_eras, begun, inTime.cut_eras]
    split
    · exact head?_eras book
    · rfl
  rw [same, first]

theorem InTime.amended (inTime : InTime time book)
    (begun : after.begunEras = cut Era.since time book.eras)
    (ahead : ∀ era ∈ after.pendingEra, time < era.since) : InTime time after := by
  have started : ∀ era ∈ after.begunEras, era.since ≤ time := by
    intro era member
    rw [begun] at member
    simpa using (List.mem_filter.mp member).2
  refine ⟨started, List.pairwise_append.mpr ⟨?_, ?_, ?_⟩⟩
  · rw [begun]
    exact Timeline.ascending_cut inTime.ascending
  · unfold pendingEra
    split
    · exact List.Pairwise.nil
    · exact List.pairwise_singleton _ _
  · intro earlier member later pending
    exact (started earlier member).trans_lt (ahead later pending)

end BeaconBook

end D20
