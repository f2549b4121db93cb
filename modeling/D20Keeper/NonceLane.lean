/-
This file is the abstract machine of a single nonce lane. A wallet signs transactions for many
pieces of work, but keeps only one nonce in flight: its slots are the transactions it ever
signed, each with a nonce, an owner and a phase. A slot is admitted when no other owner is live,
a nonce is settled, taken back into the lane after it was settled, and the live slots are parked
while another nonce has the lane. The invariant says that the live slots have one nonce and that a
nonce has one owner for good.
-/

import Mathlib.Data.List.Basic
import Mathlib.Order.Nat

namespace NonceLane

/-- The phases of a slot: in the lane, set aside, or settled. -/
inductive Phase
  | live
  | parked
  | settled
  deriving DecidableEq

/-- A live slot is set aside. -/
def Phase.park : Phase → Phase
  | .live => .parked
  | other => other

/-- A slot that was set aside is live again. -/
def Phase.unpark : Phase → Phase
  | .parked => .live
  | other => other

/-- A transaction that was signed for some owner. -/
structure Slot (Owner : Type) where
  nonce : ℕ
  owner : Owner
  phase : Phase

/-- The slots in the order of their admission, the floor of the nonces that may be used for new
work, and the nonces that were taken back and not settled since. -/
structure Lane (Owner : Type) where
  slots : List (Slot Owner)
  floor : ℕ
  reopened : List ℕ

variable {Owner : Type}

/-- Every slot moves to a phase that its nonce and its phase decide. -/
def Lane.rephase (lane : Lane Owner) (phase : ℕ → Phase → Phase) : List (Slot Owner) :=
  lane.slots.map fun slot => { slot with phase := phase slot.nonce slot.phase }

variable {lane before after : Lane Owner} {slot : Slot Owner} {nonce : ℕ} {owner : Owner}

theorem Lane.mem_rephase {phase : ℕ → Phase → Phase} :
    slot ∈ lane.rephase phase ↔
      ∃ old ∈ lane.slots, { old with phase := phase old.nonce old.phase } = slot := by
  unfold Lane.rephase
  rw [List.mem_map]

/-- The phases after a nonce is settled. -/
def settling (nonce other : ℕ) (phase : Phase) : Phase :=
  if other = nonce then .settled else phase

/-- The phases after a nonce is taken back: it has the lane alone. -/
def reopening (nonce other : ℕ) (phase : Phase) : Phase :=
  if other = nonce then .live else phase.park

/-- The phases after the live slots are set aside. -/
def parking (_ : ℕ) (phase : Phase) : Phase := phase.park

/-- The phases after the parked slots return. -/
def unparking (_ : ℕ) (phase : Phase) : Phase := phase.unpark

/-- What can happen to a lane. A slot is admitted beside live slots of its own nonce and owner
only; it either joins such a slot, or is the first of its work, at a nonce that is not below the
floor and while nothing is parked or taken back. Parked slots return when nothing that was taken
back is still open. -/
inductive Move : Lane Owner → Lane Owner → Prop
  | enter (lane : Lane Owner) (nonce : ℕ) (owner : Owner)
      (clear : ∀ slot ∈ lane.slots, slot.phase = .live → slot.nonce = nonce ∧ slot.owner = owner)
      (turn : (∃ slot ∈ lane.slots, slot.phase = .live ∧ slot.nonce = nonce) ∨
        (lane.floor ≤ nonce ∧ (∀ slot ∈ lane.slots, slot.phase ≠ .parked) ∧ lane.reopened = [])) :
      Move lane { lane with slots := lane.slots ++ [⟨nonce, owner, .live⟩] }
  | settle (lane : Lane Owner) (nonce floor : ℕ) (above : nonce < floor)
      (raised : lane.floor ≤ floor) :
      Move lane
        { slots := lane.rephase (settling nonce), floor := floor,
          reopened := lane.reopened.filter (· ≠ nonce) }
  | reopen (lane : Lane Owner) (nonce : ℕ) :
      Move lane
        { lane with
          slots := lane.rephase (reopening nonce), reopened := nonce :: lane.reopened }
  | park (lane : Lane Owner) :
      Move lane { lane with slots := lane.rephase parking }
  | unpark (lane : Lane Owner) (done : lane.reopened = []) :
      Move lane { lane with slots := lane.rephase unparking }
  | raise (lane : Lane Owner) (floor : ℕ) (raised : lane.floor ≤ floor) :
      Move lane { lane with floor := floor }

theorem Move.floor_le (move : Move before after) : before.floor ≤ after.floor := by
  cases move with
  | enter | reopen | park | unpark => exact le_rfl
  | settle _ _ _ raised | raise _ raised => exact raised

/-- No move takes a slot away or changes its nonce or its owner. -/
theorem Move.slots_prefix (move : Move before after) :
    (before.slots.map fun slot => (slot.nonce, slot.owner)) <+:
      after.slots.map fun slot => (slot.nonce, slot.owner) := by
  have rephased : ∀ phase, ((before.rephase phase).map fun slot => (slot.nonce, slot.owner)) =
      before.slots.map fun slot => (slot.nonce, slot.owner) := by
    intro phase
    unfold Lane.rephase
    rw [List.map_map]
    rfl
  cases move with
  | enter =>
    rw [List.map_append]
    exact List.prefix_append _ _
  | raise => exact List.prefix_rfl
  | settle | reopen | park | unpark =>
    simp only [rephased]
    exact List.prefix_rfl

/-! ### The invariant -/

/-- What holds of a lane at every time. Beside the rule itself it says that the slots of a nonce
have one phase, and that the open slots whose nonce was not taken back have one nonce: they are
the work that was in the lane before, and that returns to it. -/
structure Sound (lane : Lane Owner) : Prop where
  single : ∀ first ∈ lane.slots, ∀ second ∈ lane.slots,
    first.phase = .live → second.phase = .live → first.nonce = second.nonce
  owned : ∀ first ∈ lane.slots, ∀ second ∈ lane.slots,
    first.nonce = second.nonce → first.owner = second.owner
  together : ∀ first ∈ lane.slots, ∀ second ∈ lane.slots,
    first.nonce = second.nonce → first.phase = second.phase
  waiting : ∀ first ∈ lane.slots, ∀ second ∈ lane.slots,
    first.phase ≠ .settled → second.phase ≠ .settled →
    first.nonce ∉ lane.reopened → second.nonce ∉ lane.reopened → first.nonce = second.nonce
  below : ∀ slot ∈ lane.slots, slot.phase = .settled → slot.nonce < lane.floor

theorem Sound.of_empty (slots : lane.slots = []) : Sound lane := by
  obtain ⟨_, floor, reopened⟩ := lane
  subst slots
  constructor <;> simp

theorem Sound.one_lane (sound : Sound lane) {first second : Slot Owner}
    (firstMem : first ∈ lane.slots) (secondMem : second ∈ lane.slots)
    (firstLive : first.phase = .live) (secondLive : second.phase = .live) :
    first.nonce = second.nonce ∧ first.owner = second.owner := by
  have nonces := sound.single first firstMem second secondMem firstLive secondLive
  exact ⟨nonces, sound.owned first firstMem second secondMem nonces⟩

/-- A change of phases that depends on the nonce and the phase alone keeps one owner and one
phase for each nonce, so the rest of the invariant is what it has to be shown to keep. -/
theorem Sound.rephase (sound : Sound lane) {phase : ℕ → Phase → Phase} {floor : ℕ}
    {reopened : List ℕ}
    (single : ∀ first ∈ lane.slots, ∀ second ∈ lane.slots,
      phase first.nonce first.phase = .live → phase second.nonce second.phase = .live →
      first.nonce = second.nonce)
    (waiting : ∀ first ∈ lane.slots, ∀ second ∈ lane.slots,
      phase first.nonce first.phase ≠ .settled → phase second.nonce second.phase ≠ .settled →
      first.nonce ∉ reopened → second.nonce ∉ reopened → first.nonce = second.nonce)
    (below : ∀ slot ∈ lane.slots, phase slot.nonce slot.phase = .settled → slot.nonce < floor) :
    Sound ⟨lane.rephase phase, floor, reopened⟩ := by
  constructor
  case below =>
    intro slot member settled
    obtain ⟨old, oldMem, rfl⟩ := Lane.mem_rephase.mp member
    exact below old oldMem settled
  all_goals
    intro first firstMem second secondMem
    obtain ⟨oldFirst, oldFirstMem, rfl⟩ := Lane.mem_rephase.mp firstMem
    obtain ⟨oldSecond, oldSecondMem, rfl⟩ := Lane.mem_rephase.mp secondMem
  case single => exact single oldFirst oldFirstMem oldSecond oldSecondMem
  case owned => exact sound.owned oldFirst oldFirstMem oldSecond oldSecondMem
  case together =>
    intro nonces
    have phases := sound.together oldFirst oldFirstMem oldSecond oldSecondMem nonces
    have nonces : oldFirst.nonce = oldSecond.nonce := nonces
    simp only [nonces, phases]
  case waiting => exact waiting oldFirst oldFirstMem oldSecond oldSecondMem

/-! ### One move keeps the invariant -/

theorem forall_append_singleton {slots : List (Slot Owner)} {added : Slot Owner}
    {related : Slot Owner → Slot Owner → Prop}
    (symmetric : ∀ first second, related first second → related second first)
    (old : ∀ first ∈ slots, ∀ second ∈ slots, related first second)
    (new : ∀ first ∈ slots, related first added) (self : related added added) :
    ∀ first ∈ slots ++ [added], ∀ second ∈ slots ++ [added], related first second := by
  intro first firstMem second secondMem
  rcases List.mem_append.mp firstMem with firstOld | firstNew
  · rcases List.mem_append.mp secondMem with secondOld | secondNew
    · exact old first firstOld second secondOld
    · rw [List.mem_singleton.mp secondNew]
      exact new first firstOld
  · rw [List.mem_singleton.mp firstNew]
    rcases List.mem_append.mp secondMem with secondOld | secondNew
    · exact symmetric second added (new second secondOld)
    · rw [List.mem_singleton.mp secondNew]
      exact self

section

variable (sound : Sound lane)
  (clear : ∀ slot ∈ lane.slots, slot.phase = .live → slot.nonce = nonce ∧ slot.owner = owner)
  (turn : (∃ slot ∈ lane.slots, slot.phase = .live ∧ slot.nonce = nonce) ∨
    (lane.floor ≤ nonce ∧ (∀ slot ∈ lane.slots, slot.phase ≠ .parked) ∧ lane.reopened = []))

include sound clear turn

/-- The slots that share a nonce with an admitted slot are live and have its owner: they are the
slots it joins, or, for the first slot of some work, there are none below the floor. -/
theorem Sound.beside_admitted
    (member : slot ∈ lane.slots) (same : slot.nonce = nonce) :
    slot.phase = .live ∧ slot.owner = owner := by
  have isLive : slot.phase = .live := by
    rcases turn with ⟨joined, joinedMem, joinedLive, joinedNonce⟩ | ⟨above, unparked, -⟩
    · rw [sound.together slot member joined joinedMem (same.trans joinedNonce.symm)]
      exact joinedLive
    · cases phase : slot.phase with
      | live => rfl
      | parked => exact absurd phase (unparked slot member)
      | settled =>
        have low := sound.below slot member phase
        omega
  exact ⟨isLive, (clear slot member isLive).2⟩

/-- The open slots beside an admitted slot whose nonce was not taken back share its nonce. -/
theorem Sound.waiting_admitted
    (member : slot ∈ lane.slots) (isOpen : slot.phase ≠ .settled)
    (slotKept : slot.nonce ∉ lane.reopened) (nonceKept : nonce ∉ lane.reopened) :
    slot.nonce = nonce := by
  rcases turn with ⟨joined, joinedMem, joinedLive, joinedNonce⟩ | ⟨-, unparked, -⟩
  · have joinedOpen : joined.phase ≠ .settled := by
      rw [joinedLive]
      decide
    rw [← joinedNonce] at nonceKept ⊢
    exact sound.waiting slot member joined joinedMem isOpen joinedOpen slotKept nonceKept
  · cases phase : slot.phase with
    | live => exact (clear slot member phase).1
    | parked => exact absurd phase (unparked slot member)
    | settled => exact absurd phase isOpen

/-- Admitting a slot keeps the invariant. -/
theorem Sound.enter :
    Sound { lane with slots := lane.slots ++ [⟨nonce, owner, .live⟩] } where
  single := forall_append_singleton
    (fun _ _ related firstLive secondLive => (related secondLive firstLive).symm) sound.single
    (fun first member isLive _ => (clear first member isLive).1) fun _ _ => rfl
  owned := forall_append_singleton (fun _ _ related nonces => (related nonces.symm).symm)
    sound.owned (fun _ member same => (sound.beside_admitted clear turn member same).2)
    fun _ => rfl
  together := forall_append_singleton (fun _ _ related nonces => (related nonces.symm).symm)
    sound.together (fun _ member same => (sound.beside_admitted clear turn member same).1)
    fun _ => rfl
  waiting := forall_append_singleton
    (fun _ _ related firstOpen secondOpen firstKept secondKept =>
      (related secondOpen firstOpen secondKept firstKept).symm) sound.waiting
    (fun _ member isOpen _ slotKept nonceKept =>
      sound.waiting_admitted clear turn member isOpen slotKept nonceKept)
    fun _ _ _ _ => rfl
  below := by
    intro slot member settled
    rcases List.mem_append.mp member with old | new
    · exact sound.below slot old settled
    · rw [List.mem_singleton.mp new] at settled
      exact nomatch settled

end

/-- Settling a nonce keeps the invariant. -/
theorem Sound.settle (sound : Sound lane) {floor : ℕ} (above : nonce < floor)
    (raised : lane.floor ≤ floor) :
    Sound
      { slots := lane.rephase (settling nonce), floor := floor,
        reopened := lane.reopened.filter (· ≠ nonce) } := by
  have unchanged : ∀ old : Slot Owner, settling nonce old.nonce old.phase ≠ .settled →
      old.nonce ≠ nonce ∧ settling nonce old.nonce old.phase = old.phase := by
    intro old isOpen
    unfold settling at isOpen ⊢
    split at isOpen
    · exact absurd rfl isOpen
    · rename_i other
      exact ⟨other, if_neg other⟩
  refine sound.rephase (fun first firstMem second secondMem firstLive secondLive => ?_) ?_ ?_
  · have firstSame := (unchanged first (by rw [firstLive]; decide)).2
    have secondSame := (unchanged second (by rw [secondLive]; decide)).2
    exact sound.single first firstMem second secondMem (firstSame ▸ firstLive)
      (secondSame ▸ secondLive)
  · intro first firstMem second secondMem firstOpen secondOpen firstKept secondKept
    have firstSame := unchanged first firstOpen
    have secondSame := unchanged second secondOpen
    refine sound.waiting first firstMem second secondMem (firstSame.2 ▸ firstOpen)
      (secondSame.2 ▸ secondOpen) (fun back => firstKept ?_) (fun back => secondKept ?_)
    · exact List.mem_filter.mpr ⟨back, decide_eq_true firstSame.1⟩
    · exact List.mem_filter.mpr ⟨back, decide_eq_true secondSame.1⟩
  · intro old oldMem settled
    by_cases same : old.nonce = nonce
    · exact same ▸ above
    · rw [settling, if_neg same] at settled
      exact (sound.below old oldMem settled).trans_le raised

/-- Taking a nonce back keeps the invariant: it has the lane alone. -/
theorem Sound.reopen (sound : Sound lane) (nonce : ℕ) :
    Sound { lane with
      slots := lane.rephase (reopening nonce), reopened := nonce :: lane.reopened } := by
  have alone : ∀ {old : Slot Owner}, reopening nonce old.nonce old.phase = .live →
      old.nonce = nonce := by
    intro old isLive
    unfold reopening at isLive
    split at isLive
    · assumption
    · cases phase : old.phase <;> rw [phase] at isLive <;> exact nomatch isLive
  have stays : ∀ {old : Slot Owner}, reopening nonce old.nonce old.phase ≠ .settled →
      old.nonce ≠ nonce → old.phase ≠ .settled := by
    intro old isOpen other settled
    rw [reopening, if_neg other, settled] at isOpen
    exact isOpen rfl
  refine sound.rephase (fun first _ second _ firstLive secondLive =>
    (alone firstLive).trans (alone secondLive).symm) ?_ fun old oldMem settled => ?_
  · intro first firstMem second secondMem firstOpen secondOpen firstKept secondKept
    have firstOther := not_or.mp (mt List.mem_cons.mpr firstKept)
    have secondOther := not_or.mp (mt List.mem_cons.mpr secondKept)
    exact sound.waiting first firstMem second secondMem
      (stays firstOpen firstOther.1) (stays secondOpen secondOther.1) firstOther.2 secondOther.2
  · refine sound.below old oldMem ?_
    unfold reopening at settled
    split at settled
    · exact nomatch settled
    · cases phase : old.phase <;> rw [phase] at settled <;> first | rfl | exact nomatch settled

theorem Sound.park (sound : Sound lane) : Sound { lane with slots := lane.rephase parking } := by
  have settled : ∀ phase : Phase, phase.park = .settled ↔ phase = .settled := by
    intro phase
    cases phase <;> decide
  have notLive : ∀ phase : Phase, phase.park ≠ .live := by
    intro phase
    cases phase <;> decide
  exact sound.rephase (fun _ _ _ _ firstLive => absurd firstLive (notLive _))
    (fun first firstMem second secondMem firstOpen secondOpen =>
      sound.waiting first firstMem second secondMem (mt (settled _).mpr firstOpen)
        (mt (settled _).mpr secondOpen))
    fun slot member isSettled => sound.below slot member ((settled _).mp isSettled)

/-- Returning the parked slots keeps the invariant once nothing that was taken back is open: the
open slots are then those that waited, and they have one nonce. -/
theorem Sound.unpark (sound : Sound lane) (done : lane.reopened = []) :
    Sound { lane with slots := lane.rephase unparking } := by
  have settled : ∀ phase : Phase, phase.unpark = .settled ↔ phase = .settled := by
    intro phase
    cases phase <;> decide
  have wasOpen : ∀ phase : Phase, phase.unpark = .live → phase ≠ .settled := by
    intro phase
    cases phase <;> decide
  have noneBack : ∀ nonce, nonce ∉ lane.reopened := by
    intro nonce
    rw [done]
    exact List.not_mem_nil
  exact sound.rephase
    (fun first firstMem second secondMem firstLive secondLive =>
      sound.waiting first firstMem second secondMem (wasOpen _ firstLive) (wasOpen _ secondLive)
        (noneBack _) (noneBack _))
    (fun first firstMem second secondMem firstOpen secondOpen =>
      sound.waiting first firstMem second secondMem (mt (settled _).mpr firstOpen)
        (mt (settled _).mpr secondOpen))
    fun slot member isSettled => sound.below slot member ((settled _).mp isSettled)

theorem Sound.raise (sound : Sound lane) {floor : ℕ} (raised : lane.floor ≤ floor) :
    Sound { lane with floor := floor } :=
  { sound with
    below := fun slot member settled => (sound.below slot member settled).trans_le raised }

/-- Every move keeps the invariant. -/
theorem Sound.step (sound : Sound before) (move : Move before after) : Sound after := by
  cases move with
  | enter nonce owner clear turn => exact sound.enter clear turn
  | settle nonce floor above raised => exact sound.settle above raised
  | reopen nonce => exact sound.reopen nonce
  | park => exact sound.park
  | unpark done => exact sound.unpark done
  | raise floor raised => exact sound.raise raised

end NonceLane
