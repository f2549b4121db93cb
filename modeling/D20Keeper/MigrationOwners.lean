/-
This file proves that the locks of a migration have one owner at a time: in every state that any
number of interrupted calls can leave, no lock carries the source's binding while another carries
the destination's, as long as the repair of torn bindings does not grant a lock too early.
-/

import D20Keeper.MigrationCalls

namespace D20.Migration

open CrashWrites

variable {plan : Plan} {codec : Codec plan} {tears : Lock → Json → List Char → Prop}

/-! ### One owner's bindings at a time -/

/-- No lock carries the binding of the source, or none that of the destination. -/
def Without (codec : Codec plan) (old : Bool) (disk : Disk) : Prop :=
  disk.All fun lock => codec.parse lock.bytes ≠ some (plan.binding old)

/-- If some lock carries the destination's binding then no lock carries the source's. -/
def Exclusive (codec : Codec plan) (disk : Disk) : Prop :=
  ∀ lock ∈ disk.locks.rows, codec.parse lock.bytes = some (plan.binding false) →
    ∀ other ∈ disk.locks.rows, codec.parse other.bytes ≠ some (plan.binding true)

variable {disk : Disk} {lock : Lock} {mode : Mode}

theorem exclusive_iff :
    Exclusive codec disk ↔ Without codec false disk ∨ Without codec true disk := by
  constructor
  · intro exclusive
    by_cases noDestination : Without codec false disk
    · exact .inl noDestination
    · unfold Without Disk.All at noDestination
      push Not at noDestination
      obtain ⟨lock, member, carries⟩ := noDestination
      exact .inr (exclusive lock member carries)
  · rintro (noDestination | noSource) lock member carries
    · exact absurd carries (noDestination lock member)
    · exact noSource

/-- A torn write does not make the lock read as the source's or as the destination's, unless the
lock was read so before or that binding is what is written. -/
def Unforged (codec : Codec plan) (lock : Lock) (value : Json) (left : List Char) : Prop :=
  ∀ old, codec.parse left = some (plan.binding old) →
    codec.parse lock.bytes = some (plan.binding old) ∨ value = plan.binding old

theorem keeps_without {old : Bool} {write : Write}
    (writes : Writes (fun value => codec.parse (codec.render value) = some value ∧
      value ≠ plan.binding old) write) :
    Keeps (device codec (Unforged codec)) (Without codec old) write := by
  refine keeps_all fun name value isBinding lock _ other => ?_
  obtain ⟨whole, notOld⟩ := writes name value isBinding
  refine ⟨fun reads => notOld (Option.some.inj (whole.symm.trans reads)), ?_⟩
  intro bytes unforged reads
  rcases unforged old reads with before | written
  · exact other before
  · exact notOld written

/-- A lock that is not the source's does not carry its binding where the migration may find it. -/
theorem Valid.not_source {resume : Bool} (valid : Valid codec resume lock)
    (notOld : lock.old = false) : codec.parse lock.bytes ≠ some (plan.binding true) := by
  intro reads
  obtain ⟨actual, read, allowed⟩ := valid
  cases Except.ok.inj (read.symm.trans (readBinding_eq_some.mpr reads))
  unfold allowedBinding at allowed
  rw [notOld] at allowed
  simp only [Bool.false_eq_true, if_false, Bool.or_eq_true, Bool.and_eq_true, beq_iff_eq, reduceCtorEq,
    Option.some.injEq, false_or] at allowed
  exact plan.source_ne_destination allowed.2

/-- Once the source's locks are revoked, no lock carries its binding. -/
theorem without_revoked {resume : Bool} (valid : disk.All (Valid codec resume)) :
    Without codec true (writeAll (device codec tears) disk
      (bindLocks disk.locks.rows Lock.old plan.tombstone)) := by
  obtain ⟨locks, result, rows⟩ := writeAll_bindLocks codec tears Lock.old plan.tombstone disk
  rw [result]
  intro lock member
  obtain ⟨before, beforeMem, rfl⟩ := List.mem_map.mp (rows ▸ member)
  split
  case isTrue =>
    intro reads
    obtain ⟨whole, notSource⟩ := @tombstone_whole plan codec true
    exact notSource (Option.some.inj (whole.symm.trans reads))
  case isFalse notOld =>
    exact (valid before beforeMem).not_source (eq_false_of_ne_true notOld)

/-- A resumed call that has to repair a lock of the destination finds no lock that still carries the
source's binding. -/
def GrantsLate (codec : Codec plan) (disk : Disk) (mode : Mode) : Prop :=
  mode = .resume → ¬disk.All (Valid codec disk.recorded) →
    (∃ lock ∈ disk.locks.rows, lock.new = true ∧ codec.parse lock.bytes = none) →
    Without codec true disk

/-- The locks that are accepted carry no binding of the source, or none of the destination. -/
theorem Checked.exclusive {checked : Disk} (isChecked : Checked codec mode disk checked)
    (repairing : ∀ repaired left, repairs codec mode disk = .ok repaired →
      Leaves (device codec (Unforged codec)) disk repaired left →
      Without codec false left ∨ Without codec true left) :
    Without codec false checked ∨ Without codec true checked := by
  obtain ⟨repaired, found, rfl, -⟩ := isChecked
  exact repairing repaired _ found (.all _ _)

/-- A repair gives no lock the destination's binding while another carries the source's. -/
theorem exclusive_of_repairs {left : Disk} {repaired : List Write}
    (late : GrantsLate codec disk mode)
    (exclusive : Without codec false disk ∨ Without codec true disk)
    (found : repairs codec mode disk = .ok repaired)
    (leaves : Leaves (device codec (Unforged codec)) disk repaired left) :
    Without codec false left ∨ Without codec true left := by
  by_cases noSource : Without codec true disk
  · refine .inr (leaves.holds (fun write member => ?_) noSource)
    refine keeps_without (writes_repairs found (fun lock _ _ => ?_) write member)
    unfold Plan.final
    split
    · exact destination_whole
    · exact tombstone_whole true
  · have noDestination : Without codec false disk := exclusive.resolve_right noSource
    refine .inl (leaves.holds (fun write member => ?_) noDestination)
    refine keeps_without (writes_repairs found (fun lock lockMem torn => ?_) write member)
    unfold Plan.final
    split
    case isFalse => exact tombstone_whole false
    case isTrue isNew =>
      rcases repairs_eq_ok found with ⟨rfl, -⟩ | ⟨invalid, -, resumes, -⟩
      · exact nomatch member
      · exact absurd (late resumes invalid ⟨lock, lockMem, isNew, torn⟩) noSource

/-- The handover revokes every lock of the source before it grants one. -/
theorem exclusive_of_handover {resume : Bool} {disk left : Disk}
    (valid : disk.All (Valid codec resume))
    (exclusive : Without codec false disk ∨ Without codec true disk)
    (leaves : Leaves (device codec (Unforged codec)) disk (handover plan disk.locks.rows) left) :
    Without codec false left ∨ Without codec true left := by
  rcases leaves.append with early | leaves
  · rcases exclusive with noDestination | noSource
    · exact .inl (early.holds (fun write member =>
        keeps_without (writes_bindLocks (tombstone_whole false) member)) noDestination)
    · exact .inr (early.holds (fun write member =>
        keeps_without (writes_bindLocks (tombstone_whole true) member)) noSource)
  · exact .inr (leaves.holds (fun write member =>
      keeps_without (writes_bindLocks destination_whole member)) (without_revoked valid))

theorem Final.not_source (final : Final codec lock) :
    codec.parse lock.bytes ≠ some (plan.binding true) := by
  rw [final]
  intro same
  unfold Plan.final at same
  split at same
  · exact plan.source_ne_destination (Option.some.inj same).symm
  · exact plan.tombstone_ne_binding true (Option.some.inj same)

/-- A call leaves one side without bindings wherever it crashes. -/
theorem Outcome.exclusive {left : Disk} (late : GrantsLate codec disk mode)
    (exclusive : Without codec false disk ∨ Without codec true disk)
    (outcome : Outcome codec (Unforged codec) mode disk left) :
    Without codec false left ∨ Without codec true left := by
  have accepted : ∀ checked, Checked codec mode disk checked →
      Without codec false checked ∨ Without codec true checked :=
    fun checked isChecked => isChecked.exclusive fun _ _ => exclusive_of_repairs late exclusive
  cases outcome with
  | same => exact exclusive
  | repairing found leaves => exact exclusive_of_repairs late exclusive found leaves
  | @blocked checked isChecked => exact accepted checked isChecked
  | @marked checked isChecked => exact accepted checked isChecked
  | @unblocked checked isChecked => exact accepted checked isChecked
  | @placing checked isChecked => exact accepted checked isChecked
  | @binding checked _ isChecked _ leaves =>
    obtain ⟨_, -, -, valid⟩ := id isChecked
    exact @exclusive_of_handover _ _ _ checked.marked.placed _ valid
      (accepted checked isChecked) leaves
  | finished _ _ final => exact .inr fun lock member => (final lock member).not_source

/-- A lock that the migration may find at its start does not carry the destination's binding. -/
theorem Valid.not_destination (valid : Valid codec false lock) :
    codec.parse lock.bytes ≠ some (plan.binding false) := by
  intro reads
  obtain ⟨actual, read, allowed⟩ := valid
  cases Except.ok.inj (read.symm.trans (readBinding_eq_some.mpr reads))
  unfold allowedBinding at allowed
  simp only [Bool.false_and, Bool.or_false] at allowed
  split at allowed
  · exact plan.source_ne_destination (Option.some.inj (beq_iff_eq.mp allowed)).symm
  · exact nomatch beq_iff_eq.mp allowed

/-- In every state that calls of a migration leave, wherever they crash, no lock carries the
source's binding if some lock carries the destination's, as long as no repair grants a lock too
early and no torn write forges a binding. -/
theorem destination_excludes_source {plan : Plan} {codec : Codec plan} {start disk : Disk}
    (valid : start.All (Valid codec false))
    (lives : Lives (device codec (Unforged codec)) (Calls codec (GrantsLate codec)) start disk) :
    Exclusive codec disk := by
  have first : Without codec false start := fun lock member => (valid lock member).not_destination
  rw [exclusive_iff]
  refine @Lives.keeps _ _ _ _ _ _ (fun disk => Without codec false disk ∨ Without codec true disk)
    (.inl first) ?_ lives
  rintro before writes left exclusive ⟨mode, late, rfl⟩ leaves
  exact (outcome_of_leaves leaves).exclusive late exclusive

/-- A crash in the tombstone of the wallet's lock leaves no lock with the source's binding, so the
resumed migration may grant the locks it has to repair. -/
theorem destination_excludes_source_repaired :
    Exclusive (Text.codec sharedWallet) (writeAll (device (Text.codec sharedWallet)
      (Unforged (Text.codec sharedWallet))) (walletTorn 110)
        (run (Text.codec sharedWallet) .resume (walletTorn 110)).1) := by
  have crashes : Leaves (device (Text.codec sharedWallet) (Unforged (Text.codec sharedWallet)))
      sharedWalletStart (run (Text.codec sharedWallet) .apply sharedWalletStart).1 (walletTorn 110) := by
    refine leaves_torn run_sharedWallet (by decide +kernel) ?_
    have unread : ∀ lock ∈ (writeAll (device (Text.codec sharedWallet) fun _ _ _ => True)
        sharedWalletStart sharedWalletWrites).locks.rows, lock.name = ⟨.wallet, 3⟩ →
        (Text.codec sharedWallet).parse
          (tornBytes (Text.codec sharedWallet) sharedWallet.tombstone 110 lock.bytes) = none := by
      decide +kernel
    intro lock member isName old reads
    exact nomatch (unread lock member isName).symm.trans reads
  have revoked : Without (Text.codec sharedWallet) true (walletTorn 110) := by
    unfold Without Disk.All
    decide +kernel
  refine destination_excludes_source (valid_startDisk _ _) ?_
  refine .run (.run .start ⟨.apply, nofun, rfl⟩ crashes) ⟨.resume, fun _ _ _ => revoked, rfl⟩ ?_
  exact .all _ _

/-- A crash in the tombstone of the old coordinator's lock leaves the wallet's lock with the
source's binding, and the resumed migration grants the new coordinator's lock before it revokes it.
-/
theorem repair_grants_too_early :
    ∃ disk, Lives (device (Text.codec sharedWallet) fun _ _ _ => True)
        (Calls (Text.codec sharedWallet) fun _ _ => True)
        (sharedWallet.startDisk (Text.codec sharedWallet)) disk ∧
      ¬Exclusive (Text.codec sharedWallet) disk := by
  have crashes : Leaves (device (Text.codec sharedWallet) fun _ _ _ => True) sharedWalletStart
      (run (Text.codec sharedWallet) .apply sharedWalletStart).1 (coordinatorTorn 110) :=
    leaves_torn run_sharedWallet (by decide +kernel) fun _ _ _ => trivial
  have repairs : (run (Text.codec sharedWallet) .resume (coordinatorTorn 110)).1 =
      [.binding ⟨.coordinator, 1⟩ sharedWallet.tombstone,
        .binding ⟨.coordinator, 2⟩ (sharedWallet.binding false)] ++
      (run (Text.codec sharedWallet) .resume (coordinatorTorn 110)).1.drop 2 := by
    decide +kernel
  have again : Leaves (device (Text.codec sharedWallet) fun _ _ _ => True) (coordinatorTorn 110)
      (run (Text.codec sharedWallet) .resume (coordinatorTorn 110)).1
      (writeAll (device (Text.codec sharedWallet) fun _ _ _ => True) (coordinatorTorn 110)
        [.binding ⟨.coordinator, 1⟩ sharedWallet.tombstone,
          .binding ⟨.coordinator, 2⟩ (sharedWallet.binding false)]) := by
    rw [repairs]
    exact .after (.here _ _)
  refine ⟨_, .run (.run .start ⟨.apply, trivial, rfl⟩ crashes) ⟨.resume, trivial, rfl⟩ again, ?_⟩
  unfold Exclusive
  decide +kernel

end D20.Migration
