/-
This file proves when the journals of a migration can start and that the migration is completed. In
every state that any number of interrupted calls can leave, the destination starts only after the
source is blocked for good, the migration is complete and every lock holds what it should. From
every such state a call that resumes the migration and does not crash completes it, as long as no
torn binding can be read as a binding of something else.
-/

import D20Keeper.MigrationCalls

namespace D20.Migration

open CrashWrites
open Journal (ensure ensure_eq_ok bind_eq_ok)

variable {plan : Plan} {codec : Codec plan} {tears : Lock → Json → List Char → Prop}

/-! ### The order of the records -/

/-- The records stand in the order in which they are made: the source is blocked before the intent,
the destination is there only behind its marker or once the migration is complete, and then every
lock holds what it holds in the end. -/
structure Ordered (codec : Codec plan) (disk : Disk) : Prop where
  intent : disk.intent = true → disk.oldMarker = true
  newMarker : disk.newMarker = true → disk.intent = true
  destination : disk.destination = true →
    disk.intent = true ∧ (disk.newMarker = true ∨ disk.complete = true)
  complete : disk.complete = true → disk.destination = true ∧ disk.All (Final codec)

/-- The records and the destination are there, and the locks are being written. -/
structure Working (disk : Disk) : Prop where
  oldMarker : disk.oldMarker = true
  intent : disk.intent = true
  newMarker : disk.newMarker = true
  destination : disk.destination = true
  unfinished : disk.complete = false

variable {disk left : Disk} {locks : List Lock} {write : Write} {mode : Mode}
  {repaired : List Write}

theorem Working.ordered (working : Working disk) : Ordered codec disk where
  intent _ := working.oldMarker
  newMarker _ := working.intent
  destination _ := ⟨working.intent, .inl working.newMarker⟩
  complete isComplete := nomatch working.unfinished.symm.trans isComplete

theorem keeps_working {name : LockName} {value : Json} :
    Keeps (device codec tears) Working (.binding name value) := by
  refine ⟨fun disk working => ?_, fun disk left working tear => ?_⟩
  · exact ⟨working.oldMarker, working.intent, working.newMarker, working.destination,
      working.unfinished⟩
  · cases tear
    exact ⟨working.oldMarker, working.intent, working.newMarker, working.destination,
      working.unfinished⟩

theorem keeps_working_of_mem {value : Lock → Json}
    (member : write ∈ locks.map fun lock => Write.binding lock.name (value lock)) :
    Keeps (device codec tears) Working write := by
  obtain ⟨lock, -, rfl⟩ := List.mem_map.mp member
  exact keeps_working

theorem working_of_handover (unfinished : disk.complete = false)
    (leaves : Leaves (device codec tears) disk.marked.placed (handover plan locks) left) :
    Working left := by
  have placed : Working disk.marked.placed := ⟨rfl, rfl, rfl, rfl, unfinished⟩
  refine leaves.holds (fun write member => ?_) placed
  rcases List.mem_append.mp member with revoked | granted
  · exact keeps_working_of_mem revoked
  · exact keeps_working_of_mem granted

theorem repairs_working (ordered : Ordered codec disk)
    (found : repairs codec mode disk = .ok repaired) : repaired = [] ∨ Working disk := by
  rcases repairs_eq_ok found with ⟨none, -⟩ |
    ⟨invalid, recorded, -, ⟨intent, oldMarker, newMarker, destination⟩, -⟩
  · exact .inl none
  · refine .inr ⟨oldMarker, intent, newMarker, destination, ?_⟩
    refine eq_false_of_ne_true fun isComplete => invalid ?_
    rw [recorded]
    exact fun lock member => ((ordered.complete isComplete).2 lock member).valid

theorem working_of_repairs (ordered : Ordered codec disk)
    (found : repairs codec mode disk = .ok repaired)
    (leaves : Leaves (device codec tears) disk repaired left) : left = disk ∨ Working left := by
  rcases repairs_working ordered found with rfl | working
  · exact .inl leaves.eq_of_nil
  · rcases repairs_eq_ok found with ⟨rfl, -⟩ | ⟨-, -, -, -, -, rfl⟩
    · exact .inl leaves.eq_of_nil
    · exact .inr (leaves.holds (fun write member => keeps_working_of_mem member) working)

theorem Ordered.of_repairs (ordered : Ordered codec disk)
    (found : repairs codec mode disk = .ok repaired)
    (leaves : Leaves (device codec tears) disk repaired left) : Ordered codec left := by
  rcases working_of_repairs ordered found leaves with rfl | working
  · exact ordered
  · exact working.ordered

theorem Checked.ordered {checked : Disk} (isChecked : Checked codec mode disk checked)
    (ordered : Ordered codec disk) : Ordered codec checked := by
  obtain ⟨repaired, found, rfl, -⟩ := isChecked
  exact ordered.of_repairs found (.all _ _)

/-- A call leaves the records in their order wherever it crashes. -/
theorem Outcome.ordered (ordered : Ordered codec disk)
    (outcome : Outcome codec tears mode disk left) : Ordered codec left := by
  cases outcome with
  | same => exact ordered
  | repairing found leaves => exact ordered.of_repairs found leaves
  | @blocked checked isChecked =>
    have ordered := isChecked.ordered ordered
    exact ⟨fun _ => rfl, ordered.newMarker, ordered.destination, ordered.complete⟩
  | @marked checked isChecked =>
    have ordered := isChecked.ordered ordered
    exact ⟨fun _ => rfl, fun _ => rfl, fun there => ⟨rfl, (ordered.destination there).2⟩,
      ordered.complete⟩
  | @unblocked checked isChecked isComplete =>
    have ordered := isChecked.ordered ordered
    exact ⟨fun _ => rfl, nofun, fun _ => ⟨rfl, .inr isComplete⟩, ordered.complete⟩
  | @placing checked isChecked =>
    have ordered := isChecked.ordered ordered
    exact ⟨fun _ => rfl, fun _ => rfl, fun _ => ⟨rfl, .inl rfl⟩, ordered.complete⟩
  | binding isChecked unfinished leaves => exact (working_of_handover unfinished leaves).ordered
  | finished isChecked unfinished final =>
    exact ⟨fun _ => rfl, fun _ => rfl, fun _ => ⟨rfl, .inr rfl⟩, fun _ => ⟨rfl, final⟩⟩

theorem Fresh.ordered (fresh : Fresh disk) : Ordered codec disk := by
  obtain ⟨-, intent, newMarker, destination, complete⟩ := fresh
  refine ⟨fun there => ?_, fun there => ?_, fun there => ?_, fun there => ?_⟩
  · exact nomatch intent.symm.trans there
  · exact nomatch newMarker.symm.trans there
  · exact nomatch destination.symm.trans there
  · exact nomatch complete.symm.trans there

/-- The records are in their order in every state that calls leave. -/
theorem ordered_of_lives {condition : Disk → Mode → Prop} {start : Disk} (fresh : Fresh start)
    (lives : Lives (device codec tears) (Calls codec condition) start disk) :
    Ordered codec disk := by
  refine lives.keeps fresh.ordered ?_
  rintro before writes left ordered ⟨mode, -, rfl⟩ leaves
  exact (outcome_of_leaves leaves).ordered ordered

/-! ### Locks that can be repaired -/

/-- A torn write leaves bytes that cannot be read, or a binding that the repair leaves. -/
def Readable (codec : Codec plan) (lock : Lock) (_ : Json) (left : List Char) : Prop :=
  Repairable codec (lock.withBytes left)

/-- Once a record is there, every lock can be repaired, and the destination is there or no lock has
been written. -/
structure Recoverable (codec : Codec plan) (disk : Disk) : Prop where
  repairable : disk.recorded = true → disk.All (Repairable codec)
  started : disk.recorded = true → disk.destination = true ∨ disk.All (Valid codec false)

/-- The lock is one of the given ones, up to its bytes. -/
def Known (locks : List Lock) (lock : Lock) : Prop :=
  ∃ bytes, lock.withBytes bytes ∈ locks

/-- A binding that the repair leaves is written to the lock it is for. -/
def Fits (codec : Codec plan) (locks : List Lock) (write : Write) : Prop :=
  ∀ name value, write = .binding name value → ∃ lock ∈ locks, lock.name = name ∧
    codec.parse (codec.render value) = some value ∧ repairable plan lock value = true

/-- Fitting writes leave every lock repairable, torn or whole. -/
theorem keeps_repairable {locks : Table Lock LockName Lock.name}
    (fits : Fits codec locks.rows write) :
    Keeps (device codec (Readable codec))
      (fun disk => disk.All fun lock => Repairable codec lock ∧ Known locks.rows lock) write := by
  refine keeps_all fun name value isBinding lock isName holds => ?_
  obtain ⟨target, member, targetName, whole, fitting⟩ := fits name value isBinding
  obtain ⟨bytes, known⟩ := holds.2
  have same : lock.withBytes bytes = target :=
    locks.eq_of_key_eq known member (isName.trans targetName.symm)
  refine ⟨⟨fun actual reads => ?_, bytes, known⟩, fun left readable => ⟨readable, bytes, known⟩⟩
  cases Option.some.inj (whole.symm.trans reads)
  rw [← same] at fitting
  exact fitting

theorem known_of_mem {lock : Lock} (member : lock ∈ locks) : Known locks lock :=
  ⟨lock.bytes, member⟩

theorem repairable_of_leaves {writes : List Write} (all : disk.All (Repairable codec))
    (fits : ∀ write ∈ writes, Fits codec disk.locks.rows write)
    (leaves : Leaves (device codec (Readable codec)) disk writes left) :
    left.All (Repairable codec) := by
  have known : disk.All fun lock => Repairable codec lock ∧ Known disk.locks.rows lock :=
    fun lock member => ⟨all lock member, known_of_mem member⟩
  have kept := leaves.holds (fun write member => keeps_repairable (fits write member)) known
  exact fun lock member => (kept lock member).1

theorem final_whole (lock : Lock) :
    codec.parse (codec.render (plan.final lock)) = some (plan.final lock) := by
  unfold Plan.final
  split
  · exact destination_whole.1
  · exact (tombstone_whole true).1

theorem fits_handover (member : write ∈ handover plan locks) : Fits codec locks write := by
  rcases List.mem_append.mp member with revoked | granted
  · obtain ⟨lock, chosen, rfl⟩ := List.mem_map.mp revoked
    obtain ⟨lockMem, isOld⟩ := List.mem_filter.mp chosen
    rintro name value same
    cases same
    refine ⟨lock, lockMem, rfl, (tombstone_whole true).1, ?_⟩
    simp only [repairable, isOld, beq_self_eq_true, Bool.or_true, Bool.true_and, Bool.true_or]
  · obtain ⟨lock, chosen, rfl⟩ := List.mem_map.mp granted
    obtain ⟨lockMem, isNew⟩ := List.mem_filter.mp chosen
    rintro name value same
    cases same
    refine ⟨lock, lockMem, rfl, destination_whole.1, ?_⟩
    simp only [repairable, isNew, beq_self_eq_true, Bool.or_true, Bool.true_and]

/-- A repair leaves a disk from which the migration can be resumed. -/
theorem Recoverable.of_repairs (ordered : Ordered codec disk)
    (recoverable : Recoverable codec disk) (found : repairs codec mode disk = .ok repaired)
    (leaves : Leaves (device codec (Readable codec)) disk repaired left) :
    Recoverable codec left := by
  rcases repairs_eq_ok found with ⟨rfl, -⟩ | ⟨-, -, -, -, all, isRepaired⟩
  · rw [leaves.eq_of_nil]
    exact recoverable
  · rcases working_of_repairs ordered found leaves with same | working
    · rw [same]
      exact recoverable
    · refine ⟨fun _ => repairable_of_leaves all (fun write member => ?_) leaves,
        fun _ => .inl working.destination⟩
      obtain ⟨lock, torn, rfl⟩ := List.mem_map.mp (isRepaired ▸ member)
      rintro name value same
      cases same
      exact ⟨lock, (List.mem_filter.mp torn).1, rfl, final_whole lock, repairable_final lock⟩

/-- The locks that are accepted are repairable, and the destination is there or no lock has been
written. -/
theorem Checked.recoverable {checked : Disk} (isChecked : Checked codec mode disk checked)
    (ordered : Ordered codec disk) (recoverable : Recoverable codec disk) :
    checked.All (Repairable codec) ∧
      (checked.destination = true ∨ checked.All (Valid codec false)) := by
  obtain ⟨repaired, found, same, valid⟩ := isChecked
  refine ⟨fun lock member => (valid lock member).repairable, ?_⟩
  cases recorded : disk.recorded with
  | false =>
    rw [recorded] at valid
    exact .inr valid
  | true =>
    have leaves : Leaves (device codec (Readable codec)) disk repaired checked := same ▸ .all _ _
    rcases working_of_repairs ordered found leaves with rfl | working
    · exact recoverable.started recorded
    · exact .inl working.destination

/-- A call leaves a disk from which the migration can be resumed, wherever it crashes. -/
theorem Outcome.recoverable (ordered : Ordered codec disk) (recoverable : Recoverable codec disk)
    (outcome : Outcome codec (Readable codec) mode disk left) : Recoverable codec left := by
  cases outcome with
  | same => exact recoverable
  | repairing found leaves => exact recoverable.of_repairs ordered found leaves
  | @blocked checked isChecked =>
    obtain ⟨all, started⟩ := isChecked.recoverable ordered recoverable
    exact ⟨fun _ => all, fun _ => started⟩
  | @marked checked isChecked =>
    obtain ⟨all, started⟩ := isChecked.recoverable ordered recoverable
    exact ⟨fun _ => all, fun _ => started⟩
  | @unblocked checked isChecked =>
    obtain ⟨all, started⟩ := isChecked.recoverable ordered recoverable
    exact ⟨fun _ => all, fun _ => started⟩
  | @placing checked isChecked =>
    obtain ⟨all, started⟩ := isChecked.recoverable ordered recoverable
    exact ⟨fun _ => all, fun _ => started⟩
  | @binding checked left isChecked unfinished leaves =>
    obtain ⟨all, -⟩ := isChecked.recoverable ordered recoverable
    have fitting : ∀ write ∈ handover plan checked.locks.rows,
        Fits codec checked.marked.placed.locks.rows write := fun _ => fits_handover
    have placedAll : checked.marked.placed.All (Repairable codec) := all
    exact ⟨fun _ => repairable_of_leaves placedAll fitting leaves,
      fun _ => .inl (working_of_handover unfinished leaves).destination⟩
  | finished isChecked unfinished final =>
    exact ⟨fun _ lock member => (final lock member).valid.repairable, fun _ => .inl rfl⟩

/-- The migration can be resumed in every state that calls leave. -/
theorem recoverable_of_lives {condition : Disk → Mode → Prop} {start : Disk} (fresh : Fresh start)
    (lives : Lives (device codec (Readable codec)) (Calls codec condition) start disk) :
    Recoverable codec disk := by
  have unrecorded : start.recorded = false := by
    unfold Disk.recorded
    rw [fresh.1, fresh.2.1]
    rfl
  have first : Recoverable codec start := by
    constructor
    · rw [unrecorded]
      exact nofun
    · rw [unrecorded]
      exact nofun
  have both : Ordered codec disk ∧ Recoverable codec disk := by
    refine @Lives.keeps _ _ _ _ _ _ (fun disk => Ordered codec disk ∧ Recoverable codec disk)
      ⟨fresh.ordered, first⟩ ?_ lives
    rintro before writes left ⟨ordered, recoverable⟩ ⟨mode, -, rfl⟩ leaves
    have outcome := outcome_of_leaves leaves
    exact ⟨outcome.ordered ordered, outcome.recoverable ordered recoverable⟩
  exact both.2

/-! ### Resuming -/

/-- The migration is complete: the source is blocked, the destination is not, and every lock holds
what it holds in the end. -/
structure Completed (codec : Codec plan) (disk : Disk) : Prop where
  oldMarker : disk.oldMarker = true
  intent : disk.intent = true
  newMarker : disk.newMarker = false
  destination : disk.destination = true
  complete : disk.complete = true
  final : disk.All (Final codec)

/-- A disk with invalid locks is one on which a migration is working. -/
theorem Recoverable.working (ordered : Ordered codec disk) (recoverable : Recoverable codec disk)
    (recorded : disk.recorded = true) (invalid : ¬disk.All (Valid codec true)) : Working disk := by
  have unfinished : disk.complete = false := by
    refine eq_false_of_ne_true fun isComplete => invalid fun lock member => ?_
    exact ((ordered.complete isComplete).2 lock member).valid
  have destination : disk.destination = true := by
    refine (recoverable.started recorded).resolve_right fun valid => invalid fun lock member => ?_
    exact (valid lock member).resumed
  obtain ⟨intent, behind⟩ := ordered.destination destination
  refine ⟨ordered.intent intent, intent, behind.resolve_right fun isComplete => ?_, destination,
    unfinished⟩
  exact nomatch unfinished.symm.trans isComplete

/-- The repair gives every lock a binding that may be found. -/
theorem repaired_valid (all : disk.All (Repairable codec)) :
    (writeAll (device codec tears) disk
      ((disk.locks.rows.filter fun lock => (codec.parse lock.bytes).isNone).map
        fun lock => .binding lock.name (plan.final lock))).All (Valid codec true) := by
  obtain ⟨locks, result, rows⟩ := writeAll_chosen codec tears plan.final (fun _ _ => rfl)
    (fun lock => (codec.parse lock.bytes).isNone) disk
  rw [result]
  intro lock member
  obtain ⟨before, beforeMem, rfl⟩ := List.mem_map.mp (rows ▸ member)
  split
  case isTrue => exact Final.valid (final_whole before)
  case isFalse isRead =>
    rw [Option.isNone_iff_eq_none] at isRead
    obtain ⟨actual, reads⟩ := Option.ne_none_iff_exists'.mp isRead
    exact (all before beforeMem).valid reads

/-- A resumed call repairs the locks that it cannot read. -/
theorem exists_checked (ordered : Ordered codec disk) (recoverable : Recoverable codec disk)
    (recorded : disk.recorded = true) :
    ∃ repaired, repairs codec .resume disk = .ok repaired ∧
      (writeAll (device codec fun _ _ _ => True) disk repaired).All (Valid codec true) := by
  unfold repairs
  by_cases valid : disk.All (Valid codec true)
  · rw [recorded, validateBindings_eq_ok.mpr valid]
    exact ⟨[], rfl, valid⟩
  · have working := recoverable.working ordered recorded valid
    have all := recoverable.repairable recorded
    cases checked : validateBindings codec disk.recorded disk.locks.rows with
    | ok =>
      rw [recorded] at checked
      exact absurd (validateBindings_eq_ok.mp checked) valid
    | error =>
      refine ⟨_, ?_, repaired_valid all⟩
      have resumes : disk.recorded = true ∧ Mode.resume = .resume := ⟨recorded, rfl⟩
      dsimp only
      rw [if_pos resumes]
      unfold recoverBindings checkRecord
      rw [plan.identified _ List.mem_cons_self, working.intent, working.oldMarker, working.newMarker, working.destination,
        tornLocks_eq_ok.mpr ⟨all, rfl⟩]
      rfl

/-- The writes of a call whose checks succeed. -/
theorem run_eq {writes : List Write} (admitted : checkMode mode disk = .ok ())
    (applies : mode ≠ .prepare) (found : repairs codec mode disk = .ok repaired)
    (isLeft : left = writeAll (device codec fun _ _ _ => True) disk repaired)
    (valid : left.All (Valid codec disk.recorded))
    (moves : transition codec left.marked = .ok writes) :
    run codec mode disk = (repaired ++ records left ++ writes, .ok ()) := by
  have checks : (do identity plan.oldInstance; checkMode mode disk; repairs codec mode disk) =
      .ok repaired := by
    rw [plan.identified _ List.mem_cons_self, admitted]
    exact found
  unfold run
  rw [checks]
  dsimp only
  rw [← isLeft, validateBindings_eq_ok.mpr valid]
  dsimp only
  rw [if_neg applies]
  have moves' : transition codec { left with oldMarker := true, intent := true } = .ok writes := moves
  rw [moves']
  rfl

/-- A transition completes the migration. -/
theorem transition_completes {disk : Disk} (ordered : Ordered codec disk) :
    ∃ writes, transition codec disk.marked = .ok writes ∧
      Completed codec (writeAll (device codec tears) disk.marked writes) := by
  unfold transition
  cases isComplete : disk.complete with
  | true =>
    obtain ⟨destination, final⟩ := ordered.complete isComplete
    have isComplete' : disk.marked.complete = true := isComplete
    have destination' : disk.marked.destination = true := destination
    have final' : checkFinal codec disk.marked.locks.rows = .ok () := checkFinal_eq_ok.mpr final
    have marker : disk.marked.oldMarker = true := rfl
    rw [if_pos isComplete', destination', final', marker]
    refine ⟨_, rfl, ?_⟩
    split
    case isTrue => exact ⟨rfl, rfl, rfl, destination, isComplete, final⟩
    case isFalse removed =>
      exact ⟨rfl, rfl, eq_false_of_ne_true removed, destination, isComplete, final⟩
  | false =>
    have unfinished : ¬disk.marked.complete = true := fun there => nomatch isComplete.symm.trans there
    obtain ⟨locks, granted, final⟩ := @final_granted plan codec tears disk.marked.placed
    have written : writeAll (device codec tears) disk.marked.placed
        (bindLocks disk.marked.locks.rows Lock.old plan.tombstone ++
          bindLocks disk.marked.locks.rows Lock.new (plan.binding false)) =
        { disk.marked.placed with locks := locks } := granted
    rw [if_neg unfinished]
    refine ⟨_, rfl, ?_⟩
    rw [List.append_assoc (ensureRecord _ _ ++ ensureRecord _ _), writeAll_append, writeAll_append,
      writeAll_place, written]
    exact ⟨rfl, rfl, rfl, rfl, rfl, final⟩

/-- A resumed call that does not crash completes the migration. -/
theorem resume_completes (ordered : Ordered codec disk) (recoverable : Recoverable codec disk)
    (recorded : disk.recorded = true) :
    ∃ writes, run codec .resume disk = (writes, .ok ()) ∧
      Completed codec (writeAll (device codec tears) disk writes) := by
  obtain ⟨repaired, found, valid⟩ := exists_checked ordered recoverable recorded
  obtain ⟨checked, isChecked⟩ :
      ∃ checked, checked = writeAll (device codec fun _ _ _ => True) disk repaired := ⟨_, rfl⟩
  rw [← isChecked, ← recorded] at valid
  have checks : Checked codec .resume disk checked := ⟨repaired, found, isChecked, valid⟩
  obtain ⟨writes, moves, completed⟩ :=
    @transition_completes plan codec tears checked (checks.ordered ordered)
  have admitted : checkMode .resume disk = .ok () := by
    unfold checkMode
    rw [if_pos recorded]
    rfl
  refine ⟨_, run_eq admitted nofun found isChecked valid moves, ?_⟩
  have written : writeAll (device codec tears) disk repaired = checked := isChecked.symm
  rw [writeAll_append, writeAll_append, written, writeAll_records]
  exact completed

/-- In every state that calls of a migration leave, wherever they crash and whatever torn bindings
hold, the destination can start only if the source is blocked, the migration is recorded as complete
and every lock holds what it holds in the end, and never both journals can start. If no torn binding
can be read as a binding of something else, a resumed call completes the migration from each of
these states in which it has begun. -/
theorem one_owner_starts_and_resume_completes {plan : Plan} {codec : Codec plan} {start disk : Disk}
    (fresh : Fresh start) :
    (∀ tears, Lives (device codec tears) (Calls codec fun _ _ => True) start disk →
      (disk.destinationStartable = true →
        disk.oldMarker = true ∧ disk.complete = true ∧ disk.All (Final codec)) ∧
      ¬(disk.sourceStartable = true ∧ disk.destinationStartable = true)) ∧
    (Lives (device codec (Readable codec)) (Calls codec fun _ _ => True) start disk →
      disk.recorded = true →
      ∃ writes, run codec .resume disk = (writes, .ok ()) ∧
        Completed codec (writeAll (device codec (Readable codec)) disk writes)) := by
  constructor
  · intro tears lives
    have ordered := ordered_of_lives fresh lives
    have startable : disk.destinationStartable = true →
        disk.oldMarker = true ∧ disk.complete = true ∧ disk.All (Final codec) := by
      intro starts
      unfold Disk.destinationStartable at starts
      rw [Bool.and_eq_true, Bool.not_eq_true'] at starts
      obtain ⟨intent, behind⟩ := ordered.destination starts.1
      have isComplete : disk.complete = true :=
        behind.resolve_left fun there => nomatch starts.2.symm.trans there
      exact ⟨ordered.intent intent, isComplete, (ordered.complete isComplete).2⟩
    refine ⟨startable, fun both => ?_⟩
    have blocked := (startable both.2).1
    have source := both.1
    unfold Disk.sourceStartable at source
    rw [blocked] at source
    exact nomatch source
  · intro lives recorded
    exact resume_completes (ordered_of_lives fresh lives) (recoverable_of_lives fresh lives) recorded

/-- A crash tears the tombstone of the old coordinator's lock so that nothing can read it, and a
resumed call repairs it and completes the migration. -/
theorem resume_completes_torn : Fresh sharedWalletStart ∧ ∃ writes,
    run (Text.codec sharedWallet) .resume (coordinatorTorn 110) = (writes, .ok ()) ∧
      Completed (Text.codec sharedWallet) (writeAll (device (Text.codec sharedWallet)
        (Readable (Text.codec sharedWallet))) (coordinatorTorn 110) writes) := by
  have unread : ∀ lock ∈ (writeAll (device (Text.codec sharedWallet) fun _ _ _ => True)
      sharedWalletStart [.oldMarker, .intent, .newMarker, .destination]).locks.rows,
      lock.name = ⟨.coordinator, 1⟩ → (Text.codec sharedWallet).parse
        (tornBytes (Text.codec sharedWallet) sharedWallet.tombstone 110 lock.bytes) = none := by
    decide +kernel
  have crashes : Leaves (device (Text.codec sharedWallet) (Readable (Text.codec sharedWallet)))
      sharedWalletStart (run (Text.codec sharedWallet) .apply sharedWalletStart).1
      (coordinatorTorn 110) := by
    refine leaves_torn run_sharedWallet (by decide +kernel) ?_
    intro lock member isName actual reads
    exact nomatch (unread lock member isName).symm.trans reads
  have fresh : Fresh sharedWalletStart := fresh_startDisk _ _
  refine ⟨fresh, (one_owner_starts_and_resume_completes fresh).2 ?_ rfl⟩
  exact .run .start ⟨.apply, trivial, rfl⟩ crashes

/-- A crash after twelve bytes of the tombstone leaves a binding that reads as something else. The
resumed migration refuses it and writes nothing, so it is never completed. -/
theorem torn_binding_stops_resume :
    Lives (device (Text.codec sharedWallet) fun _ _ _ => True)
        (Calls (Text.codec sharedWallet) fun _ _ => True)
        (sharedWallet.startDisk (Text.codec sharedWallet)) (coordinatorTorn 12) ∧
      (coordinatorTorn 12).recorded = true ∧
      run (Text.codec sharedWallet) .resume (coordinatorTorn 12) =
        ([], .error "Unrelated scope binding; refusing recovery") := by
  have crashes : Leaves (device (Text.codec sharedWallet) fun _ _ _ => True) sharedWalletStart
      (run (Text.codec sharedWallet) .apply sharedWalletStart).1 (coordinatorTorn 12) :=
    leaves_torn run_sharedWallet (by decide +kernel) fun _ _ _ => trivial
  refine ⟨.run .start ⟨.apply, trivial, rfl⟩ crashes, rfl, ?_⟩
  decide +kernel

end D20.Migration
