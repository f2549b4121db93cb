/-
This file takes the calls of a migration apart: when the locks are accepted and what the repair does
with those that are not, what the writes of bindings leave, and from this every disk that a call can
leave, wherever it crashes.
-/

import D20Keeper.BindingText

namespace D20.Migration

open CrashWrites
open Journal (ensure ensure_eq_ok bind_eq_ok)

variable {plan : Plan} {codec : Codec plan} {tears : Lock → Json → List Char → Prop}

/-! ### Reading the locks -/

/-- A lock holds what the migration may find. -/
def Valid (codec : Codec plan) (resume : Bool) (lock : Lock) : Prop :=
  ∃ actual, readBinding codec lock.bytes = .ok actual ∧ allowedBinding plan resume lock actual = true

variable {resume : Bool} {locks : List Lock} {value : Json} {disk left : Disk} {name : LockName}
  {lock : Lock} {write : Write} {mode : Mode} {writes : List Write}

/-- The locks are accepted exactly when each of them is valid. -/
theorem validateBindings_eq_ok :
    validateBindings codec resume locks = .ok () ↔ ∀ lock ∈ locks, Valid codec resume lock := by
  induction locks with
  | nil => exact ⟨fun _ => nofun, fun _ => rfl⟩
  | cons lock rest inductionHypothesis =>
    unfold validateBindings
    rw [bind_eq_ok, List.forall_mem_cons, ← inductionHypothesis]
    constructor
    · rintro ⟨actual, read, rest⟩
      obtain ⟨_, allowed, rest⟩ := bind_eq_ok.mp rest
      exact ⟨⟨actual, read, ensure_eq_ok.mp allowed⟩, rest⟩
    · rintro ⟨⟨actual, read, allowed⟩, rest⟩
      exact ⟨actual, read, bind_eq_ok.mpr ⟨(), ensure_eq_ok.mpr allowed, rest⟩⟩

/-- A lock holds a binding that the repair leaves, or none that can be read. -/
def Repairable (codec : Codec plan) (lock : Lock) : Prop :=
  ∀ actual, codec.parse lock.bytes = some actual → repairable plan lock actual = true

/-- The repair finds the locks that cannot be read exactly when each of the others holds a binding
that it leaves. -/
theorem tornLocks_eq_ok {torn : List Lock} :
    tornLocks codec locks = .ok torn ↔ (∀ lock ∈ locks, Repairable codec lock) ∧
      torn = locks.filter fun lock => (codec.parse lock.bytes).isNone := by
  induction locks generalizing torn with
  | nil => exact ⟨fun found => ⟨nofun, (Except.ok.inj found).symm⟩, fun both => both.2 ▸ rfl⟩
  | cons lock rest inductionHypothesis =>
    unfold tornLocks
    rw [List.forall_mem_cons]
    cases read : codec.parse lock.bytes with
    | some actual =>
      have kept : (lock :: rest).filter (fun lock => (codec.parse lock.bytes).isNone) =
          rest.filter fun lock => (codec.parse lock.bytes).isNone :=
        List.filter_cons_of_neg (by rw [read]; exact Bool.false_ne_true)
      rw [kept]
      dsimp only
      rw [bind_eq_ok]
      constructor
      · rintro ⟨_, left, found⟩
        obtain ⟨others, same⟩ := inductionHypothesis.mp found
        refine ⟨⟨fun other isOther => ?_, others⟩, same⟩
        cases read.symm.trans isOther
        exact ensure_eq_ok.mp left
      · rintro ⟨⟨here, others⟩, same⟩
        exact ⟨(), ensure_eq_ok.mpr (here actual read), inductionHypothesis.mpr ⟨others, same⟩⟩
    | none =>
      have kept : (lock :: rest).filter (fun lock => (codec.parse lock.bytes).isNone) =
          lock :: rest.filter fun lock => (codec.parse lock.bytes).isNone :=
        List.filter_cons_of_pos (by rw [read]; rfl)
      rw [kept]
      dsimp only
      rw [bind_eq_ok]
      constructor
      · rintro ⟨found, finds, result⟩
        obtain ⟨others, same⟩ := inductionHypothesis.mp finds
        cases result
        refine ⟨⟨fun other isOther => ?_, others⟩, by rw [same]⟩
        exact nomatch read.symm.trans isOther
      · rintro ⟨⟨-, others⟩, same⟩
        exact ⟨_, inductionHypothesis.mpr ⟨others, rfl⟩, same ▸ rfl⟩

/-- A lock holds what it holds when the migration is complete. -/
def Final (codec : Codec plan) (lock : Lock) : Prop :=
  codec.parse lock.bytes = some (plan.final lock)

theorem readBinding_eq_some {bytes : List Char} :
    readBinding codec bytes = .ok (some value) ↔ codec.parse bytes = some value := by
  unfold readBinding
  split
  case isTrue none =>
    rw [none, codec.empty]
    exact ⟨nofun, nofun⟩
  case isFalse =>
    cases read : codec.parse bytes with
    | none => exact ⟨nofun, nofun⟩
    | some => simp only [Except.ok.injEq]

theorem checkFinal_eq_ok : checkFinal codec locks = .ok () ↔ ∀ lock ∈ locks, Final codec lock := by
  induction locks with
  | nil => exact ⟨fun _ => nofun, fun _ => rfl⟩
  | cons lock rest inductionHypothesis =>
    unfold checkFinal
    rw [bind_eq_ok, List.forall_mem_cons, ← inductionHypothesis]
    constructor
    · rintro ⟨actual, read, rest⟩
      obtain ⟨_, same, rest⟩ := bind_eq_ok.mp rest
      rw [ensure_eq_ok] at same
      rw [same] at read
      exact ⟨readBinding_eq_some.mp read, rest⟩
    · rintro ⟨final, rest⟩
      exact ⟨_, readBinding_eq_some.mpr final, bind_eq_ok.mpr ⟨(), ensure_eq_ok.mpr rfl, rest⟩⟩

/-! ### Writing the locks -/

theorem setBytes_rows (disk : Disk) (name : LockName) (change : List Char → List Char) :
    (disk.setBytes name change).locks.rows = disk.locks.rows.map fun lock =>
      if lock.name = name then lock.withBytes (change lock.bytes) else lock := by
  have rows : (disk.setBytes name change).locks.rows = disk.locks.rows.map fun lock =>
    if (lock.name == name) = true then lock.withBytes (change lock.bytes) else lock := rfl
  rw [rows]
  simp only [beq_iff_eq]

theorem mem_setBytes {change : List Char → List Char} :
    lock ∈ (disk.setBytes name change).locks.rows ↔ ∃ old ∈ disk.locks.rows,
      (if old.name = name then old.withBytes (change old.bytes) else old) = lock := by
  rw [setBytes_rows, List.mem_map]

/-- A property of every lock. -/
def Disk.All (disk : Disk) (good : Lock → Prop) : Prop := ∀ lock ∈ disk.locks.rows, good lock

/-- A property of every lock is kept if the lock whose bytes change keeps it. -/
theorem Disk.All.setBytes {good : Lock → Prop} (all : disk.All good)
    {change : List Char → List Char}
    (changed : ∀ lock ∈ disk.locks.rows, lock.name = name → good lock →
      good (lock.withBytes (change lock.bytes))) : (disk.setBytes name change).All good := by
  intro lock member
  obtain ⟨old, oldMem, same⟩ := mem_setBytes.mp member
  rw [← same]
  split
  case isTrue isName => exact changed old oldMem isName (all old oldMem)
  case isFalse => exact all old oldMem

/-- Writing bindings to some locks, of which each name has one, leaves each of them with its own. -/
theorem writeAll_bindings (codec : Codec plan) (tears : Lock → Json → List Char → Prop)
    (value : Lock → Json)
    (byName : ∀ lock bytes, value (lock.withBytes bytes) = value lock) (targets : List Lock)
    (disk : Disk) (same : ∀ target ∈ targets, ∀ lock ∈ disk.locks.rows, lock.name = target.name →
      value lock = value target) :
    ∃ locks, writeAll (device codec tears) disk
        (targets.map fun lock => .binding lock.name (value lock)) = { disk with locks := locks } ∧
      locks.rows = disk.locks.rows.map fun lock =>
        if (targets.map Lock.name).contains lock.name then
          lock.withBytes (codec.render (value lock)) else lock := by
  induction targets generalizing disk with
  | nil => exact ⟨disk.locks, rfl, (List.map_id _).symm⟩
  | cons target rest inductionHypothesis =>
    have rest' : ∀ other ∈ rest, ∀ lock ∈ (disk.setBytes target.name fun _ =>
        codec.render (value target)).locks.rows, lock.name = other.name →
        value lock = value other := by
      intro other member lock lockMem isName
      obtain ⟨old, oldMem, result⟩ := mem_setBytes.mp lockMem
      have sameName : old.name = lock.name := by
        rw [← result]
        split <;> rfl
      have sameValue : value old = value lock := by
        rw [← result]
        split
        · exact (byName _ _).symm
        · rfl
      rw [← sameValue]
      exact same other (List.mem_cons_of_mem _ member) old oldMem (sameName.trans isName)
    obtain ⟨locks, result, rows⟩ := inductionHypothesis _ rest'
    refine ⟨locks, result, rows.trans ?_⟩
    rw [setBytes_rows, List.map_map]
    refine List.map_congr_left fun lock member => ?_
    simp only [Function.comp_apply, List.map_cons, List.contains_cons, Bool.or_eq_true, beq_iff_eq]
    by_cases isTarget : lock.name = target.name
    · have mine : value lock = value target := same target List.mem_cons_self lock member isTarget
      have chosen : lock.name = target.name ∨ (rest.map Lock.name).contains lock.name = true :=
        .inl isTarget
      rw [if_pos isTarget, if_pos chosen, byName, mine]
      split <;> rfl
    · rw [if_neg isTarget]
      simp only [isTarget, false_or]

/-- The locks that some of a table's locks name are those themselves. -/
theorem contains_names {locks : Table Lock LockName Lock.name} (member : lock ∈ locks.rows)
    (chosen : Lock → Bool) :
    ((locks.rows.filter chosen).map Lock.name).contains lock.name = chosen lock := by
  rw [Bool.eq_iff_iff, List.contains_iff_mem, List.mem_map]
  constructor
  · rintro ⟨other, otherMem, same⟩
    obtain ⟨otherMem, isChosen⟩ := List.mem_filter.mp otherMem
    rw [← locks.eq_of_key_eq otherMem member same]
    exact isChosen
  · exact fun isChosen => ⟨lock, List.mem_filter.mpr ⟨member, isChosen⟩, rfl⟩

/-- Writing a binding to some of the locks, each its own. -/
theorem writeAll_chosen (codec : Codec plan) (tears : Lock → Json → List Char → Prop)
    (value : Lock → Json)
    (byName : ∀ lock bytes, value (lock.withBytes bytes) = value lock) (chosen : Lock → Bool)
    (disk : Disk) :
    ∃ locks, writeAll (device codec tears) disk
        ((disk.locks.rows.filter chosen).map fun lock => .binding lock.name (value lock)) =
          { disk with locks := locks } ∧
      locks.rows = disk.locks.rows.map fun lock =>
        if chosen lock then lock.withBytes (codec.render (value lock)) else lock := by
  obtain ⟨locks, result, rows⟩ := writeAll_bindings codec tears value byName
    (disk.locks.rows.filter chosen) disk fun target member lock lockMem same => by
      rw [disk.locks.eq_of_key_eq lockMem (List.mem_filter.mp member).1 same]
  refine ⟨locks, result, rows.trans (List.map_congr_left fun lock member => ?_)⟩
  rw [contains_names member]

theorem writeAll_bindLocks (codec : Codec plan) (tears : Lock → Json → List Char → Prop)
    (side : Lock → Bool) (value : Json) (disk : Disk) :
    ∃ locks, writeAll (device codec tears) disk (bindLocks disk.locks.rows side value) =
        { disk with locks := locks } ∧
      locks.rows = disk.locks.rows.map fun lock =>
        if side lock then lock.withBytes (codec.render value) else lock :=
  writeAll_chosen codec tears (fun _ => value) (fun _ _ => rfl) side disk

/-- A property of every lock that a binding keeps, torn or whole, is kept by its write. -/
theorem keeps_all {good : Lock → Prop}
    (kept : ∀ name value, write = .binding name value → ∀ lock, lock.name = name → good lock →
      good (lock.withBytes (codec.render value)) ∧
        ∀ bytes, tears lock value bytes → good (lock.withBytes bytes)) :
    Keeps (device codec tears) (fun disk => disk.All good) write := by
  refine ⟨fun disk all => ?_, fun disk left all tear => ?_⟩
  · cases write with
    | binding name value =>
      exact all.setBytes fun lock _ isName holds => (kept name value rfl lock isName holds).1
    | _ => exact all
  · cases tear with
    | binding name value count within considered =>
      refine all.setBytes fun lock member isName holds => ?_
      exact (kept name value rfl lock isName holds).2 _ (considered lock member isName)

theorem not_torn (record : ∀ name value, write ≠ .binding name value) (disk left : Disk) :
    ¬(device codec tears).torn disk write left := by
  intro tear
  cases tear with
  | binding name value => exact record name value rfl

theorem tombstone_whole (old : Bool) :
    codec.parse (codec.render plan.tombstone) = some plan.tombstone ∧
      plan.tombstone ≠ plan.binding old :=
  ⟨codec.whole _ (List.mem_cons_of_mem _ (List.mem_cons_of_mem _ List.mem_cons_self)),
    plan.tombstone_ne_binding old⟩

theorem destination_whole :
    codec.parse (codec.render (plan.binding false)) = some (plan.binding false) ∧
      plan.binding false ≠ plan.binding true :=
  ⟨codec.whole _ (List.mem_cons_of_mem _ List.mem_cons_self), plan.source_ne_destination.symm⟩

/-! ### What the locks hold in the end -/

/-- A resumed migration may find the bindings that the repair leaves. -/
theorem allowedBinding_resume (lock : Lock) (actual : Json) :
    allowedBinding plan true lock (some actual) = repairable plan lock actual := by
  unfold allowedBinding repairable
  rcases lock.owned with isOld | isNew
  · simp only [isOld, if_true, Bool.true_and, Bool.or_assoc, Option.some_beq_some]
  · cases isOld : lock.old with
    | true => simp only [if_true, Bool.true_and, Bool.or_assoc, Option.some_beq_some]
    | false =>
      simp only [isNew, Bool.false_eq_true, if_false, Bool.true_and, Bool.false_and, Bool.false_or,
        Option.some_beq_some]
      rfl

theorem repairable_final (lock : Lock) : repairable plan lock (plan.final lock) = true := by
  unfold repairable Plan.final
  split
  case isTrue isNew => simp only [isNew, Bool.true_and, beq_self_eq_true, Bool.or_true]
  case isFalse notNew =>
    have isOld : lock.old = true := lock.owned.resolve_right notNew
    simp only [isOld, Bool.true_and, beq_self_eq_true, Bool.or_true, Bool.true_or]

theorem Repairable.valid (repairable : Repairable codec lock) {actual : Json}
    (reads : codec.parse lock.bytes = some actual) : Valid codec true lock := by
  refine ⟨some actual, readBinding_eq_some.mpr reads, ?_⟩
  rw [allowedBinding_resume]
  exact repairable actual reads

/-- A lock that holds what it holds in the end is one that a resumed migration may find. -/
theorem Final.valid (final : Final codec lock) : Valid codec true lock := by
  refine ⟨_, readBinding_eq_some.mpr final, ?_⟩
  rw [allowedBinding_resume]
  exact repairable_final lock

/-- A lock that the migration may find at its start is one that a resumed migration may find. -/
theorem Valid.resumed (valid : Valid codec resume lock) : Valid codec true lock := by
  obtain ⟨actual, read, allowed⟩ := valid
  refine ⟨actual, read, ?_⟩
  cases resume with
  | true => exact allowed
  | false =>
    unfold allowedBinding at allowed ⊢
    simp only [Bool.false_and, Bool.or_false] at allowed
    split at allowed
    case isTrue isOld => rw [if_pos isOld, allowed, Bool.true_or]
    case isFalse notOld => rw [if_neg notOld, allowed, Bool.true_or]

theorem Valid.repairable (valid : Valid codec resume lock) : Repairable codec lock := by
  intro value reads
  obtain ⟨actual, read, allowed⟩ := valid.resumed
  cases Except.ok.inj (read.symm.trans (readBinding_eq_some.mpr reads))
  rw [← allowedBinding_resume]
  exact allowed

/-- A side's locks are named alike after other bytes are written to them. -/
theorem bindLocks_map {side : Lock → Bool}
    (byName : ∀ lock bytes, side (lock.withBytes bytes) = side lock)
    (locks : List Lock) (other : Lock → Bool) (bytes : List Char) (value : Json) :
    bindLocks (locks.map fun lock => if other lock then lock.withBytes bytes else lock) side value =
      bindLocks locks side value := by
  unfold bindLocks
  rw [List.filter_map, List.map_map]
  have sameSide : (side ∘ fun lock => if other lock then lock.withBytes bytes else lock) = side := by
    funext lock
    simp only [Function.comp_apply]
    split
    · exact byName _ _
    · rfl
  rw [sameSide]
  refine List.map_congr_left fun lock _ => ?_
  simp only [Function.comp_apply]
  split <;> rfl

/-- Once all locks are revoked and granted, each holds what it holds in the end. -/
theorem final_granted (disk : Disk) :
    ∃ locks, writeAll (device codec tears) disk (bindLocks disk.locks.rows Lock.old plan.tombstone ++
        bindLocks disk.locks.rows Lock.new (plan.binding false)) = { disk with locks := locks } ∧
      ∀ lock ∈ locks.rows, Final codec lock := by
  obtain ⟨revoked, revokes, revokedRows⟩ :=
    writeAll_bindLocks codec tears Lock.old plan.tombstone disk
  obtain ⟨granted, grants, grantedRows⟩ :=
    writeAll_bindLocks codec tears Lock.new (plan.binding false) { disk with locks := revoked }
  have sameNames : bindLocks revoked.rows Lock.new (plan.binding false) =
      bindLocks disk.locks.rows Lock.new (plan.binding false) := by
    rw [revokedRows]
    exact bindLocks_map (fun _ _ => rfl) _ _ _ _
  refine ⟨granted, ?_, ?_⟩
  · rw [writeAll_append, revokes, ← sameNames]
    exact grants
  · intro lock member
    obtain ⟨before, beforeMem, rfl⟩ := List.mem_map.mp (grantedRows ▸ member)
    obtain ⟨first, -, rfl⟩ := List.mem_map.mp (revokedRows ▸ beforeMem)
    unfold Final Plan.final
    by_cases isNew : first.new = true
    · have isNew' : (if first.old then first.withBytes (codec.render plan.tombstone)
          else first).new = true := by
        split <;> exact isNew
      rw [if_pos isNew']
      show codec.parse (codec.render (plan.binding false)) = some (if _ then _ else _)
      rw [if_pos, destination_whole.1]
      exact isNew'
    · have isOld : first.old = true := first.owned.resolve_right isNew
      rw [if_pos isOld]
      have notNew : ¬(first.withBytes (codec.render plan.tombstone)).new = true := isNew
      rw [if_neg notNew, if_neg notNew]
      exact (tombstone_whole true).1

/-! ### The writes of a call -/

/-- The disk after the records of the plan are made sure of. -/
def Disk.marked (disk : Disk) : Disk := { disk with oldMarker := true, intent := true }

/-- The records that a call makes sure of. -/
def records (disk : Disk) : List Write :=
  ensureRecord disk.oldMarker .oldMarker ++ ensureRecord disk.intent .intent

/-- What a call does before its transition: nothing if the locks hold what they may, and otherwise
the repair of those that cannot be read, for which the records and the destination are there. -/
theorem repairs_eq_ok {repaired : List Write} (found : repairs codec mode disk = .ok repaired) :
    (repaired = [] ∧ disk.All (Valid codec disk.recorded)) ∨
      (¬disk.All (Valid codec disk.recorded) ∧ disk.recorded = true ∧ mode = .resume ∧
        (disk.intent = true ∧ disk.oldMarker = true ∧ disk.newMarker = true ∧
          disk.destination = true) ∧
        disk.All (Repairable codec) ∧
        repaired = (disk.locks.rows.filter fun lock => (codec.parse lock.bytes).isNone).map
          fun lock => .binding lock.name (plan.final lock)) := by
  unfold repairs at found
  cases valid : validateBindings codec disk.recorded disk.locks.rows with
  | ok =>
    rw [valid] at found
    cases found
    exact .inl ⟨rfl, validateBindings_eq_ok.mp valid⟩
  | error =>
    rw [valid] at found
    dsimp only at found
    split at found
    case isFalse => exact nomatch found
    case isTrue resumes =>
      unfold recoverBindings checkRecord at found
      obtain ⟨_, -, found⟩ := bind_eq_ok.mp found
      obtain ⟨_, intent, found⟩ := bind_eq_ok.mp found
      obtain ⟨_, oldMarker, found⟩ := bind_eq_ok.mp found
      obtain ⟨_, newMarker, found⟩ := bind_eq_ok.mp found
      obtain ⟨_, destination, found⟩ := bind_eq_ok.mp found
      obtain ⟨torn, finds, found⟩ := bind_eq_ok.mp found
      cases found
      rw [ensure_eq_ok] at intent oldMarker newMarker destination
      obtain ⟨repairable, same⟩ := tornLocks_eq_ok.mp finds
      refine .inr ⟨fun all => ?_, resumes.1, resumes.2,
        ⟨intent, oldMarker, newMarker, destination⟩, repairable, by rw [same]⟩
      rw [validateBindings_eq_ok.mpr all] at valid
      exact nomatch valid

/-- The writes of a call. -/
theorem run_cases (mode : Mode) (disk : Disk) :
    (run codec mode disk).1 = [] ∨ ∃ repaired, repairs codec mode disk = .ok repaired ∧
      ((run codec mode disk).1 = repaired ∨
        ∃ left rest, left = writeAll (device codec fun _ _ _ => True) disk repaired ∧
          left.All (Valid codec disk.recorded) ∧
          (run codec mode disk).1 = repaired ++ (records left ++ rest) ∧
          (rest = [] ∨ transition codec left.marked = .ok rest)) := by
  unfold run
  cases checked : (do identity plan.oldInstance; checkMode mode disk; repairs codec mode disk) with
  | error => exact .inl rfl
  | ok repaired =>
    obtain ⟨_, -, checked⟩ := bind_eq_ok.mp checked
    obtain ⟨_, -, found⟩ := bind_eq_ok.mp checked
    right
    refine ⟨repaired, found, ?_⟩
    dsimp only
    cases valid : validateBindings codec disk.recorded
        (writeAll (device codec fun _ _ _ => True) disk repaired).locks.rows with
    | error message => exact .inl rfl
    | ok =>
      dsimp only
      split
      · exact .inl rfl
      · right
        refine ⟨writeAll (device codec fun _ _ _ => True) disk repaired, ?_⟩
        cases moves : transition codec
            { writeAll (device codec fun _ _ _ => True) disk repaired with
              oldMarker := true, intent := true } with
        | error message =>
          refine ⟨[], rfl, validateBindings_eq_ok.mp valid, ?_, .inl rfl⟩
          rw [List.append_nil]
          rfl
        | ok writes =>
          exact ⟨writes, rfl, validateBindings_eq_ok.mp valid, List.append_assoc _ _ _, .inr moves⟩

/-- The writes of a transition: nothing but the marker's removal once the migration is complete, and
otherwise all of them. -/
theorem transition_eq_ok (moves : transition codec disk = .ok writes) :
    (disk.complete = true ∧ (writes = [.unblock] ∨ writes = [])) ∨
      (disk.complete = false ∧
        writes = ensureRecord disk.newMarker .newMarker ++ ensureRecord disk.destination .destination ++
          bindLocks disk.locks.rows Lock.old plan.tombstone ++
          bindLocks disk.locks.rows Lock.new (plan.binding false) ++ [.complete, .unblock]) := by
  unfold transition at moves
  split at moves
  case isTrue isComplete =>
    obtain ⟨_, -, moves⟩ := bind_eq_ok.mp moves
    obtain ⟨_, -, moves⟩ := bind_eq_ok.mp moves
    obtain ⟨_, -, moves⟩ := bind_eq_ok.mp moves
    refine .inl ⟨isComplete, ?_⟩
    rw [← Except.ok.inj moves]
    split
    · exact .inl rfl
    · exact .inr rfl
  case isFalse notComplete =>
    exact .inr ⟨eq_false_of_ne_true notComplete, (Except.ok.inj moves).symm⟩

/-- The bindings a write may have. -/
def Writes (allowed : Json → Prop) (write : Write) : Prop :=
  ∀ name value, write = .binding name value → allowed value

theorem writes_bindLocks {allowed : Json → Prop} {side : Lock → Bool} (isAllowed : allowed value)
    (member : write ∈ bindLocks locks side value) : Writes allowed write := by
  obtain ⟨lock, -, same⟩ := List.mem_map.mp member
  rintro name other rfl
  cases same
  exact isAllowed

/-- The repairs write what a lock holds in the end. -/
theorem writes_repairs {allowed : Json → Prop} {repaired : List Write}
    (found : repairs codec mode disk = .ok repaired)
    (final : ∀ lock ∈ disk.locks.rows, codec.parse lock.bytes = none → allowed (plan.final lock)) :
    ∀ write ∈ repaired, Writes allowed write := by
  intro write member
  rcases repairs_eq_ok found with ⟨rfl, -⟩ | ⟨-, -, -, -, -, rfl⟩
  · exact nomatch member
  · obtain ⟨lock, torn, same⟩ := List.mem_map.mp member
    rw [List.mem_filter, Option.isNone_iff_eq_none] at torn
    rintro name value rfl
    cases same
    exact final lock torn.1 torn.2

theorem writeAll_records (disk : Disk) :
    writeAll (device codec tears) disk (records disk) = disk.marked := by
  obtain ⟨oldMarker, intent, newMarker, destination, complete, locks⟩ := disk
  cases oldMarker <;> cases intent <;> rfl

/-- The disk once the destination is in place behind its marker. -/
def Disk.placed (disk : Disk) : Disk := { disk with newMarker := true, destination := true }

theorem writeAll_place (disk : Disk) :
    writeAll (device codec tears) disk (ensureRecord disk.newMarker .newMarker ++
      ensureRecord disk.destination .destination) = disk.placed := by
  obtain ⟨oldMarker, intent, newMarker, destination, complete, locks⟩ := disk
  cases newMarker <;> cases destination <;> rfl

/-! ### What a call can leave -/

theorem leaves_ensureRecord {present : Bool} {made : Write}
    (leaves : Leaves (device codec tears) disk (ensureRecord present made) left)
    (record : ∀ name value, made ≠ .binding name value) :
    left = disk ∨ left = disk.write codec made := by
  unfold ensureRecord at leaves
  split at leaves
  · exact .inl leaves.eq_of_nil
  · rcases leaves.of_atomic (not_torn record disk) with same | leaves
    · exact .inl same
    · exact .inr leaves.eq_of_nil

/-- Of two records neither, the first or both are made, if the first changes nothing where it is not
made. -/
theorem leaves_ensureRecords {present present' : Bool} {made made' : Write}
    (leaves : Leaves (device codec tears) disk (ensureRecord present made ++
      ensureRecord present' made') left) (there : present = true → disk.write codec made = disk)
    (record : ∀ name value, made ≠ .binding name value)
    (record' : ∀ name value, made' ≠ .binding name value) :
    left = disk ∨ left = disk.write codec made ∨ left = (disk.write codec made).write codec made' := by
  have whole : writeAll (device codec tears) disk (ensureRecord present made) =
      disk.write codec made := by
    unfold ensureRecord
    split
    case isTrue isThere => exact (there isThere).symm
    case isFalse => rfl
  rcases leaves.append with early | late
  · exact (leaves_ensureRecord early record).imp_right .inl
  · rw [whole] at late
    exact .inr (leaves_ensureRecord late record')

theorem leaves_records (leaves : Leaves (device codec tears) disk (records disk) left) :
    left = disk ∨ left = { disk with oldMarker := true } ∨ left = disk.marked := by
  refine leaves_ensureRecords leaves (fun isThere => ?_) nofun nofun
  show { disk with oldMarker := true } = disk
  rw [← isThere]

theorem leaves_place
    (leaves : Leaves (device codec tears) disk (ensureRecord disk.newMarker .newMarker ++
      ensureRecord disk.destination .destination) left) :
    left = disk ∨ left = { disk with newMarker := true } ∨ left = disk.placed := by
  refine leaves_ensureRecords leaves (fun isThere => ?_) nofun nofun
  show { disk with newMarker := true } = disk
  rw [← isThere]

/-- The disks that are left while the migration is recorded as complete and its marker is taken
away. -/
theorem leaves_end (leaves : Leaves (device codec tears) disk [.complete, .unblock] left) :
    left = disk ∨ left = { disk with complete := true } ∨
      left = { disk with complete := true, newMarker := false } := by
  have complete : ∀ name value, Write.complete ≠ .binding name value := nofun
  have unblock : ∀ name value, Write.unblock ≠ .binding name value := nofun
  rcases leaves.of_atomic (not_torn complete disk) with same | leaves
  · exact .inl same
  rcases leaves.of_atomic (not_torn unblock _) with same | leaves
  · exact .inr (.inl same)
  · exact .inr (.inr leaves.eq_of_nil)

/-- The disk once its locks are repaired and accepted. -/
def Checked (codec : Codec plan) (mode : Mode) (disk checked : Disk) : Prop :=
  ∃ repaired, repairs codec mode disk = .ok repaired ∧
    checked = writeAll (device codec fun _ _ _ => True) disk repaired ∧
    checked.All (Valid codec disk.recorded)

/-- The writes that revoke the locks of the source and grant those of the destination. -/
def handover (plan : Plan) (locks : List Lock) : List Write :=
  bindLocks locks Lock.old plan.tombstone ++ bindLocks locks Lock.new (plan.binding false)

/-- What a call can leave, wherever it crashes. -/
inductive Outcome (codec : Codec plan) (tears : Lock → Json → List Char → Prop) (mode : Mode)
    (disk : Disk) : Disk → Prop
  | same : Outcome codec tears mode disk disk
  | repairing {repaired : List Write} {left : Disk} (found : repairs codec mode disk = .ok repaired)
      (leaves : Leaves (device codec tears) disk repaired left) : Outcome codec tears mode disk left
  | blocked {checked : Disk} (isChecked : Checked codec mode disk checked) :
      Outcome codec tears mode disk { checked with oldMarker := true }
  | marked {checked : Disk} (isChecked : Checked codec mode disk checked) :
      Outcome codec tears mode disk checked.marked
  | unblocked {checked : Disk} (isChecked : Checked codec mode disk checked)
      (complete : checked.complete = true) :
      Outcome codec tears mode disk { checked.marked with newMarker := false }
  | placing {checked : Disk} (isChecked : Checked codec mode disk checked)
      (unfinished : checked.complete = false) :
      Outcome codec tears mode disk { checked.marked with newMarker := true }
  | binding {checked left : Disk} (isChecked : Checked codec mode disk checked)
      (unfinished : checked.complete = false)
      (leaves : Leaves (device codec tears) checked.marked.placed
        (handover plan checked.locks.rows) left) : Outcome codec tears mode disk left
  | finished {checked : Disk} {locks : Table Lock LockName Lock.name}
      (isChecked : Checked codec mode disk checked) (unfinished : checked.complete = false)
      (final : ∀ lock ∈ locks.rows, Final codec lock) (newMarker : Bool) :
      Outcome codec tears mode disk
        { checked.marked.placed with locks := locks, complete := true, newMarker := newMarker }

/-- What a transition can leave of the disk it finds. -/
theorem outcome_of_transition {checked : Disk} (isChecked : Checked codec mode disk checked)
    (moves : transition codec checked.marked = .ok writes)
    (leaves : Leaves (device codec tears) checked.marked writes left) :
    Outcome codec tears mode disk left := by
  rcases transition_eq_ok moves with ⟨isComplete, rfl | rfl⟩ | ⟨unfinished, rfl⟩
  · have unblock : ∀ name value, Write.unblock ≠ .binding name value := nofun
    rcases leaves.of_atomic (not_torn unblock _) with rfl | leaves
    · exact .marked isChecked
    · rw [leaves.eq_of_nil]
      exact .unblocked isChecked isComplete
  · rw [leaves.eq_of_nil]
    exact .marked isChecked
  · rw [List.append_assoc (ensureRecord _ _ ++ ensureRecord _ _)] at leaves
    rcases leaves.append with early | leaves
    · rcases early.append with early | leaves
      · rcases leaves_place early with rfl | rfl | rfl
        · exact .marked isChecked
        · exact .placing isChecked unfinished
        · exact .binding isChecked unfinished (.here _ _)
      · rw [writeAll_place] at leaves
        exact .binding isChecked unfinished leaves
    · obtain ⟨locks, granted, final⟩ := @final_granted plan codec tears checked.marked.placed
      have written : writeAll (device codec tears) checked.marked.placed
          (bindLocks checked.marked.locks.rows Lock.old plan.tombstone ++
            bindLocks checked.marked.locks.rows Lock.new (plan.binding false)) =
          { checked.marked.placed with locks := locks } := granted
      rw [writeAll_append, writeAll_place, written] at leaves
      rcases leaves_end leaves with rfl | rfl | rfl
      · refine .binding isChecked unfinished ?_
        rw [← written]
        exact .all _ _
      · exact .finished isChecked unfinished final true
      · exact .finished isChecked unfinished final false

/-- What a call can leave. -/
theorem outcome_of_leaves (leaves : Leaves (device codec tears) disk (run codec mode disk).1 left) :
    Outcome codec tears mode disk left := by
  rcases run_cases mode disk with
    none | ⟨repaired, found, only | ⟨checked, rest, isChecked, valid, all, moves⟩⟩
  · rw [none] at leaves
    rw [leaves.eq_of_nil]
    exact .same
  · rw [only] at leaves
    exact .repairing found leaves
  · have accepted : Checked codec mode disk checked := ⟨repaired, found, isChecked, valid⟩
    have written : writeAll (device codec tears) disk repaired = checked := isChecked.symm
    rw [all] at leaves
    rcases leaves.append with early | leaves
    · exact .repairing found early
    rw [written] at leaves
    rcases leaves.append with early | leaves
    · rcases leaves_records early with rfl | rfl | rfl
      · refine .repairing found ?_
        rw [← written]
        exact .all _ _
      · exact .blocked accepted
      · exact .marked accepted
    · rw [writeAll_records] at leaves
      rcases moves with rfl | moves
      · rw [leaves.eq_of_nil]
        exact .marked accepted
      · exact outcome_of_transition accepted moves leaves

/-- The calls of a migration, each under a condition on the disk it finds and how it is made. -/
def Calls (codec : Codec plan) (condition : Disk → Mode → Prop) (disk : Disk)
    (writes : List Write) : Prop :=
  ∃ mode, condition disk mode ∧ writes = (run codec mode disk).1

/-- Nothing of the migration is on the disk. -/
def Fresh (disk : Disk) : Prop :=
  disk.oldMarker = false ∧ disk.intent = false ∧ disk.newMarker = false ∧ disk.destination = false ∧
    disk.complete = false

theorem scopesOf_spec (kind : LockKind) (old new : ℕ) :
    ((scopesOf kind old new).map Lock.name).Nodup ∧
      ∀ lock ∈ scopesOf kind old new, lock.name.kind = kind ∧ lock.bytes = [] := by
  unfold scopesOf
  split
  case isTrue => simp only [List.map_cons, List.map_nil, List.nodup_singleton, List.mem_singleton,
    forall_eq, and_self]
  case isFalse apart =>
    have apart' : new ≠ old := Ne.symm apart
    split
    · simp [apart]
    · simp [apart']

/-- No two locks of a migration have one name. -/
theorem scopeLocks_nodup (plan : Plan) : (plan.scopeLocks.map Lock.name).Nodup := by
  obtain ⟨coordinators, kinds⟩ := scopesOf_spec .coordinator plan.oldCoordinator plan.newCoordinator
  obtain ⟨wallets, kinds'⟩ := scopesOf_spec .wallet plan.oldSender plan.newSender
  unfold Plan.scopeLocks
  rw [List.map_append, List.nodup_append]
  refine ⟨coordinators, wallets, fun first firstMem second secondMem same => ?_⟩
  obtain ⟨lock, lockMem, rfl⟩ := List.mem_map.mp firstMem
  obtain ⟨other, otherMem, rfl⟩ := List.mem_map.mp secondMem
  have coordinator := (kinds lock lockMem).1
  rw [same, (kinds' other otherMem).1] at coordinator
  exact nomatch coordinator

/-- The disk before a migration: the source's locks carry its binding, the destination's own are
empty. -/
def Plan.startDisk (plan : Plan) (codec : Codec plan) : Disk where
  oldMarker := false
  intent := false
  newMarker := false
  destination := false
  complete := false
  locks := Table.update ⟨plan.scopeLocks, scopeLocks_nodup plan⟩ Lock.old
    (fun lock => lock.withBytes (codec.render (plan.binding true))) fun _ => rfl

theorem fresh_startDisk (plan : Plan) (codec : Codec plan) : Fresh (plan.startDisk codec) :=
  ⟨rfl, rfl, rfl, rfl, rfl⟩

/-- The migration accepts the locks before it. -/
theorem valid_startDisk (plan : Plan) (codec : Codec plan) :
    (plan.startDisk codec).All (Valid codec false) := by
  intro lock member
  obtain ⟨before, beforeMem, rfl⟩ := List.mem_map.mp member
  split
  case isTrue isOld =>
    have whole : codec.parse (codec.render (plan.binding true)) = some (plan.binding true) :=
      codec.whole _ List.mem_cons_self
    refine ⟨_, readBinding_eq_some.mpr whole, ?_⟩
    unfold allowedBinding
    have isOld' : (before.withBytes (codec.render (plan.binding true))).old = true := isOld
    rw [if_pos isOld', beq_self_eq_true, Bool.true_or]
  case isFalse notOld =>
    have empty : before.bytes = [] := by
      rcases List.mem_append.mp beforeMem with coordinator | wallet
      · exact ((scopesOf_spec _ _ _).2 before coordinator).2
      · exact ((scopesOf_spec _ _ _).2 before wallet).2
    refine ⟨none, ?_, ?_⟩
    · rw [empty]
      rfl
    · unfold allowedBinding
      rw [if_neg notOld]
      rfl

/-- A call crashes while it writes one of its bindings. -/
theorem leaves_torn {before after : List Write} {count : ℕ}
    (splits : writes = before ++ .binding name value :: after)
    (within : count ≤ (codec.render value).length)
    (considered : ∀ lock ∈ (writeAll (device codec tears) disk before).locks.rows, lock.name = name →
      tears lock value (tornBytes codec value count lock.bytes)) :
    Leaves (device codec tears) disk writes
      ((writeAll (device codec tears) disk before).setBytes name (tornBytes codec value count)) := by
  rw [splits]
  exact .after (.torn after (.binding _ name value count within considered))

/-! ### A migration to another coordinator with the same wallet -/

/-- The plan of the migration. -/
def sharedWallet : Plan where
  fromPath := "/a"
  toPath := "/b"
  oldCoordinator := 1
  newCoordinator := 2
  oldSender := 3
  newSender := 3
  oldInstance := sampleInstance '1'
  newInstance := sampleInstance '2'
  apart := by decide
  identified := identified_sample

/-- The disk before the migration. -/
def sharedWalletStart : Disk := sharedWallet.startDisk (Text.codec sharedWallet)

/-- The writes before the tombstone of the wallet's lock. -/
def sharedWalletWrites : List Write :=
  [.oldMarker, .intent, .newMarker, .destination, .binding ⟨.coordinator, 1⟩ sharedWallet.tombstone]

theorem run_sharedWallet : (run (Text.codec sharedWallet) .apply sharedWalletStart).1 =
    sharedWalletWrites ++ [.binding ⟨.wallet, 3⟩ sharedWallet.tombstone,
      .binding ⟨.coordinator, 2⟩ (sharedWallet.binding false),
      .binding ⟨.wallet, 3⟩ (sharedWallet.binding false), .complete, .unblock] := by
  decide +kernel

/-- The disk if a crash tears the tombstone of the old coordinator's lock. -/
def coordinatorTorn (count : ℕ) : Disk :=
  (writeAll (device (Text.codec sharedWallet) fun _ _ _ => True) sharedWalletStart
    [.oldMarker, .intent, .newMarker, .destination]).setBytes ⟨.coordinator, 1⟩
      (tornBytes (Text.codec sharedWallet) sharedWallet.tombstone count)

/-- The disk if a crash tears the tombstone of the wallet's lock. -/
def walletTorn (count : ℕ) : Disk :=
  (writeAll (device (Text.codec sharedWallet) fun _ _ _ => True) sharedWalletStart
    sharedWalletWrites).setBytes ⟨.wallet, 3⟩
      (tornBytes (Text.codec sharedWallet) sharedWallet.tombstone count)

end D20.Migration
