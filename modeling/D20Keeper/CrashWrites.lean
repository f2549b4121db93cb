/-
This file is a small library of processes that write to a disk one write after the other and may
crash at any of them. A write is atomic, or a crash can leave it torn; what was written before
stays. A life is any number of runs, each of which starts from what the one before left. An
invariant holds in every state of every life if each run keeps it in every state a crash can leave,
and a run keeps what each of its writes keeps, torn or whole.
-/

import Mathlib.Data.List.Basic

namespace CrashWrites

/-- What a write does to a disk, and what a crash in the middle of it can leave. -/
structure Device (Disk Write : Type) where
  write : Disk → Write → Disk
  torn : Disk → Write → Disk → Prop

variable {Disk Write : Type} (device : Device Disk Write)

/-- The disk after some writes. -/
def writeAll (disk : Disk) (writes : List Write) : Disk := writes.foldl device.write disk

theorem writeAll_append (disk : Disk) (first second : List Write) :
    writeAll device disk (first ++ second) = writeAll device (writeAll device disk first) second :=
  List.foldl_append

/-- The disks that a process with some writes to make can leave: it crashes between two of them, in
the middle of one, or makes them all. -/
inductive Leaves : Disk → List Write → Disk → Prop
  | here (disk : Disk) (writes : List Write) : Leaves disk writes disk
  | torn {disk left : Disk} {write : Write} (rest : List Write)
      (tear : device.torn disk write left) : Leaves disk (write :: rest) left
  | later {disk left : Disk} {write : Write} {rest : List Write}
      (leaves : Leaves (device.write disk write) rest left) : Leaves disk (write :: rest) left

variable {device}

/-- A process crashes in the first part of its writes or in the second. -/
theorem Leaves.append {disk left : Disk} {first second : List Write}
    (leaves : Leaves device disk (first ++ second) left) :
    Leaves device disk first left ∨ Leaves device (writeAll device disk first) second left := by
  induction first generalizing disk with
  | nil => exact .inr leaves
  | cons write rest inductionHypothesis =>
    cases leaves with
    | here => exact .inl (.here _ _)
    | torn _ tear => exact .inl (.torn rest tear)
    | later leaves => exact (inductionHypothesis leaves).imp_left .later

theorem Leaves.all (disk : Disk) (writes : List Write) :
    Leaves device disk writes (writeAll device disk writes) := by
  induction writes generalizing disk with
  | nil => exact .here _ _
  | cons write rest inductionHypothesis => exact .later (inductionHypothesis _)

theorem Leaves.after {disk left : Disk} {first second : List Write}
    (leaves : Leaves device (writeAll device disk first) second left) :
    Leaves device disk (first ++ second) left := by
  induction first generalizing disk with
  | nil => exact leaves
  | cons write rest inductionHypothesis => exact .later (inductionHypothesis leaves)

/-- A write that cannot be torn is made or not. -/
theorem Leaves.of_atomic {disk left : Disk} {write : Write} {rest : List Write}
    (atomic : ∀ left, ¬device.torn disk write left)
    (leaves : Leaves device disk (write :: rest) left) :
    left = disk ∨ Leaves device (device.write disk write) rest left := by
  cases leaves with
  | here => exact .inl rfl
  | torn _ tear => exact absurd tear (atomic left)
  | later leaves => exact .inr leaves

theorem Leaves.eq_of_nil {disk left : Disk}
    (leaves : Leaves device disk [] left) : left = disk := by
  cases leaves
  rfl

/-- A property that a write keeps, torn or whole. -/
structure Keeps (device : Device Disk Write) (good : Disk → Prop) (write : Write) : Prop where
  whole : ∀ disk, good disk → good (device.write disk write)
  torn : ∀ disk left, good disk → device.torn disk write left → good left

section Segments

variable {good : Disk → Prop} {writes : List Write}
  (each : ∀ write ∈ writes, Keeps device good write) {disk : Disk} (start : good disk)

include each start

/-- What every write keeps holds wherever the process crashes. -/
theorem Leaves.holds {left : Disk} (leaves : Leaves device disk writes left) : good left := by
  induction leaves with
  | here => exact start
  | torn rest tear => exact (each _ List.mem_cons_self).torn _ _ start tear
  | later leaves inductionHypothesis =>
    refine inductionHypothesis (fun other member => each other (List.mem_cons_of_mem _ member)) ?_
    exact (each _ List.mem_cons_self).whole _ start

end Segments

/-- The states of a life: each run makes the writes its program has for the disk it finds, or
crashes at one of them. -/
inductive Lives (device : Device Disk Write) (program : Disk → List Write → Prop) (start : Disk) :
    Disk → Prop
  | start : Lives device program start start
  | run {disk left : Disk} {writes : List Write} (earlier : Lives device program start disk)
      (runs : program disk writes) (leaves : Leaves device disk writes left) :
      Lives device program start left

/-- An invariant of a life. -/
theorem Lives.keeps {program : Disk → List Write → Prop} {start disk : Disk} {good : Disk → Prop}
    (first : good start)
    (each : ∀ disk writes left, good disk → program disk writes → Leaves device disk writes left →
      good left)
    (lives : Lives device program start disk) : good disk := by
  induction lives with
  | start => exact first
  | run earlier runs leaves inductionHypothesis =>
    exact each _ _ _ inductionHypothesis runs leaves

end CrashWrites
