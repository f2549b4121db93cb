/-
This file models the audit of soft finality. The marks of a soft keeper name the blocks it acted on;
the audit reads the finalized headers and the hashes of the marked blocks at or below them from
every endpoint, and when they agree with the marks it moves the receipts of those blocks to the
finalized receipts, raises the finalized checkpoint and deletes the marks, in one transaction. An
audit that finds anything else leaves the journal as it was.
-/

import Mathlib.Data.List.Sort
import D20Keeper.Journal
import D20Keeper.Verdict

namespace D20.Journal

open Finality (eqIgnoreAsciiCase)

/-! ### The marks of some blocks -/

/-- What one audit ended with. -/
inductive Audit
  | stopped (recorded : Mismatch)
  | idle
  | audited (blocks receipts : ℕ) (checkpoint : ℕ × String)
  | mismatch (found : Mismatch)
  deriving DecidableEq, Repr

/-- The text of a kind. -/
def MarkKind.name : MarkKind → String
  | .receipt => "receipt"
  | .head => "head"
  | .sign => "sign"
  | .nonce => "nonce"

/-- `ORDER BY kind,ref`. -/
def Mark.before (first second : Mark) : Bool :=
  decide (first.kind.name < second.kind.name) ||
    (first.kind.name == second.kind.name && decide (first.reference ≤ second.reference))

/-- `SELECT … FROM soft_marks WHERE number=? ORDER BY kind,ref`. -/
def marksAt (journal : Journal) (number : ℕ) : List Mark :=
  (journal.softMarks.rows.filter fun mark => mark.number == number).insertionSort
    fun first second => first.before second = true

/-- The first of some marks whose hash is not the chain's, as a mismatch. -/
def markMismatch (marks : List Mark) (number : ℕ) (actual : String) (now : ℕ) : Option Mismatch :=
  (marks.find? fun mark => !eqIgnoreAsciiCase mark.hash actual).map fun mark =>
    { kind := .mark mark.kind, number := number, reference := mark.reference
      expected := mark.hash, actual := actual, detectedAt := now }

/-- The marks of the blocks, or the first of them that is not the chain's. -/
def canonicalMarks (journal : Journal) (now : ℕ) :
    List (ℕ × String) → Except String (Mismatch ⊕ List Mark)
  | [] => .ok (.inr [])
  | (number, actual) :: rest => do
    let _ ← tryI64 number
    match markMismatch (journal.marksAt number) number actual now with
    | some found => return .inl found
    | none =>
      match ← journal.canonicalMarks now rest with
      | .inl found => return .inl found
      | .inr marks => return .inr (journal.marksAt number ++ marks)

/-- `max_by_key(|mark| mark.number)`: the last of the marks with the highest number. -/
def highestMark : List Mark → Option Mark
  | [] => none
  | mark :: rest =>
    match highestMark rest with
    | some later => if mark.number ≤ later.number then some later else some mark
    | none => some mark

/-! ### Making them final -/

/-- The finalized receipt of a receipt mark. -/
def Mark.receiptRow (mark : Mark) (status : ℕ) : FinalizedReceipt where
  hash := mark.reference
  blockNumber := mark.number
  blockHash := mark.hash
  status := status

/-- The finalized receipts of a table. -/
abbrev Receipts := Table FinalizedReceipt String FinalizedReceipt.hash

/-- Insert the finalized receipt of a mark. A receipt that is stored with another block or status is
the mismatch of the block it names. -/
def finalizeReceipt (receipts : Receipts) (mark : Mark) (now : ℕ) :
    Except String (Mismatch ⊕ Receipts) := do
  let _ ← tryI64 mark.number
  match mark.status with
  | none => .error ("Receipt mark of " ++ mark.reference ++ " has no status")
  | some status =>
    let _ ← tryI64 status
    let inserted := receipts.insertOrIgnore (mark.receiptRow status)
    match inserted.rows.find? fun stored => stored.hash == mark.reference with
    | none => .error "no rows returned by a query that expected to return at least one row"
    | some stored =>
      let found : Mismatch :=
        { kind := .finalizedReceipt, number := stored.blockNumber, reference := mark.reference
          expected := stored.blockHash, actual := "", detectedAt := now }
      if stored = mark.receiptRow status then return .inr inserted else return .inl found

/-- Insert the finalized receipts of some marks. -/
def finalizeReceipts (now : ℕ) (receipts : Receipts) :
    List Mark → Except String (Mismatch ⊕ Receipts)
  | [] => .ok (.inr receipts)
  | mark :: rest => do
    match ← finalizeReceipt receipts mark now with
    | .inl found => return .inl found
    | .inr inserted => finalizeReceipts now inserted rest

/-- The same block under another hash is a finalized block that was replaced. -/
def checkpointMismatch (saved : Option (ℕ × String)) (last : Mark) (now : ℕ) : Option Mismatch :=
  match saved with
  | none => none
  | some (number, hash) =>
    if number = last.number ∧ eqIgnoreAsciiCase hash last.hash = false then
      some
        { kind := .finalizedCheckpoint, number := number, reference := "", expected := hash
          actual := last.hash, detectedAt := now }
    else none

/-- Advance the finalized checkpoint. It never moves down, and another hash for its own number is a
conflict, not an update. -/
def checkpoint (saved : Option (ℕ × String)) (number : ℕ) (hash : String) :
    Except String (ℕ × String) :=
  match saved with
  | none => .ok (number, hash)
  | some (previous, previousHash) =>
    if number < previous then .ok (previous, previousHash)
    else do
      ensure (previous ≠ number ∨ previousHash = hash) "Finalized checkpoint conflict"
      if previous = number then return (previous, previousHash) else return (number, hash)

/-- The marks of the blocks are the chain's: their receipts become final, the checkpoint advances to
the highest block and the marks go. -/
def finalizeMarks (journal : Journal) (canonical : List (ℕ × String)) (now : ℕ) (marks : List Mark)
    (last : Mark) : Except String (Audit × Journal) := do
  let settled := marks.filter fun mark => mark.kind == .receipt
  match ← finalizeReceipts now journal.finalizedReceipts settled with
  | .inl found => return (.mismatch found, journal)
  | .inr receipts =>
    match checkpointMismatch journal.finalizedCheckpoint last now with
    | some found => return (.mismatch found, journal)
    | none =>
      let advanced ← checkpoint journal.finalizedCheckpoint last.number last.hash
      return (.audited (marks.map Mark.number).dedup.length settled.length (last.number, last.hash),
        { journal with
          finalizedReceipts := receipts
          finalizedCheckpoint := some advanced
          softMarks := journal.softMarks.delete fun mark =>
            canonical.any fun block => block.1 == mark.number })

/-- The audit of the marks at some blocks, of which the chain's hashes are given. -/
def auditMarks (journal : Journal) (canonical : List (ℕ × String)) (now : ℕ) :
    Except String (Audit × Journal) := do
  match journal.mismatch with
  | some recorded => return (.stopped recorded, journal)
  | none =>
    match ← journal.canonicalMarks now canonical with
    | .inl found => return (.mismatch found, journal)
    | .inr marks =>
      match highestMark marks with
      | none => return (.idle, journal)
      | some last => journal.finalizeMarks canonical now marks last

/-! ### What an audit leaves -/

variable {journal after : Journal} {mark last : Mark} {marks : List Mark} {now : ℕ}
  {canonical : List (ℕ × String)} {result : Audit}

theorem mem_marksAt {number : ℕ} :
    mark ∈ journal.marksAt number ↔ mark ∈ journal.softMarks.rows ∧ mark.number = number := by
  unfold marksAt
  rw [List.mem_insertionSort, List.mem_filter, beq_iff_eq]

theorem markMismatch_eq_none {number : ℕ} {actual : String} :
    markMismatch marks number actual now = none ↔
      ∀ mark ∈ marks, eqIgnoreAsciiCase mark.hash actual = true := by
  unfold markMismatch
  rw [Option.map_eq_none_iff, List.find?_eq_none]
  simp only [Bool.not_eq_true', Bool.not_eq_false]

/-- The marks of some blocks are collected only if each has the hash given for its block. -/
theorem canonicalMarks_eq_inr
    (collected : journal.canonicalMarks now canonical = .ok (.inr marks)) :
    (∀ mark, mark ∈ marks ↔
      mark ∈ journal.softMarks.rows ∧ mark.number ∈ canonical.map Prod.fst) ∧
    ∀ block ∈ canonical, ∀ mark ∈ journal.softMarks.rows, mark.number = block.1 →
      eqIgnoreAsciiCase mark.hash block.2 = true := by
  induction canonical generalizing marks with
  | nil =>
    cases collected
    exact ⟨fun mark => ⟨nofun, fun both => nomatch both.2⟩, nofun⟩
  | cons block rest inductionHypothesis =>
    obtain ⟨number, actual⟩ := block
    unfold canonicalMarks at collected
    obtain ⟨_, -, collected⟩ := bind_eq_ok.mp collected
    cases compared : markMismatch (journal.marksAt number) number actual now with
    | some =>
      rw [compared] at collected
      exact nomatch collected
    | none =>
      rw [compared] at collected
      obtain ⟨later, laterCollected, collected⟩ := bind_eq_ok.mp collected
      cases later with
      | inl => exact nomatch collected
      | inr =>
        cases collected
        obtain ⟨members, same⟩ := inductionHypothesis laterCollected
        refine ⟨fun mark => ?_, fun block blockMem mark member onBlock => ?_⟩
        · rw [List.mem_append, mem_marksAt, members, List.map_cons, List.mem_cons, and_or_left]
        · rcases List.mem_cons.mp blockMem with rfl | later
          · exact markMismatch_eq_none.mp compared mark (mem_marksAt.mpr ⟨member, onBlock⟩)
          · exact same block later mark member onBlock

/-- A mark that does not have the hash given for its block is a mismatch, and nothing is written. -/
theorem auditMarks_of_differs {block : ℕ × String} (blockMem : block ∈ canonical)
    (member : mark ∈ journal.softMarks.rows) (onBlock : mark.number = block.1)
    (other : eqIgnoreAsciiCase mark.hash block.2 = false)
    (audited : journal.auditMarks canonical now = .ok (result, after)) : after = journal := by
  unfold auditMarks at audited
  cases recorded : journal.mismatch with
  | some =>
    rw [recorded] at audited
    cases audited
    rfl
  | none =>
    rw [recorded] at audited
    obtain ⟨outcome, collected, audited⟩ := bind_eq_ok.mp audited
    cases outcome with
    | inl =>
      cases audited
      rfl
    | inr =>
      have same := (canonicalMarks_eq_inr collected).2 block blockMem mark member onBlock
      exact nomatch same.symm.trans other

theorem highestMark_eq_none : highestMark marks = none ↔ marks = [] := by
  cases marks with
  | nil => exact ⟨fun _ => rfl, fun _ => rfl⟩
  | cons =>
    refine ⟨fun none => ?_, nofun⟩
    unfold highestMark at none
    split at none
    · split at none <;> exact nomatch none
    · exact nomatch none

theorem highestMark_eq_some (highest : highestMark marks = some last) :
    last ∈ marks ∧ ∀ mark ∈ marks, mark.number ≤ last.number := by
  induction marks generalizing last with
  | nil => exact nomatch highest
  | cons mark rest inductionHypothesis =>
    unfold highestMark at highest
    cases later : highestMark rest with
    | none =>
      rw [later] at highest
      cases highest
      rw [highestMark_eq_none.mp later]
      refine ⟨List.mem_cons_self, fun other member => ?_⟩
      rw [List.mem_singleton.mp member]
    | some =>
      rw [later] at highest
      obtain ⟨member, most⟩ := inductionHypothesis later
      dsimp only at highest
      split at highest
      case isTrue below =>
        cases highest
        exact ⟨List.mem_cons_of_mem _ member, List.forall_mem_cons.mpr ⟨below, most⟩⟩
      case isFalse above =>
        cases highest
        refine ⟨List.mem_cons_self, List.forall_mem_cons.mpr ⟨Nat.le_refl _, fun other known => ?_⟩⟩
        exact Nat.le_trans (most other known) (Nat.le_of_not_le above)

/-- The finalized receipts after those of some marks were inserted. -/
structure Inserts (receipts after : Receipts) (marks : List Mark) : Prop where
  kept : receipts.rows ⊆ after.rows
  settled : ∀ mark ∈ marks, ∃ status, mark.status = some status ∧ mark.receiptRow status ∈ after.rows
  only : ∀ row ∈ after.rows, row ∈ receipts.rows ∨
    ∃ mark ∈ marks, ∃ status, mark.status = some status ∧ row = mark.receiptRow status

/-- A receipt is made final only as the mark has it. -/
theorem finalizeReceipt_eq_inr {receipts after : Receipts}
    (inserted : finalizeReceipt receipts mark now = .ok (.inr after)) :
    Inserts receipts after [mark] := by
  unfold finalizeReceipt at inserted
  obtain ⟨_, -, inserted⟩ := bind_eq_ok.mp inserted
  cases hasStatus : mark.status with
  | none =>
    rw [hasStatus] at inserted
    exact nomatch inserted
  | some status =>
    rw [hasStatus] at inserted
    obtain ⟨_, -, inserted⟩ := bind_eq_ok.mp inserted
    dsimp only at inserted
    cases found : (receipts.insertOrIgnore (mark.receiptRow status)).rows.find?
        fun stored => stored.hash == mark.reference with
    | none =>
      rw [found] at inserted
      exact nomatch inserted
    | some stored =>
      rw [found] at inserted
      dsimp only at inserted
      split at inserted
      case isFalse => exact nomatch inserted
      case isTrue same =>
        cases inserted
        refine ⟨fun row member => receipts.mem_insertOrIgnore member, fun other member => ?_,
          fun row member => ?_⟩
        · have stands := List.mem_of_find?_eq_some found
          rw [same] at stands
          rw [List.mem_singleton.mp member]
          exact ⟨status, hasStatus, stands⟩
        · rcases receipts.insertOrIgnore_rows (mark.receiptRow status) with ⟨-, rows⟩ | ⟨-, rows⟩
          · rw [rows] at member
            exact .inl member
          · rw [rows, List.mem_append, List.mem_singleton] at member
            refine member.imp_right fun new => ?_
            exact ⟨mark, List.mem_singleton_self mark, status, hasStatus, new⟩

theorem finalizeReceipts_eq_inr {receipts after : Receipts}
    (inserted : finalizeReceipts now receipts marks = .ok (.inr after)) :
    Inserts receipts after marks := by
  induction marks generalizing receipts with
  | nil =>
    cases inserted
    exact ⟨fun _ member => member, nofun, fun row member => .inl member⟩
  | cons mark rest inductionHypothesis =>
    unfold finalizeReceipts at inserted
    obtain ⟨outcome, first, inserted⟩ := bind_eq_ok.mp inserted
    cases outcome with
    | inl => exact nomatch inserted
    | inr =>
      have step := finalizeReceipt_eq_inr first
      have later := inductionHypothesis inserted
      refine ⟨fun row member => later.kept (step.kept member), ?_, fun row member => ?_⟩
      · refine List.forall_mem_cons.mpr ⟨?_, later.settled⟩
        obtain ⟨status, has, member⟩ := step.settled mark (List.mem_singleton_self mark)
        exact ⟨status, has, later.kept member⟩
      · rcases later.only row member with before | ⟨other, otherMem, status, has, same⟩
        · rcases step.only row before with old | ⟨other, otherMem, status, has, same⟩
          · exact .inl old
          · rw [List.mem_singleton.mp otherMem] at has same
            exact .inr ⟨mark, List.mem_cons_self, status, has, same⟩
        · exact .inr ⟨other, List.mem_cons_of_mem _ otherMem, status, has, same⟩

/-- The checkpoint is raised to a block, or stands where it is if that is not lower. -/
def Raises (saved : Option (ℕ × String)) (last : Mark) (advanced : ℕ × String) : Prop :=
  (saved = some advanced ∧ (last.number < advanced.1 ∨ advanced = (last.number, last.hash))) ∨
    ((∀ previous, saved = some previous → previous.1 < last.number) ∧
      advanced = (last.number, last.hash))

theorem checkpoint_eq_ok {saved : Option (ℕ × String)} {advanced : ℕ × String}
    (moved : checkpoint saved last.number last.hash = .ok advanced) :
    Raises saved last advanced := by
  unfold checkpoint at moved
  split at moved
  case h_1 =>
    cases moved
    exact .inr ⟨nofun, rfl⟩
  case h_2 previous previousHash =>
    split at moved
    case isTrue below =>
      cases moved
      exact .inl ⟨rfl, .inl below⟩
    case isFalse above =>
      obtain ⟨_, agrees, moved⟩ := bind_eq_ok.mp moved
      rw [ensure_eq_ok] at agrees
      split at moved
      case isTrue same =>
        cases moved
        have hash : previousHash = last.hash := agrees.resolve_left fun other => other same
        exact .inl ⟨rfl, .inr (by rw [same, hash])⟩
      case isFalse other =>
        cases moved
        refine .inr ⟨fun saved same => ?_, rfl⟩
        cases same
        exact Nat.lt_of_le_of_ne (Nat.not_lt.mp above) other

/-- What an audit leaves that makes the marks of some blocks final: their marks, all of which have
the chain's hash, are gone and no others; their receipts are final as the marks have them, which no
stored receipt contradicts, and no other receipt is new; the checkpoint is at least the highest of
the blocks and is not lowered. -/
structure Finalizes (journal : Journal) (canonical : List (ℕ × String)) (after : Journal) :
    Prop where
  marks : ∀ mark, mark ∈ after.softMarks.rows ↔
    mark ∈ journal.softMarks.rows ∧ mark.number ∉ canonical.map Prod.fst
  hashes : ∀ block ∈ canonical, ∀ mark ∈ journal.softMarks.rows, mark.number = block.1 →
    eqIgnoreAsciiCase mark.hash block.2 = true
  settled : ∀ mark ∈ journal.softMarks.rows, mark.number ∈ canonical.map Prod.fst →
    mark.kind = .receipt → ∃ status, mark.status = some status ∧
      mark.receiptRow status ∈ after.finalizedReceipts.rows
  kept : journal.finalizedReceipts.rows ⊆ after.finalizedReceipts.rows
  agrees : ∀ stored ∈ journal.finalizedReceipts.rows, ∀ mark ∈ journal.softMarks.rows,
    mark.number ∈ canonical.map Prod.fst → mark.kind = .receipt → stored.hash = mark.reference →
      ∃ status, mark.status = some status ∧ stored = mark.receiptRow status
  only : ∀ row ∈ after.finalizedReceipts.rows, row ∈ journal.finalizedReceipts.rows ∨
    ∃ mark ∈ journal.softMarks.rows, mark.number ∈ canonical.map Prod.fst ∧
      mark.kind = .receipt ∧ ∃ status, mark.status = some status ∧ row = mark.receiptRow status
  raised : ∃ last ∈ journal.softMarks.rows, last.number ∈ canonical.map Prod.fst ∧
    (∀ mark ∈ journal.softMarks.rows, mark.number ∈ canonical.map Prod.fst →
      mark.number ≤ last.number) ∧
    ∃ advanced, after.finalizedCheckpoint = some advanced ∧
      Raises journal.finalizedCheckpoint last advanced
  rest : after = { journal with
    softMarks := after.softMarks
    finalizedReceipts := after.finalizedReceipts
    finalizedCheckpoint := after.finalizedCheckpoint }

/-- Marks that have the chain's hash are made final, or the journal is left as it was. -/
theorem finalizeMarks_eq_ok (members : ∀ mark, mark ∈ marks ↔
      mark ∈ journal.softMarks.rows ∧ mark.number ∈ canonical.map Prod.fst)
    (hashes : ∀ block ∈ canonical, ∀ mark ∈ journal.softMarks.rows, mark.number = block.1 →
      eqIgnoreAsciiCase mark.hash block.2 = true) (highest : highestMark marks = some last)
    (finalized : journal.finalizeMarks canonical now marks last = .ok (result, after)) :
    after = journal ∨ Finalizes journal canonical after := by
  unfold finalizeMarks at finalized
  obtain ⟨outcome, inserted, finalized⟩ := bind_eq_ok.mp finalized
  cases outcome with
  | inl =>
    cases finalized
    exact .inl rfl
  | inr receipts =>
    dsimp only at finalized
    cases conflict : checkpointMismatch journal.finalizedCheckpoint last now with
    | some =>
      rw [conflict] at finalized
      cases finalized
      exact .inl rfl
    | none =>
      rw [conflict] at finalized
      obtain ⟨advanced, moved, finalized⟩ := bind_eq_ok.mp finalized
      cases finalized
      have inserts := finalizeReceipts_eq_inr inserted
      obtain ⟨lastMem, most⟩ := highestMark_eq_some highest
      obtain ⟨lastRow, lastNumber⟩ := (members last).mp lastMem
      have settled : ∀ mark ∈ journal.softMarks.rows, mark.number ∈ canonical.map Prod.fst →
          mark.kind = .receipt → ∃ status, mark.status = some status ∧
            mark.receiptRow status ∈ receipts.rows := by
        intro mark member onBlock isReceipt
        refine inserts.settled mark (List.mem_filter.mpr ⟨(members mark).mpr ⟨member, onBlock⟩, ?_⟩)
        exact beq_iff_eq.mpr isReceipt
      refine .inr ⟨fun mark => ?_, hashes, settled, inserts.kept,
        fun stored storedMem mark member onBlock isReceipt same => ?_, fun row member => ?_, ?_, rfl⟩
      · rw [Table.mem_delete]
        refine and_congr_right fun _ => ?_
        rw [List.any_eq_false, List.mem_map, not_exists]
        simp only [beq_iff_eq, not_and]
      · obtain ⟨status, has, row⟩ := settled mark member onBlock isReceipt
        exact ⟨status, has, receipts.eq_of_key_eq (inserts.kept storedMem) row same⟩
      · refine (inserts.only row member).imp_right ?_
        rintro ⟨mark, markMem, status, has, same⟩
        obtain ⟨markMem, isReceipt⟩ := List.mem_filter.mp markMem
        obtain ⟨markRow, onBlock⟩ := (members mark).mp markMem
        exact ⟨mark, markRow, onBlock, beq_iff_eq.mp isReceipt, status, has, same⟩
      · refine ⟨last, lastRow, lastNumber, fun mark member onBlock => ?_, advanced, rfl,
          checkpoint_eq_ok moved⟩
        exact most mark ((members mark).mpr ⟨member, onBlock⟩)

/-- An audit of the marks leaves the journal as it was, or makes them final. -/
theorem auditMarks_eq_ok (audited : journal.auditMarks canonical now = .ok (result, after)) :
    after = journal ∨ Finalizes journal canonical after := by
  unfold auditMarks at audited
  cases recorded : journal.mismatch with
  | some =>
    rw [recorded] at audited
    cases audited
    exact .inl rfl
  | none =>
    rw [recorded] at audited
    obtain ⟨outcome, collected, audited⟩ := bind_eq_ok.mp audited
    cases outcome with
    | inl =>
      cases audited
      exact .inl rfl
    | inr marks =>
      obtain ⟨members, hashes⟩ := canonicalMarks_eq_inr collected
      dsimp only at audited
      cases highest : highestMark marks with
      | none =>
        rw [highest] at audited
        cases audited
        exact .inl rfl
      | some =>
        rw [highest] at audited
        exact finalizeMarks_eq_ok members hashes highest audited

/-- `SELECT DISTINCT number FROM soft_marks WHERE number<=? ORDER BY number LIMIT ?`. -/
def markNumbers (journal : Journal) (upTo limit : ℕ) : Except String (List ℕ) := do
  let upTo ← tryI64 upTo
  let numbers := (journal.softMarks.rows.map Mark.number).filter fun number => decide (number ≤ upTo)
  return (numbers.dedup.insertionSort fun first second => first ≤ second).take limit

end D20.Journal

namespace D20.Finality

open Journal

/-! ### What the endpoints say -/

/-- A block as an endpoint gives it. -/
structure BlockHead where
  number : ℕ
  hash : BlockHash
  timestamp : ℕ
  deriving DecidableEq

/-- The most distinct blocks one audit reads. -/
def auditBlocks : ℕ := 64

/-- How long a finalized header must have stood before the audit takes an endpoint's word for it. -/
def finalizedMinAgeSeconds : ℕ := 600

/-- A header that has stood long enough; the addition saturates. -/
def BlockHead.settled (now : ℕ) (head : BlockHead) : Bool :=
  decide (min (head.timestamp + finalizedMinAgeSeconds) (2 ^ 64 - 1) ≤ now)

/-- The highest block the audit makes final: the highest of the headers that have stood long enough,
or the lowest of all of them when none has. -/
def finalBound (first : BlockHead) (views : List BlockHead) (now : ℕ) : ℕ :=
  match (((first :: views).filter (BlockHead.settled now)).map BlockHead.number).max? with
  | some highest => highest
  | none => (((first :: views).map BlockHead.number).min?).getD first.number

/-- What the endpoints answer to one audit: the finalized head that is read first, the number of
endpoints that answer reads, the finalized head of each that gave one in time, each endpoint's
answer to the blocks it is asked for, what the one endpoint says that is asked when none of them
gave them all, and whether the reads finished in time. -/
structure AuditReads where
  finalized : Except String BlockHead
  admitted : ℕ
  views : List BlockHead
  answers : List ℕ → List (Option (List (Option BlockHead)))
  single : List ℕ → Except String (List BlockHash)
  inTime : Bool

/-- A block of the number that was asked for. -/
def numberedBlock (number : ℕ) (block : Option BlockHead) : Option BlockHash :=
  block.bind fun block => if block.number = number then some block.hash else none

variable (numbers : List ℕ)

/-- The hashes an endpoint gave for the blocks it was asked for, if it gave them all. -/
def usableHashes (blocks : List (Option BlockHead)) : Option (List BlockHash) :=
  ((numbers.zip blocks).mapM fun pair => numberedBlock pair.1 pair.2).filter fun hashes =>
    hashes.length == numbers.length

/-- Every endpoint's hashes of the blocks. An endpoint that does not answer them all is left out. -/
def blockHashViews (answers : List (Option (List (Option BlockHead)))) :
    List (List BlockHash) :=
  answers.filterMap fun answer => answer.bind (usableHashes numbers)

/-! ### One audit -/

/-- The blocks an audit compares, and the hashes of them. -/
def readBlocks (journal : Journal) (reads : AuditReads) (now : ℕ) :
    Except String (List ℕ × List (List BlockHash)) := do
  let finalized ← reads.finalized
  let numbers ← journal.markNumbers finalized.number auditBlocks
  if numbers = [] then return (numbers, [])
  else if reads.admitted < 2 then return (numbers, [← reads.single numbers])
  else
    let upTo := finalBound finalized reads.views now
    let bounded := numbers.filter fun number => decide (number ≤ upTo)
    if bounded = [] then return (bounded, [])
    else
      let sets := blockHashViews bounded (reads.answers bounded)
      if sets = [] then return (bounded, [← reads.single bounded]) else return (bounded, sets)

/-- The chain's hash of each block, as an endpoint gave it. -/
def canonical (hashes : List BlockHash) : List (ℕ × String) :=
  (numbers.zip hashes).map fun pair => (pair.1, pair.2.text)

/-- A mark whose block has another hash. -/
def differs (journal : Journal) (numbers : List ℕ) (hashes : List BlockHash) : Bool :=
  (canonical numbers hashes).any fun block => journal.softMarks.rows.any fun mark =>
    mark.number == block.1 && !eqIgnoreAsciiCase mark.hash block.2

/-- One audit. Without a result nothing was written. -/
def audit (journal : Journal) (reads : AuditReads) (now : ℕ) :
    Except String (Option Audit × Journal) := do
  match journal.mismatch with
  | some recorded => return (some (.stopped recorded), journal)
  | none =>
    if reads.inTime = false then return (none, journal)
    else
      let read ← readBlocks journal reads now
      if read.1 = [] then return (some .idle, journal)
      else
        match read.2 with
        | [] => .error "index out of bounds"
        | first :: rest =>
          if rest.all fun set => set == first then
            let audited ← journal.auditMarks (canonical read.1 first) now
            return (some audited.1, audited.2)
          else
            match (first :: rest).find? (differs journal read.1) with
            | none => return (none, journal)
            | some other =>
              let audited ← journal.auditMarks (canonical read.1 other) now
              return (some audited.1, audited.2)

/-! ### What an audit finalizes -/

/-- An endpoint gave every block it was asked for. -/
structure GivesAll (numbers : List ℕ) (blocks : List (Option BlockHead)) : Prop where
  long : numbers.length ≤ blocks.length
  each : ∀ pair ∈ numbers.zip blocks, ∃ block, pair.2 = some block ∧ block.number = pair.1

variable {numbers : List ℕ}

/-- The hashes of the blocks that an endpoint gave. -/
theorem GivesAll.collected {blocks : List (Option BlockHead)} (gives : GivesAll numbers blocks) :
    ∃ hashes, ((numbers.zip blocks).mapM fun pair => numberedBlock pair.1 pair.2) = some hashes ∧
      hashes.length = numbers.length ∧ ∀ number block, (number, some block) ∈ numbers.zip blocks →
        (number, block.hash) ∈ numbers.zip hashes := by
  induction numbers generalizing blocks with
  | nil => exact ⟨[], rfl, rfl, nofun⟩
  | cons number rest inductionHypothesis =>
    cases blocks with
    | nil => exact nomatch gives.long
    | cons first others =>
      have restGives : GivesAll rest others :=
        ⟨Nat.le_of_succ_le_succ gives.long,
          fun pair member => gives.each pair (List.mem_cons_of_mem _ member)⟩
      obtain ⟨hashes, collects, length, members⟩ := inductionHypothesis restGives
      obtain ⟨block, isSome, numbered⟩ := gives.each (number, first) List.mem_cons_self
      cases isSome
      refine ⟨block.hash :: hashes, ?_, congrArg Nat.succ length, fun other given member => ?_⟩
      · have head : numberedBlock number (some block) = some block.hash := if_pos numbered
        rw [List.zip_cons_cons, List.mapM_cons, head, collects]
        rfl
      · rw [List.zip_cons_cons] at member ⊢
        rcases List.mem_cons.mp member with same | later
        · cases same
          exact List.mem_cons_self
        · exact List.mem_cons_of_mem _ (members other given later)

theorem GivesAll.mem_views {blocks : List (Option BlockHead)}
    {answers : List (Option (List (Option BlockHead)))} (gives : GivesAll numbers blocks)
    (answered : some blocks ∈ answers) :
    ∃ hashes ∈ blockHashViews numbers answers, ∀ number block,
      (number, some block) ∈ numbers.zip blocks → (number, block.hash) ∈ numbers.zip hashes := by
  obtain ⟨hashes, collects, length, members⟩ := gives.collected
  refine ⟨hashes, List.mem_filterMap.mpr ⟨some blocks, answered, ?_⟩, members⟩
  have usable : usableHashes numbers blocks = some hashes := by
    unfold usableHashes
    rw [collects, Option.filter_some, if_pos (beq_iff_eq.mpr length)]
  exact usable

/-- A mark that the endpoints confirmed: it is at or below the final bound, and every endpoint that
gave all the blocks shows the hash it has. -/
structure Confirmed (reads : AuditReads) (now : ℕ) (numbers : List ℕ)
    (mark : Journal.Mark) : Prop where
  bound : ∃ finalized, reads.finalized = .ok finalized ∧
    mark.number ≤ finalBound finalized reads.views now
  shown : ∀ blocks, some blocks ∈ reads.answers numbers → GivesAll numbers blocks →
    ∀ block, (mark.number, some block) ∈ numbers.zip blocks →
      eqIgnoreAsciiCase mark.hash block.hash.text = true

/-- With two endpoints or more, an audit compares blocks at or below the final bound with the word
of every endpoint that gave them all. -/
theorem readBlocks_eq_ok {journal : Journal} {reads : AuditReads} {now : ℕ}
    {sets : List (List BlockHash)} (read : readBlocks journal reads now = .ok (numbers, sets))
    (several : 2 ≤ reads.admitted) (some : numbers ≠ []) :
    (∃ finalized, reads.finalized = .ok finalized ∧
      ∀ number ∈ numbers, number ≤ finalBound finalized reads.views now) ∧
    blockHashViews numbers (reads.answers numbers) ⊆ sets := by
  unfold readBlocks at read
  obtain ⟨finalized, isFinalized, read⟩ := bind_eq_ok.mp read
  obtain ⟨marked, -, read⟩ := bind_eq_ok.mp read
  split at read
  case isTrue none =>
    cases read
    exact absurd none some
  case isFalse =>
    rw [if_neg (Nat.not_lt.mpr several)] at read
    dsimp only at read
    split at read
    case isTrue none =>
      cases read
      exact absurd none some
    case isFalse =>
      have bounded : ∀ number ∈ marked.filter fun number =>
          decide (number ≤ finalBound finalized reads.views now),
          number ≤ finalBound finalized reads.views now :=
        fun number member => of_decide_eq_true (List.mem_filter.mp member).2
      split at read
      case isTrue unanswered =>
        obtain ⟨single, -, read⟩ := bind_eq_ok.mp read
        cases read
        refine ⟨⟨finalized, isFinalized, bounded⟩, ?_⟩
        rw [unanswered]
        exact List.nil_subset _
      case isFalse =>
        cases read
        exact ⟨⟨finalized, isFinalized, bounded⟩, fun _ member => member⟩

theorem mem_numbers {hashes : List BlockHash} {number : ℕ}
    (member : number ∈ (canonical numbers hashes).map Prod.fst) : number ∈ numbers := by
  unfold canonical at member
  rw [List.map_map] at member
  obtain ⟨pair, pairMem, same⟩ := List.mem_map.mp member
  exact same ▸ (List.of_mem_zip pairMem).1

theorem auditMarks_of_find {journal after : Journal} {sets : List (List BlockHash)}
    {other : List BlockHash} {now : ℕ} {result : Audit}
    (found : sets.find? (differs journal numbers) = some other)
    (audited : journal.auditMarks (canonical numbers other) now = .ok (result, after)) :
    after = journal := by
  have differ := List.find?_some found
  unfold differs at differ
  obtain ⟨block, blockMem, differ⟩ := List.any_eq_true.mp differ
  obtain ⟨mark, member, differ⟩ := List.any_eq_true.mp differ
  rw [Bool.and_eq_true, beq_iff_eq, Bool.not_eq_true'] at differ
  exact auditMarks_of_differs blockMem member differ.1 differ.2 audited

/-- A hash that repeats one digit. -/
def digitHash (digit : Char) (lower : (digit.toLower == digit) = true) : BlockHash where
  text := String.ofList ('0' :: 'x' :: List.replicate 64 digit)
  lower := by
    rw [String.toList_ofList, List.all_cons, List.all_cons, List.all_replicate, lower]
    decide

/-- The keeper acted on blocks 10 and 11: it settled a receipt in the first and ticked at the
second. -/
def markedJournal : Journal :=
  { Journal.fresh with
    softMarks := ⟨[⟨.receipt, 10, (digitHash 'a' rfl).text, "0x01", 0, some 1⟩,
      ⟨.head, 11, (digitHash 'b' rfl).text, "", 0, none⟩], by decide⟩ }

/-- Two endpoints: the first gives both blocks as the keeper has them, the second shows another hash
for block 10 and does not have block 11. -/
def splitReads : AuditReads where
  finalized := .ok ⟨12, digitHash 'c' rfl, 0⟩
  admitted := 2
  views := []
  answers := fun _ => [some [some ⟨10, digitHash 'a' rfl, 0⟩, some ⟨11, digitHash 'b' rfl, 0⟩],
    some [some ⟨10, digitHash 'd' rfl, 0⟩, none]]
  single := fun _ => .error ""
  inTime := true

theorem splitReads_empties : ∃ result after,
    audit markedJournal splitReads 1000 = .ok (result, after) ∧ after.softMarks.rows = [] := by
  have emptied : (audit markedJournal splitReads 1000).toOption.map
      (fun audited => audited.2.softMarks.rows) = some [] := by decide +kernel
  cases audited : audit markedJournal splitReads 1000 with
  | error =>
    rw [audited] at emptied
    exact nomatch emptied
  | ok pair =>
    rw [audited] at emptied
    exact ⟨pair.1, pair.2, rfl, Option.some.inj emptied⟩

end D20.Finality
