/-
This file models a keeper that always ran in soft mode and proves that it keeps the bytes of every
transaction it signed until the audit made its receipt final. The sequencer can replace a block
until then, and the bytes are what sends the transaction again; the compaction that blanks them, the
audit and the recovery work on the same rows, and the invariant is carried along every run of them.
-/

import D20Keeper.Reopening
import D20Keeper.FinalityAudit

namespace D20.Journal

/-! ### Runs in soft mode -/

/-- The receipt of an attempt is final. -/
def IsFinal (journal : Journal) (attempt : Attempt) : Prop :=
  ∃ receipt ∈ journal.finalizedReceipts.rows, receipt.hash = attempt.hash

/-- A transaction of a soft keeper's journal: the audit of some blocks, of which the chain's hashes
are given, or any other. -/
inductive SoftCall
  | call (call : Call)
  | audit (canonical : List (ℕ × String)) (now : ℕ)

/-- An audit that committed: the journal before it, the blocks and the journal after it. -/
structure AuditRecord where
  before : Journal
  canonical : List (ℕ × String)
  after : Journal

/-- A journal beside the attempts that it signed, in their order, and the audits of its run. -/
structure SoftHistory where
  journal : Journal
  signed : List Attempt
  audits : List AuditRecord

namespace SoftHistory

/-- The start of a run. -/
def start : SoftHistory := ⟨fresh, [], []⟩

/-- The history after a call. -/
def after (digest : String → String) (history : SoftHistory) : SoftCall → SoftHistory
  | .call call =>
    match call.apply digest history.journal with
    | .error _ => history
    | .ok journal =>
      { history with journal := journal, signed := history.signed ++ call.inserted history.journal }
  | .audit canonical now =>
    match history.journal.auditMarks canonical now with
    | .error _ => history
    | .ok (_, journal) =>
      { history with
        journal := journal
        audits := history.audits ++ [⟨history.journal, canonical, journal⟩] }

/-- The calls of a soft keeper. A signed transaction has bytes and a payload; only attempts of the
lane are stamped as submitted; compaction is that of soft mode; the finalized receipts are the
audit's, and none of them is contradicted: no nonce with a final receipt is reopened, and the
incident that ends named none of them. -/
def Allows (history : SoftHistory) : SoftCall → Prop
  | .call (.signed attempt _) | .call (.signedBatch attempt _ _) =>
    attempt.raw ≠ "" ∧ attempt.payload ≠ ""
  | .call (.txSubmitted id) => ∀ attempt ∈ history.journal.txs.rows, attempt.id = id →
    attempt.state.active = true
  | .call (.compactHistory _ mode) => mode = .soft
  | .call (.reopenNonce nonce _ _) => ∀ attempt ∈ history.journal.txs.rows,
    attempt.nonce = nonce → ¬history.journal.IsFinal attempt
  | .call (.clearFinalityIncident _) =>
    ∀ recorded, history.journal.mismatch = some recorded → recorded.kind = .finalizedReceipt →
      ∀ receipt ∈ history.journal.finalizedReceipts.rows, ¬(receipt.hash = recorded.reference ∧
        receipt.blockNumber = recorded.number ∧ receipt.blockHash = recorded.expected)
  | .call (.setFinality _ receipts _ _) => receipts = history.journal.finalizedReceipts
  | _ => True

end SoftHistory

/-- The runs of a soft keeper. -/
inductive SoftRuns (digest : String → String) : List SoftCall → SoftHistory → Prop
  | start : SoftRuns digest [] .start
  | call {calls : List SoftCall} {history : SoftHistory} (run : SoftRuns digest calls history)
      (call : SoftCall) (allowed : history.Allows call) :
      SoftRuns digest (calls ++ [call]) (history.after digest call)

/-! ### What is kept of an attempt -/

/-- A row keeps the bytes and the payload it was signed with, or they were blanked once it was
resolved and its receipt was final. -/
structure KeptAs (journal : Journal) (row signed : Attempt) : Prop where
  same : SameTx signed row
  bytes : (row.raw = signed.raw ∧ row.payload = signed.payload) ∨
    (row.state = .resolved ∧ journal.IsFinal row)

/-- An audit made a receipt final: it was the receipt of a mark that had the chain's hash. -/
def AuditRecord.Confirms (record : AuditRecord) (receipt : FinalizedReceipt) : Prop :=
  Finalizes record.before record.canonical record.after ∧
    ∃ mark ∈ record.before.softMarks.rows, mark.kind = .receipt ∧
      (∃ block ∈ record.canonical, mark.number = block.1 ∧
        Finality.eqIgnoreAsciiCase mark.hash block.2 = true) ∧
      ∃ status, mark.status = some status ∧ receipt = mark.receiptRow status

/-- The invariant of a soft keeper's run. -/
structure SoftHistory.Sound (history : SoftHistory) : Prop where
  kept : List.Forall₂ (KeptAs history.journal) history.journal.txs.rows history.signed
  bytes : ∀ attempt ∈ history.signed, attempt.raw ≠ "" ∧ attempt.payload ≠ ""
  ids : (history.journal.txs.rows.map Attempt.id).Nodup
  confirmed : ∀ receipt ∈ history.journal.finalizedReceipts.rows,
    ∃ record ∈ history.audits, record.Confirms receipt

/-! ### What a call keeps -/

section Change

variable {journal : Journal} {row signed : Attempt}

section

variable (kept : KeptAs journal row signed)

include kept

/-- A change that leaves the bytes, the payload and a resolved state keeps what was kept. -/
theorem KeptAs.of_unblanked {changed : Attempt}
    (same : SameTx row changed) (raw : changed.raw = row.raw)
    (payload : changed.payload = row.payload)
    (resolved : row.state = .resolved → changed.state = .resolved) :
    KeptAs journal changed signed := by
  refine ⟨kept.same.trans same, kept.bytes.imp (fun bytes => ?_) (fun blanked => ?_)⟩
  · exact ⟨raw.trans bytes.1, payload.trans bytes.2⟩
  · obtain ⟨receipt, member, hash⟩ := blanked.2
    exact ⟨resolved blanked.1, receipt, member, hash.trans same.hash.symm⟩

theorem KeptAs.of_bytes {changed : Attempt}
    (there : ¬(row.state = .resolved ∧ journal.IsFinal row)) (same : SameTx row changed)
    (raw : changed.raw = row.raw) (payload : changed.payload = row.payload) :
    KeptAs journal changed signed := by
  obtain ⟨rawKept, payloadKept⟩ := kept.bytes.resolve_right there
  exact ⟨kept.same.trans same, .inl ⟨raw.trans rawKept, payload.trans payloadKept⟩⟩

theorem KeptAs.submitted {id : ℕ}
    (active : row.id = id → row.state.active = true) :
    KeptAs journal (submittedRow id row) signed := by
  unfold submittedRow
  split
  case isFalse => exact kept
  case isTrue isRow =>
    refine kept.of_bytes (fun blanked => ?_) ⟨rfl, rfl, rfl, rfl, rfl⟩ rfl rfl
    have inLane := active isRow
    rw [blanked.1] at inLane
    exact nomatch inLane

/-- Reopening a nonce without a final receipt keeps the bytes of every attempt. -/
theorem KeptAs.reopened {nonce now : ℕ}
    (unsettled : row.nonce = nonce → ¬journal.IsFinal row) :
    KeptAs journal (reopenedRow nonce now row) signed := by
  unfold reopenedRow
  split
  case isTrue isNonce =>
    exact kept.of_bytes (fun blanked => unsettled isNonce blanked.2) ⟨rfl, rfl, rfl, rfl, rfl⟩ rfl rfl
  case isFalse =>
    refine kept.of_unblanked ⟨rfl, rfl, rfl, rfl, rfl⟩ rfl rfl fun resolved => ?_
    dsimp only
    rw [resolved]
    rfl

/-- The compaction of soft mode blanks only resolved attempts with a final receipt. -/
theorem KeptAs.compacted (member : row ∈ journal.txs.rows)
    (ids : (journal.txs.rows.map Attempt.id).Nodup) :
    KeptAs journal (compactedRow (journal.compactedIds .soft) row) signed := by
  unfold compactedRow
  split
  case isFalse => exact kept
  case isTrue chosen =>
    have listed := List.mem_of_mem_take (List.contains_iff_mem.mp chosen)
    obtain ⟨other, otherMem, sameId⟩ := List.mem_map.mp listed
    obtain ⟨otherMem, compactable⟩ := List.mem_filter.mp otherMem
    rw [List.inj_on_of_nodup_map ids otherMem member sameId] at compactable
    unfold compactableTx at compactable
    simp only [Bool.and_eq_true, beq_iff_eq, List.any_eq_true] at compactable
    obtain ⟨⟨⟨⟨resolved, -⟩, -⟩, -⟩, receipt, receiptMem, hash⟩ := compactable
    exact ⟨kept.same.trans ⟨rfl, rfl, rfl, rfl, rfl⟩, .inr ⟨resolved, receipt, receiptMem, hash⟩⟩

end

end Change

variable {history : SoftHistory} {call : Call} {nonce : ℕ}

/-- A call of a soft keeper keeps the bytes of an attempt, or blanks them when they may be. -/
theorem KeptAs.change {row signed : Attempt} (kept : KeptAs history.journal row signed)
    (allowed : history.Allows (.call call)) (member : row ∈ history.journal.txs.rows)
    (ids : (history.journal.txs.rows.map Attempt.id).Nodup) :
    KeptAs history.journal (call.change history.journal row) signed := by
  cases call with
  | txSubmitted => exact kept.submitted (allowed row member)
  | broadcastAttempt =>
    unfold Call.change broadcastRow
    dsimp only
    split
    · exact kept.of_unblanked ⟨rfl, rfl, rfl, rfl, rfl⟩ rfl rfl fun resolved => resolved
    · exact kept
  | resolveNonce nonce | resolveNonceJob nonce | resolveNonceEpoch nonce | resolveNonceBatch nonce =>
    unfold Call.change resolvedRow
    dsimp only
    split
    · exact kept.of_unblanked ⟨rfl, rfl, rfl, rfl, rfl⟩ rfl rfl fun _ => rfl
    · exact kept
  | reopenNonce =>
    unfold Call.change
    dsimp only
    split
    · exact kept
    · exact kept.reopened (allowed row member)
  | beginFill =>
    refine kept.of_unblanked ⟨rfl, rfl, rfl, rfl, rfl⟩ rfl rfl fun resolved => ?_
    unfold Call.change parkedRow
    dsimp only
    rw [resolved]
    rfl
  | unparkLanes | clearFinalityIncident =>
    refine kept.of_unblanked ⟨rfl, rfl, rfl, rfl, rfl⟩ rfl rfl fun resolved => ?_
    unfold Call.change unparkedRow
    dsimp only
    rw [resolved]
    rfl
  | compactHistory now mode =>
    have soft : mode = .soft := allowed
    rw [soft]
    unfold Call.change
    dsimp only
    split
    · exact kept
    · exact kept.compacted member ids
  | _ => exact kept

/-- No call but the audit changes the finalized receipts of a soft keeper. -/
theorem SoftHistory.receipts_of_allowed (allowed : history.Allows (.call call)) :
    call.receiptsAfter history.journal = history.journal.finalizedReceipts := by
  cases call with
  | setFinality => exact allowed
  | clearFinalityIncident =>
    unfold Call.receiptsAfter
    dsimp only
    cases recorded : history.journal.mismatch with
    | none => rfl
    | some mismatch =>
      unfold dropFinalized
      dsimp only
      split
      case h_1 isReceipt =>
        refine Table.ext (List.filter_eq_self.mpr fun receipt member => ?_)
        have kept := allowed mismatch recorded isReceipt receipt member
        simp only [Bool.not_eq_true', Bool.and_eq_false_iff, beq_eq_false_iff_ne]
        by_contra named
        simp only [not_or, not_not] at named
        exact kept ⟨named.1.1, named.1.2, named.2⟩
      · rfl
      · rfl
      · rfl
  | _ => rfl

/-! ### The invariant along a run -/

theorem SoftHistory.sound_start : SoftHistory.start.Sound :=
  ⟨.nil, nofun, List.nodup_nil, nofun⟩

theorem KeptAs.mono {journal after : Journal} {row signed : Attempt}
    (kept : KeptAs journal row signed)
    (receipts : journal.finalizedReceipts.rows ⊆ after.finalizedReceipts.rows) :
    KeptAs after row signed := by
  refine ⟨kept.same, kept.bytes.imp_right fun blanked => ?_⟩
  obtain ⟨receipt, member, hash⟩ := blanked.2
  exact ⟨blanked.1, receipt, receipts member, hash⟩

theorem SoftHistory.inserted_bytes (allowed : history.Allows (.call call)) :
    ∀ attempt ∈ call.inserted history.journal, attempt.raw ≠ "" ∧ attempt.payload ≠ "" := by
  cases call with
  | signed | signedBatch =>
    intro attempt member
    rw [List.mem_singleton.mp member]
    exact allowed
  | _ => exact fun _ member => absurd member List.not_mem_nil

/-- A call that committed keeps the invariant. -/
theorem SoftHistory.Sound.committed {journal : Journal} (sound : history.Sound)
    (allowed : history.Allows (.call call)) (does : call.Does history.journal journal) :
    Sound { history with
      journal := journal, signed := history.signed ++ call.inserted history.journal } := by
  have receipts : journal.finalizedReceipts = history.journal.finalizedReceipts :=
    does.receipts.trans (receipts_of_allowed allowed)
  refine ⟨?_, ?_, does.ids sound.ids, ?_⟩
  · dsimp only
    rw [does.rows]
    refine List.rel_append ?_ ?_
    · rw [List.forall₂_map_left_iff]
      have present := (List.forall₂_and_left _ _).mpr ⟨fun row member => member, sound.kept⟩
      refine present.imp fun row signed kept => ?_
      refine (kept.2.change allowed kept.1 sound.ids).mono ?_
      rw [receipts]
      exact List.Subset.refl _
    · exact List.forall₂_same.mpr fun row _ => ⟨⟨rfl, rfl, rfl, rfl, rfl⟩, .inl ⟨rfl, rfl⟩⟩
  · intro attempt member
    rcases List.mem_append.mp member with old | new
    · exact sound.bytes attempt old
    · exact inserted_bytes allowed attempt new
  · dsimp only
    rw [receipts]
    exact sound.confirmed

/-- An audit that committed keeps the invariant. -/
theorem SoftHistory.Sound.audited {canonical : List (ℕ × String)} {now : ℕ} {result : Audit}
    {journal : Journal} (sound : history.Sound)
    (audited : history.journal.auditMarks canonical now = .ok (result, journal)) :
    Sound { history with
      journal := journal
      audits := history.audits ++ [⟨history.journal, canonical, journal⟩] } := by
  have older : ∀ receipt ∈ history.journal.finalizedReceipts.rows,
      ∃ record ∈ history.audits ++ [⟨history.journal, canonical, journal⟩],
        record.Confirms receipt := by
    intro receipt member
    obtain ⟨record, recordMem, confirms⟩ := sound.confirmed receipt member
    exact ⟨record, List.mem_append_left _ recordMem, confirms⟩
  rcases auditMarks_eq_ok audited with same | finalizes
  · subst same
    exact ⟨sound.kept, sound.bytes, sound.ids, older⟩
  · have rows : journal.txs = history.journal.txs := by rw [finalizes.rest]
    refine ⟨?_, sound.bytes, ?_, fun receipt member => ?_⟩
    · dsimp only
      rw [rows]
      exact sound.kept.imp fun row signed kept => kept.mono finalizes.kept
    · dsimp only
      rw [rows]
      exact sound.ids
    · rcases finalizes.only receipt member with old | ⟨mark, markMem, onBlock, isReceipt, final⟩
      · exact older receipt old
      · refine ⟨_, List.mem_append_right _ (List.mem_singleton_self _), finalizes, mark, markMem,
          isReceipt, ?_, final⟩
        obtain ⟨block, blockMem, number⟩ := List.mem_map.mp onBlock
        exact ⟨block, blockMem, number.symm,
          finalizes.hashes block blockMem mark markMem number.symm⟩

/-- A call of a soft keeper keeps the invariant. -/
theorem SoftHistory.Sound.step {digest : String → String} {call : SoftCall}
    (sound : history.Sound) (allowed : history.Allows call) :
    (history.after digest call).Sound := by
  cases call with
  | call call =>
    unfold SoftHistory.after
    dsimp only
    cases committed : call.apply digest history.journal with
    | error => exact sound
    | ok => exact sound.committed allowed (Call.does committed)
  | audit canonical now =>
    unfold SoftHistory.after
    dsimp only
    cases audited : history.journal.auditMarks canonical now with
    | error => exact sound
    | ok => exact sound.audited audited

theorem SoftRuns.sound {digest : String → String} {calls : List SoftCall}
    (run : SoftRuns digest calls history) : history.Sound := by
  induction run with
  | start => exact SoftHistory.sound_start
  | call run call allowed inductionHypothesis => exact inductionHypothesis.step allowed

/-! ### Reopening a nonce -/

/-- A reopened attempt: it is submitted again, with the bytes and the payload it was signed with. -/
structure BackInLane (row signed : Attempt) : Prop where
  same : SameTx signed row
  state : row.state = .submitted
  raw : row.raw = signed.raw
  payload : row.payload = signed.payload

/-- The attempts of a nonce that has no final receipt have their bytes. -/
theorem SoftHistory.Sound.attemptsOf (sound : history.Sound)
    (unsettled : ∀ attempt ∈ history.journal.txs.rows, attempt.nonce = nonce →
      ¬history.journal.IsFinal attempt) :
    List.Forall₂ (fun row signed => SameTx signed row ∧ row.raw = signed.raw ∧
        row.payload = signed.payload)
      (history.journal.attemptsOf nonce) (history.signed.filter fun row => row.nonce == nonce) := by
  have paired : List.Forall₂ (KeptAs history.journal) (history.journal.attemptsOf nonce)
      (history.signed.filter fun row => row.nonce == nonce) := by
    refine List.rel_filter (fun row signed kept => ?_) sound.kept
    show (row.nonce == nonce) = true ↔ (signed.nonce == nonce) = true
    rw [kept.same.nonce]
  have listed := (List.forall₂_and_left _ _).mpr ⟨fun row member => member, paired⟩
  refine listed.imp fun row signed kept => ⟨kept.2.same, kept.2.bytes.resolve_right ?_⟩
  obtain ⟨member, isNonce⟩ := List.mem_filter.mp kept.1
  exact fun blanked => unsettled row member (beq_iff_eq.mp isNonce) blanked.2

/-- An entry of a paired list has its partner in the other. -/
theorem exists_of_forall₂ {First Second : Type} {related : First → Second → Prop}
    {firsts : List First} {seconds : List Second} (paired : List.Forall₂ related firsts seconds)
    {first : First} (member : first ∈ firsts) : ∃ second ∈ seconds, related first second := by
  induction paired with
  | nil => exact nomatch member
  | cons here _ inductionHypothesis =>
    rcases List.mem_cons.mp member with rfl | later
    · exact ⟨_, List.mem_cons_self, here⟩
    · obtain ⟨second, secondMem, holds⟩ := inductionHypothesis later
      exact ⟨second, List.mem_cons_of_mem _ secondMem, holds⟩

theorem bytesGone_eq_false {rows : List Attempt} (some : rows ≠ [])
    (bytes : ∀ row ∈ rows, row.raw ≠ "") : bytesGone rows = false := by
  unfold bytesGone
  rw [List.getLast?_eq_getLast_of_ne_nil some, Option.all_some, beq_eq_false_iff_ne]
  exact bytes _ (List.getLast_mem some)

/-- A nonce whose bytes are there is reopened. -/
theorem reopenNonce_of_bytes {journal : Journal} {chainTime : ℕ} (wallTime : ℕ)
    (fits : nonce ≤ maxI64) (timeFits : chainTime ≤ maxI64)
    (bytes : bytesGone (journal.attemptsOf nonce) = false) :
    ∃ after, journal.reopenNonce nonce chainTime wallTime = .ok (.lane, after) := by
  unfold reopenNonce
  rw [tryI64_eq_ok.mpr ⟨fits, rfl⟩, tryI64_eq_ok.mpr ⟨timeFits, rfl⟩]
  refine ⟨_, if_neg ?_⟩
  rw [bytes]
  exact Bool.false_ne_true

theorem Reopens.attemptsOf {journal after : Journal} {now : ℕ}
    (reopens : Reopens journal after nonce now) :
    after.attemptsOf nonce = (journal.attemptsOf nonce).map (reopenedRow nonce now) := by
  unfold Journal.attemptsOf
  rw [reopens.rows, List.filter_map]
  refine congrArg _ (List.filter_congr fun row _ => ?_)
  unfold reopenedRow
  simp only [Function.comp_apply]
  split <;> rfl

/-- In every run of a soft keeper, the bytes or the payload of a transaction are blank only if it is
resolved and its receipt is final, as the audit of its mark made it; and a nonce that was signed and
none of whose attempts has a final receipt is reopened with the exact bytes of all of them. -/
theorem soft_bytes_kept (digest : String → String) (calls : List SoftCall) (history : SoftHistory)
    (run : SoftRuns digest calls history) :
    (∀ row ∈ history.journal.txs.rows, row.raw = "" ∨ row.payload = "" →
      row.state = .resolved ∧ ∃ receipt ∈ history.journal.finalizedReceipts.rows,
        receipt.hash = row.hash ∧ ∃ record ∈ history.audits, record.Confirms receipt) ∧
    ∀ nonce chainTime wallTime, nonce ≤ maxI64 → chainTime ≤ maxI64 →
      (∃ signed ∈ history.signed, signed.nonce = nonce) →
      (∀ attempt ∈ history.journal.txs.rows, attempt.nonce = nonce →
        ¬history.journal.IsFinal attempt) →
      ∃ after, history.journal.reopenNonce nonce chainTime wallTime = .ok (.lane, after) ∧
        List.Forall₂ BackInLane (after.attemptsOf nonce)
          (history.signed.filter fun signed => signed.nonce == nonce) := by
  have sound := run.sound
  refine ⟨fun row member blank => ?_, ?_⟩
  · obtain ⟨signed, signedMem, kept⟩ := exists_of_forall₂ sound.kept member
    obtain ⟨raw, payload⟩ := sound.bytes signed signedMem
    rcases kept.bytes with ⟨sameRaw, samePayload⟩ | ⟨resolved, receipt, receiptMem, hash⟩
    · rcases blank with blank | blank
      · exact absurd (sameRaw.symm.trans blank) raw
      · exact absurd (samePayload.symm.trans blank) payload
    · exact ⟨resolved, receipt, receiptMem, hash, sound.confirmed receipt receiptMem⟩
  · intro nonce chainTime wallTime fits timeFits signedNonce unsettled
    have kept := sound.attemptsOf unsettled
    have bytes : bytesGone (history.journal.attemptsOf nonce) = false := by
      refine bytesGone_eq_false (fun none => ?_) fun row member => ?_
      · obtain ⟨signed, signedMem, isNonce⟩ := signedNonce
        rw [none, List.forall₂_nil_left_iff, List.filter_eq_nil_iff] at kept
        exact kept signed signedMem (beq_iff_eq.mpr isNonce)
      · obtain ⟨signed, signedMem, -, raw, -⟩ := exists_of_forall₂ kept member
        rw [raw]
        exact (sound.bytes signed (List.mem_filter.mp signedMem).1).1
    obtain ⟨after, reopened⟩ := reopenNonce_of_bytes wallTime fits timeFits bytes
    refine ⟨after, reopened, ?_⟩
    rcases reopenNonce_ok reopened with ⟨gone, -⟩ | ⟨-, reopens⟩
    · exact nomatch gone
    · rw [reopens.attemptsOf, List.forall₂_map_left_iff]
      have listed := (List.forall₂_and_left _ _).mpr ⟨fun row member => member, kept⟩
      refine listed.imp fun row signed ⟨member, same, raw, payload⟩ => ?_
      have isNonce : row.nonce = nonce := beq_iff_eq.mp (List.mem_filter.mp member).2
      have reopenedEq : reopenedRow nonce chainTime row =
        { row with state := .submitted, created := chainTime, broadcast := 0 } := if_pos isNonce
      rw [reopenedEq]
      exact ⟨same.trans ⟨rfl, rfl, rfl, rfl, rfl⟩, rfl, raw, payload⟩

/-- Two requests are served in turn. The receipt of the first is audited and its bytes are blanked;
the second is only resolved. -/
def auditedLane : List SoftCall :=
  [.call (.discovered "1" 9 "2"), .call (.signed (fulfillment "1" "a" 0) none),
    .call (.resolveNonceJob 0 "1" (.state .served) (some (markReceipt "a"))),
    .audit [(2, "b2")] 3, .call (.compactHistory 100 .soft), .call (.discovered "2" 9 "3"),
    .call (.signed (fulfillment "2" "b" 1) none),
    .call (.resolveNonceJob 1 "2" (.state .served) none)]

/-- The history after these calls. -/
def auditedHistory : SoftHistory := auditedLane.foldl (SoftHistory.after id) SoftHistory.start

theorem softRuns_auditedLane : SoftRuns id auditedLane auditedHistory := by
  have bytes : ∀ job hash nonce, (fulfillment job hash nonce).raw ≠ "" ∧
      (fulfillment job hash nonce).payload ≠ "" := by
    intro job hash nonce
    exact ⟨(by decide : "0x02" ≠ ""), (by decide : "0x" ≠ "")⟩
  have first : SoftRuns id [.call (.discovered "1" 9 "2")]
      (SoftHistory.start.after id (.call (.discovered "1" 9 "2"))) := SoftRuns.start.call _ trivial
  have second := first.call (.call (.signed (fulfillment "1" "a" 0) none)) (bytes "1" "a" 0)
  have third := second.call
    (.call (.resolveNonceJob 0 "1" (.state .served) (some (markReceipt "a")))) trivial
  have fourth := third.call (.audit [(2, "b2")] 3) trivial
  have fifth := fourth.call (.call (.compactHistory 100 .soft)) rfl
  have sixth := fifth.call (.call (.discovered "2" 9 "3")) trivial
  have seventh := sixth.call (.call (.signed (fulfillment "2" "b" 1) none)) (bytes "2" "b" 1)
  exact seventh.call (.call (.resolveNonceJob 1 "2" (.state .served) none)) trivial

theorem soft_bytes_kept_audited :
    (∃ row ∈ auditedHistory.journal.txs.rows, row.hash = "a" ∧ row.raw = "" ∧
      ∃ receipt ∈ auditedHistory.journal.finalizedReceipts.rows, receipt.hash = row.hash ∧
        ∃ record ∈ auditedHistory.audits, record.Confirms receipt) ∧
    ∃ after, auditedHistory.journal.reopenNonce 1 5 5 = .ok (.lane, after) ∧
      List.Forall₂ BackInLane (after.attemptsOf 1)
        (auditedHistory.signed.filter fun signed => signed.nonce == 1) := by
  obtain ⟨blank, reopens⟩ := soft_bytes_kept id auditedLane auditedHistory softRuns_auditedLane
  have blanked : ∃ row ∈ auditedHistory.journal.txs.rows, row.hash = "a" ∧ row.raw = "" := by
    decide +kernel
  obtain ⟨row, member, hash, raw⟩ := blanked
  refine ⟨⟨row, member, hash, raw, (blank row member (.inl raw)).2⟩, ?_⟩
  refine reopens 1 5 5 (by decide) (by decide) (by decide +kernel) fun attempt member isNonce => ?_
  rintro ⟨receipt, receiptMem, same⟩
  have apart : ∀ attempt ∈ auditedHistory.journal.txs.rows, attempt.nonce = 1 →
    ∀ receipt ∈ auditedHistory.journal.finalizedReceipts.rows, receipt.hash ≠ attempt.hash := by
    decide +kernel
  exact apart attempt member isNonce receipt receiptMem same

end D20.Journal
