/-
This file is about the commitments of the registry along its runs. An epoch is committed at most
once, and its record and its anchor stay. The anchor is the hash of the block before the epoch, and
the source is the slot of an attempt whose window was open, in the catalog of the epoch. The
attempts of an epoch take every slot once, and their windows open within it.
-/

import Mathlib.Order.Interval.Finset.Nat
import D20Keeper.CatalogSchedule

namespace D20

open Evm

/-- The event of the commitment of one epoch. -/
def EpochEvent.commits (epochId : Nat) : EpochEvent → Bool
  | .epochCommitted other _ _ => decide (other = epochId)
  | _ => false

theorem EpochEvent.commits_eq_false {event : EpochEvent} (plain : event.isCommit = false)
    (epochId : Nat) : event.commits epochId = false := by
  cases event with
  | epochCommitted => cases plain
  | _ => rfl

namespace EpochEntropy

variable {context : RegistryContext} {before after registry : EpochEntropy} {platform : Platform}
  {events : List EpochEvent} {epochId attempt start opens count source : Nat} {record : Epoch}
  {selected value : Bytes32}

/-! ### The slots of the attempts -/

/-- The attempt that takes a slot, from the slot of the first attempt. -/
def attemptOf (count first source : Nat) : Nat := (source + count - first) % count

/-- The slot of an attempt determines it. -/
theorem attemptOf_sourceOf (selected : Bytes32) (within : attempt < count) :
    attemptOf count (sourceOf selected count 0) (sourceOf selected count attempt) = attempt := by
  have first : selected.toNat % count < count := Nat.mod_lt _ (Nat.zero_lt_of_lt within)
  unfold attemptOf sourceOf
  rw [Nat.add_zero, Nat.mod_mod]
  generalize selected.toNat % count = slot at first ⊢
  by_cases wraps : count ≤ slot + attempt
  · have rest : (slot + attempt) % count = slot + attempt - count := by
      rw [Nat.mod_eq_sub_mod wraps, Nat.mod_eq_of_lt (by omega)]
    have back : slot + attempt - count + count - slot = attempt := by
      omega
    rw [rest, back, Nat.mod_eq_of_lt within]
  · have back : slot + attempt + count - slot = attempt + count := by
      omega
    rw [Nat.mod_eq_of_lt (Nat.lt_of_not_le wraps), back, Nat.add_mod_right,
      Nat.mod_eq_of_lt within]

theorem sourceOf_lt (within : attempt < count) : sourceOf selected count attempt < count :=
  Nat.mod_lt _ (Nat.zero_lt_of_lt within)

/-- The attempts take every slot once. -/
theorem sourceOf_bijOn (selected : Bytes32) (count : Nat) :
    Set.BijOn (sourceOf selected count) (Set.Iio count) (Set.Iio count) := by
  have slots : Set.MapsTo (sourceOf selected count) (Set.Iio count) (Set.Iio count) :=
    fun _ within => sourceOf_lt within
  have once : Set.LeftInvOn (attemptOf count (sourceOf selected count 0))
      (sourceOf selected count) (Set.Iio count) := fun _ within => attemptOf_sourceOf selected within
  exact ((Set.finite_Iio count).injOn_iff_bijOn_of_mapsTo slots).mp once.injOn

/-! ### Windows -/

theorem epochStart_eq_ok (starts : registry.epochStart epochId = .ok start) :
    epochId ≠ 0 ∧ start = registry.firstEpochStart + (epochId - 1) * epochLength := by
  obtain ⟨_, named, starts⟩ := ok_of_bind starts
  obtain ⟨elapsed, product, starts⟩ := ok_of_bind starts
  rw [(checkedAdd_eq_ok (arithmetic_eq_ok starts)).1,
    (checkedMul_eq_ok (arithmetic_eq_ok product)).1]
  exact ⟨refuseIf_eq_ok named, rfl⟩

/-- An epoch that has started is at most the current one. -/
theorem le_epochForBlock {number : Nat} (starts : registry.epochStart epochId = .ok start)
    (started : start ≤ number) (small : number < 2 ^ 64) :
    epochId ≤ registry.epochForBlock number := by
  obtain ⟨named, rfl⟩ := epochStart_eq_ok starts
  unfold epochForBlock epochLength at *
  rw [if_neg (by omega), Nat.mod_eq_of_lt (by omega)]
  omega

theorem sourceCountAt_eq (registry : EpochEntropy) (epochId : Nat) :
    registry.sourceCountAt epochId = (registry.catalogAt epochId).2.1.length := by
  unfold sourceCountAt catalogAt
  split <;> rfl

theorem sourceCountAt_le (registry : EpochEntropy) (epochId : Nat) :
    registry.sourceCountAt epochId ≤ maxSources := by
  unfold sourceCountAt
  split
  case h_1 catalog _ => exact catalog.recipes_le
  case h_2 => decide

/-- The window of an attempt opens within its epoch. -/
theorem fallbackOpensAt_within (starts : registry.epochStart epochId = .ok start)
    (within : attempt < registry.sourceCountAt epochId) :
    start + attempt * fallbackDelayBlocks < start + epochLength ∧
      (start + epochLength ≤ 2 ^ 64 →
        registry.fallbackOpensAt epochId attempt = .ok (start + attempt * fallbackDelayBlocks)) := by
  have few := registry.sourceCountAt_le epochId
  have inside : attempt * fallbackDelayBlocks < epochLength := by
    unfold maxSources fallbackDelayBlocks epochLength at *
    omega
  refine ⟨Nat.add_lt_add_left inside start, fun ends => ?_⟩
  unfold fallbackOpensAt refuseIf
  rw [if_neg (Nat.not_le.mpr within), ok_bind, starts, ok_bind, checkedMul_ok (by omega),
    arithmetic_ok, ok_bind, checkedAdd_ok (by omega), arithmetic_ok]

/-- The opening of a window follows from the start of the epoch and the number of sources. -/
theorem fallbackOpensAt_congr (first : after.firstEpochStart = before.firstEpochStart)
    (sources : after.sourceCountAt epochId = before.sourceCountAt epochId) :
    after.fallbackOpensAt epochId attempt = before.fallbackOpensAt epochId attempt := by
  unfold fallbackOpensAt epochStart
  rw [first, sources]

/-! ### Anchors -/

/-- Every anchor is the hash of the block before the start of its epoch. -/
def AnchorsHeld (platform : Platform) (registry : EpochEntropy) : Prop :=
  ∀ epochId, registry.epochAnchors epochId ≠ 0 → ∃ start,
    registry.epochStart epochId = .ok start ∧
      registry.epochAnchors epochId = platform.canonical (start - 1)

/-- An anchor that is answered is the hash of the block before the start, whether it is stored or
not. -/
theorem Anchored.eq_canonical (held : AnchorsHeld context.platform registry)
    (anchored : Anchored context registry epochId value start) :
    value = context.platform.canonical (start - 1) := by
  by_cases stored : registry.epochAnchors epochId = 0
  · obtain ⟨-, fresh⟩ := anchored.fresh stored
    have nonzero := anchored.nonzero
    rw [fresh] at nonzero ⊢
    exact blockhash_eq_canonical nonzero
  · obtain ⟨other, starts, canonical⟩ := held epochId stored
    obtain rfl : start = other := Except.ok.inj (anchored.starts.symm.trans starts)
    exact (anchored.stored stored).trans canonical

theorem AnchorsHeld.update (held : AnchorsHeld context.platform before)
    (anchored : before.anchor context epochId = .ok value)
    (anchors : after.epochAnchors = Function.update before.epochAnchors epochId value)
    (first : after.firstEpochStart = before.firstEpochStart) :
    AnchorsHeld context.platform after := by
  intro other nonzero
  unfold epochStart
  rw [anchors] at nonzero ⊢
  rw [first]
  by_cases same : other = epochId
  · obtain ⟨start, facts⟩ := anchor_eq_ok anchored
    rw [same, Function.update_self]
    exact ⟨start, facts.starts, facts.eq_canonical held⟩
  · rw [Function.update_of_ne same] at nonzero ⊢
    exact held other nonzero

theorem Moves.anchorsHeld (moves : Moves context before after events)
    (held : AnchorsHeld context.platform before) : AnchorsHeld context.platform after := by
  cases moves with
  | checkpoint epochId value anchored => exact held.update anchored rfl rfl
  | commit epochId attempt a s record packet commits => exact held.update commits.anchored rfl rfl
  | _ => exact held

/-! ### Records -/

/-- A record as its epoch and its catalog give it: the anchor is the hash of the block before the
epoch, and the source is the slot of an attempt whose window was open. -/
structure Follows (platform : Platform) (registry : EpochEntropy) (epochId : Nat) (record : Epoch) :
    Prop where
  nonzero : record.anchorHash ≠ 0
  stored : registry.epochAnchors epochId = record.anchorHash
  anchored : ∃ start, registry.epochStart epochId = .ok start ∧
    record.anchorHash = platform.canonical (start - 1)
  catalogHash : record.catalogHash = (registry.catalogAt epochId).1
  attempted : ∃ attempt < registry.sourceCountAt epochId,
    record.source = sourceOf (selector platform record.catalogHash epochId record.anchorHash)
      (registry.sourceCountAt epochId) attempt ∧
    ∃ opens ≤ record.committedBlock, registry.fallbackOpensAt epochId attempt = .ok opens

/-- What a selection takes from the registry. -/
theorem select_eq_ok {s : Selection} {hash : Bytes32}
    (done : registry.select context epochId attempt = .ok (s, hash)) :
    ∃ value, registry.anchor context epochId = .ok value ∧
      hash = (registry.catalogAt epochId).1 ∧ attempt < registry.sourceCountAt epochId ∧
      s.source = sourceOf (selector context.platform hash epochId value)
        (registry.sourceCountAt epochId) attempt := by
  obtain ⟨value, anchored, done⟩ := ok_of_bind done
  obtain ⟨_, within, done⟩ := ok_of_bind done
  have inside : attempt < registry.sourceCountAt epochId := by
    rw [sourceCountAt_eq]
    exact Nat.lt_of_not_le (refuseIf_eq_ok within)
  refine ⟨value, anchored, ?_⟩
  dsimp only at done
  rw [← sourceCountAt_eq, Nat.mod_eq_of_lt ((sourceOf_lt inside).trans_le
    ((registry.sourceCountAt_le epochId).trans (by decide)))] at done
  split at done
  · split at done
    · cases done
    · obtain ⟨rfl, rfl⟩ := Prod.mk.inj (Except.ok.inj done)
      exact ⟨rfl, inside, rfl⟩
  · cases done

/-- The record of a commitment follows. -/
theorem Commits.follows {a : Attestation} {s : Selection} {packet : Bytes}
    (commits : Commits context before epochId attempt a s record packet)
    (held : AnchorsHeld context.platform before)
    (anchors : after.epochAnchors = Function.update before.epochAnchors epochId record.anchorHash)
    (first : after.firstEpochStart = before.firstEpochStart)
    (catalog : after.catalogAt epochId = before.catalogAt epochId) :
    Follows context.platform after epochId record ∧
      epochId ≤ before.epochForBlock context.block.number := by
  obtain ⟨value, anchored, hash, within, source⟩ := select_eq_ok commits.selected
  obtain rfl : record.anchorHash = value := Except.ok.inj (commits.anchored.symm.trans anchored)
  obtain ⟨start, facts⟩ := anchor_eq_ok anchored
  obtain ⟨opens, opensAt, opened⟩ := commits.opened
  obtain ⟨_, -, recorded⟩ := commits.recorded
  have sources : after.sourceCountAt epochId = before.sourceCountAt epochId := by
    rw [sourceCountAt_eq, sourceCountAt_eq, catalog]
  have block : record.committedBlock = context.block.number := by
    rw [recorded]
    exact Nat.mod_eq_of_lt context.block.number_lt
  refine ⟨⟨facts.nonzero, ?_, ⟨start, ?_, facts.eq_canonical held⟩, ?_, attempt, ?_⟩,
    le_epochForBlock facts.starts facts.started context.block.number_lt⟩
  · rw [anchors, Function.update_self]
  · unfold epochStart
    rw [first]
    exact facts.starts
  · rw [catalog]
    exact hash
  · rw [sources, fallbackOpensAt_congr first sources, block]
    refine ⟨within, ?_, opens, opened, opensAt⟩
    rw [← source, recorded]

/-- A record that follows does so for as long as the registry grows without another catalog for its
epoch. -/
theorem Follows.grows (follows : Follows platform before epochId record)
    (grows : Grows before after) (same : after.versionAt epochId = before.versionAt epochId) :
    Follows platform after epochId record := by
  obtain ⟨catalog, sources⟩ := grows.catalogAt same
  have starts : after.epochStart epochId = before.epochStart epochId := by
    unfold epochStart
    rw [grows.firstEpochStart]
  have there : before.epochAnchors epochId ≠ 0 := follows.stored ▸ follows.nonzero
  refine ⟨follows.nonzero, (grows.epochAnchors epochId there).trans follows.stored, ?_, ?_, ?_⟩
  · rw [starts]
    exact follows.anchored
  · rw [catalog]
    exact follows.catalogHash
  · obtain ⟨attempt, within, source, opens, opened, opensAt⟩ := follows.attempted
    rw [sources]
    exact ⟨attempt, within, source, opens, opened,
      (fallbackOpensAt_congr grows.firstEpochStart sources).trans opensAt⟩

/-- What is kept of an epoch: its record follows and belongs to a started epoch. -/
def Settled (platform : Platform) (registry : EpochEntropy) (current epochId : Nat) : Prop :=
  (registry.getEpoch epochId).epochHash ≠ 0 →
    Follows platform registry epochId (registry.getEpoch epochId) ∧ epochId ≤ current

theorem Moves.settled (moves : Moves context before after events)
    (sequence : InSequence before (before.epochForBlock context.block.number))
    (held : AnchorsHeld context.platform before)
    (settled : Settled context.platform before (before.epochForBlock context.block.number) epochId) :
    Settled context.platform after (before.epochForBlock context.block.number) epochId := by
  have frame := (moves.sequence sequence).2
  have grows := moves.grows
  by_cases published : (before.getEpoch epochId).epochHash ≠ 0
  · intro _
    obtain ⟨follows, started⟩ := settled published
    unfold getEpoch
    rw [grows.epochs epochId published]
    exact ⟨follows.grows grows (frame epochId (by omega)), started⟩
  · cases moves with
    | commit other attempt a s record packet commits =>
      intro now
      by_cases same : epochId = other
      · subst same
        unfold getEpoch
        dsimp only
        rw [Function.update_self]
        exact commits.follows held rfl rfl rfl
      · exact absurd (congrArg Epoch.epochHash (Function.update_of_ne same record before.epochs) ▸ now)
          published
    | _ => exact fun now => absurd now published

/-- A move commits an epoch exactly when it writes the record. -/
theorem Moves.countP_commits (hashes : ∀ bytes, context.platform.keccak256 bytes ≠ 0)
    (moves : Moves context before after events) (epochId : Nat) :
    events.countP (EpochEvent.commits epochId) +
        (if (before.getEpoch epochId).epochHash = 0 then 0 else 1) =
      if (after.getEpoch epochId).epochHash = 0 then 0 else 1 := by
  have quiet : (∀ event ∈ events, event.isCommit = false) →
      events.countP (EpochEvent.commits epochId) = 0 := by
    intro plain
    rw [List.countP_eq_zero]
    intro event member
    rw [EpochEvent.commits_eq_false (plain event member)]
    exact Bool.false_ne_true
  cases moves with
  | commit other attempt a s record packet commits =>
    show _ + (if (before.epochs epochId).epochHash = 0 then 0 else 1) =
      if (Function.update before.epochs other record epochId).epochHash = 0 then 0 else 1
    rw [List.countP_singleton]
    by_cases same : epochId = other
    · obtain ⟨_, -, recorded⟩ := commits.recorded
      have nonzero : record.epochHash ≠ 0 := by
        rw [recorded]
        exact hashes _
      rw [same, commits.unpublished, Function.update_self, if_neg nonzero]
      simp only [EpochEvent.commits, decide_true, if_true]
    · rw [Function.update_of_ne same]
      simp only [EpochEvent.commits, decide_eq_false (Ne.symm same), Bool.false_eq_true, if_false,
        Nat.zero_add]
  | settings _ _ _ _ _ event plain | recipe _ event plain =>
    rw [quiet (List.forall_mem_singleton.mpr plain), Nat.zero_add]
    rfl
  | beacon _ _ plain =>
    rw [quiet plain, Nat.zero_add]
    rfl
  | schedule =>
    rw [quiet (List.forall_mem_singleton.mpr rfl), Nat.zero_add]
    rfl
  | checkpoint =>
    rw [quiet (fun _ member => absurd member List.not_mem_nil), Nat.zero_add]
    rfl

end EpochEntropy

/-! ### Runs -/

namespace RegistryDeployment

variable {deployment : RegistryDeployment}

/-- What a run keeps of an epoch. -/
structure Keeps (deployment : RegistryDeployment) (epochId : Nat) (now : RegistryState) : Prop where
  sequence : EpochEntropy.InSequence now.registry (now.registry.epochForBlock now.block.number)
  anchors : EpochEntropy.AnchorsHeld deployment.platform now.registry
  settled : EpochEntropy.Settled deployment.platform now.registry
    (now.registry.epochForBlock now.block.number) epochId
  commits : (now.logs.map Prod.snd).countP (EpochEvent.commits epochId) =
    if (now.registry.getEpoch epochId).epochHash = 0 then 0 else 1

theorem keeps_initial (deployment : RegistryDeployment) (epochId : Nat) :
    deployment.Keeps epochId deployment.initial := by
  have blank : (deployment.initial.registry.getEpoch epochId).epochHash = 0 :=
    congrArg (fun epochs : Nat → Epoch => (epochs epochId).epochHash) deployment.leaves.epochs
  refine ⟨deployment.inSequence_initial, fun other nonzero => ?_,
    fun published => absurd blank published, ?_⟩
  · exact absurd (congrFun deployment.leaves.epochAnchors other) nonzero
  · rw [blank]
    rfl

theorem keeps_runFrom (hashes : ∀ bytes, deployment.platform.keccak256 bytes ≠ 0)
    {submissions : List RegistrySubmission} (ordered : Ordered deployment.initial submissions)
    (epochId : Nat) : deployment.Keeps epochId
    (deployment.runFrom deployment.initial submissions) := by
  refine runFrom_preserves ?_ ?_ ordered (deployment.keeps_initial epochId)
  · intro now block later keeps
    have moved := now.registry.epochForBlock_mono later.1 block.number_lt
    exact ⟨keeps.sequence.mono moved, keeps.anchors,
      fun published => (keeps.settled published).imp_right fun started => started.trans moved,
      keeps.commits⟩
  · intro now submission registry events inBlock done keeps
    have moves := EpochEntropy.run_moves done
    have sequence := keeps.sequence
    have settled := keeps.settled
    rw [inBlock] at sequence settled
    have epochs : registry.epochForBlock submission.block.number =
        now.registry.epochForBlock submission.block.number := by
      unfold EpochEntropy.epochForBlock
      rw [moves.grows.firstEpochStart]
    refine ⟨epochs ▸ (moves.sequence sequence).1, moves.anchorsHeld keeps.anchors,
      epochs ▸ moves.settled sequence keeps.anchors settled, ?_⟩
    have counted := @EpochEntropy.Moves.countP_commits (deployment.context submission) _ _ _ hashes
      moves epochId
    have names : (events.map fun event => (submission.block, event)).map Prod.snd = events := by
      rw [List.map_map]
      exact List.map_id events
    dsimp only
    rw [List.map_append, names, List.countP_append, keeps.commits, Nat.add_comm]
    exact counted

end RegistryDeployment

end D20
