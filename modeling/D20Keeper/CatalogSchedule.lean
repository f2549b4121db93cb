/-
This file is about the catalogs of the registry along its runs. The scheduled catalogs are a
timeline over the epochs: scheduling one cuts the timeline after the next epoch, which drops the
pending catalog if there is one, and appends the new catalog. The catalog of an epoch is the one in
force, and an epoch up to the next one keeps it for good.
-/

import D20Keeper.RegistryRun
import D20Keeper.Timeline

namespace D20

open Evm

namespace EpochEntropy

/-! ### The catalogs as a timeline -/

variable {registry before after : EpochEntropy} {context : RegistryContext}
  {events : List EpochEvent} {first second current : Nat}

theorem versionAt_eq (registry : EpochEntropy) (epochId : Nat) :
    registry.versionAt epochId = Timeline.inForce Catalog.fromEpoch registry.catalogs epochId := rfl

/-- The catalogs are strictly ascending, and only the last can start after the next epoch. -/
structure InSequence (registry : EpochEntropy) (current : Nat) : Prop where
  ascending : registry.catalogs.Pairwise fun earlier later => earlier.fromEpoch < later.fromEpoch
  begun : ∀ catalog ∈ registry.catalogs.dropLast, catalog.fromEpoch ≤ current + 1

theorem InSequence.mono (sequence : InSequence registry first) (later : first ≤ second) :
    InSequence registry second :=
  ⟨sequence.ascending, fun catalog member => (sequence.begun catalog member).trans (by omega)⟩

/-- Dropping a pending catalog cuts the timeline. -/
theorem InSequence.withoutPending_eq (sequence : InSequence registry current) :
    withoutPending registry.catalogs current =
      Timeline.cut Catalog.fromEpoch (current + 1) registry.catalogs := by
  have begun := sequence.begun
  unfold withoutPending
  rcases List.eq_nil_or_concat' registry.catalogs with none | ⟨earlier, last, some⟩
  · rw [none]
    rfl
  · rw [some, List.dropLast_concat] at begun
    rw [some, List.getLast?_concat, List.dropLast_concat]
    dsimp only
    split
    case isTrue pending => exact (Timeline.cut_append_of_lt begun pending).symm
    case isFalse started =>
      refine (Timeline.cut_eq_self fun catalog member => ?_).symm
      rcases List.mem_append.mp member with old | new
      · exact begun catalog old
      · rw [List.mem_singleton.mp new]
        exact Nat.le_of_not_lt started

/-- At most one catalog starts after the next epoch. -/
theorem InSequence.length_pending_le (sequence : InSequence registry current) :
    (registry.catalogs.filter fun catalog => decide (current + 1 < catalog.fromEpoch)).length ≤ 1 := by
  have begun := sequence.begun
  rcases List.eq_nil_or_concat' registry.catalogs with none | ⟨earlier, last, some⟩
  · rw [none]
    exact Nat.zero_le 1
  · rw [some, List.dropLast_concat] at begun
    have left : earlier.filter (fun catalog => decide (current + 1 < catalog.fromEpoch)) = [] :=
      List.filter_eq_nil_iff.mpr fun catalog member => by
        rw [decide_eq_true_eq, Nat.not_lt]
        exact begun catalog member
    rw [some, List.filter_append, left, List.nil_append]
    exact List.length_filter_le _ _

/-- A move keeps the catalogs in sequence, and the catalog in force at every epoch up to the next.
-/
theorem Moves.sequence (moves : Moves context before after events)
    (sequence : InSequence before (before.epochForBlock context.block.number)) :
    InSequence after (before.epochForBlock context.block.number) ∧
      ∀ epochId ≤ before.epochForBlock context.block.number + 1,
        after.versionAt epochId = before.versionAt epochId := by
  cases moves with
  | schedule catalog ahead =>
    have later : before.epochForBlock context.block.number + 1 < catalog.fromEpoch := ahead
    have amended : withoutPending before.catalogs (before.epochForBlock context.block.number) ++
        [catalog] = Timeline.amend Catalog.fromEpoch
          (before.epochForBlock context.block.number + 1) before.catalogs catalog := by
      rw [sequence.withoutPending_eq]
      rfl
    refine ⟨⟨?_, fun other member => ?_⟩, fun epochId within => ?_⟩
    · dsimp only
      rw [amended]
      exact Timeline.ascending_amend sequence.ascending later
    · dsimp only at member
      rw [List.dropLast_concat, sequence.withoutPending_eq] at member
      exact of_decide_eq_true (List.mem_filter.mp member).2
    · rw [versionAt_eq, versionAt_eq]
      dsimp only
      rw [amended]
      exact Timeline.inForce_amend within later
  | _ => exact ⟨⟨sequence.ascending, sequence.begun⟩, fun _ _ => rfl⟩

/-- The catalog of an epoch follows from the version in force and from what every move keeps. -/
theorem Grows.catalogAt (grows : Grows before after) {epochId : Nat}
    (same : after.versionAt epochId = before.versionAt epochId) :
    after.catalogAt epochId = before.catalogAt epochId ∧
      after.sourceCountAt epochId = before.sourceCountAt epochId := by
  unfold EpochEntropy.catalogAt sourceCountAt
  rw [same, grows.catalogHash, grows.hyperliquidSigner, grows.ethereumBlockSigner,
    grows.btcTradeSigner, grows.ethTradeSigner]
  exact ⟨rfl, rfl⟩

/-- Epochs follow the blocks. -/
theorem epochForBlock_mono (registry : EpochEntropy) {earlier later : Nat}
    (ordered : earlier ≤ later) (small : later < 2 ^ 64) :
    registry.epochForBlock earlier ≤ registry.epochForBlock later := by
  have bounded : ∀ number ≤ later,
      (1 + (number - registry.firstEpochStart) / epochLength) % 2 ^ 64 =
        1 + (number - registry.firstEpochStart) / epochLength := by
    intro number within
    unfold epochLength
    exact Nat.mod_eq_of_lt (by omega)
  unfold epochForBlock
  rw [bounded earlier ordered, bounded later le_rfl]
  split
  · exact Nat.zero_le _
  · rw [if_neg (by omega)]
    exact Nat.add_le_add_left (Nat.div_le_div_right (by omega)) 1

/-- What holds of the catalogs of a registry: they are strictly ascending, at most one starts after
the next epoch, and the catalog of an epoch is the one with the greatest start at or before it, or
the initial one. -/
structure Scheduled (registry : EpochEntropy) (current : Nat) : Prop where
  ascending : registry.catalogs.Pairwise fun earlier later => earlier.fromEpoch < later.fromEpoch
  pending : (registry.catalogs.filter fun catalog =>
    decide (current + 1 < catalog.fromEpoch)).length ≤ 1
  greatest : ∀ epochId, ∀ catalog ∈ registry.catalogs, catalog.fromEpoch ≤ epochId →
    (∀ other ∈ registry.catalogs, other.fromEpoch ≤ epochId →
      other.fromEpoch ≤ catalog.fromEpoch) →
    registry.catalogAt epochId = (catalog.hash, catalog.recipes, catalog.signers)
  initial : ∀ epochId, (∀ catalog ∈ registry.catalogs, epochId < catalog.fromEpoch) →
    registry.catalogAt epochId = (registry.catalogHash, [0, 1, 2, 3],
      [registry.hyperliquidSigner, registry.ethereumBlockSigner, registry.btcTradeSigner,
        registry.ethTradeSigner])

theorem InSequence.scheduled (sequence : InSequence registry current) :
    Scheduled registry current where
  ascending := sequence.ascending
  pending := sequence.length_pending_le
  greatest := by
    intro epochId catalog member started greatest
    cases found : Timeline.inForce Catalog.fromEpoch registry.catalogs epochId with
    | none =>
      exact absurd started (Nat.not_le.mpr (Timeline.inForce_eq_none.mp found catalog member))
    | some version =>
      obtain ⟨listed, begun⟩ := Timeline.inForce_mem found
      have below := Timeline.inForce_greatest sequence.ascending found catalog member started
      have starts : (registry.catalogs.map Catalog.fromEpoch).Nodup :=
        (List.pairwise_map.mpr sequence.ascending).imp Nat.ne_of_lt
      have same : version = catalog := List.inj_on_of_nodup_map starts listed member
        (Nat.le_antisymm (greatest version listed begun) below)
      unfold catalogAt
      rw [versionAt_eq, found, same]
  initial := by
    intro epochId ahead
    unfold catalogAt
    rw [versionAt_eq, Timeline.inForce_eq_none.mpr ahead]

end EpochEntropy

/-! ### Runs -/

namespace RegistryDeployment

variable {deployment : RegistryDeployment} {state : RegistryState}

theorem ordered_cons {submission : RegistrySubmission} {rest : List RegistrySubmission} :
    Ordered state (submission :: rest) ↔
      state.block.before submission.block ∧ Ordered (deployment.commit state submission) rest := by
  unfold Ordered
  rw [List.map_cons, List.isChain_cons_cons, block_commit]

theorem ordered_append {before rest : List RegistrySubmission}
    (ordered : Ordered state (before ++ rest)) :
    Ordered state before ∧ Ordered (deployment.runFrom state before) rest := by
  induction before generalizing state with
  | nil => exact ⟨.singleton _, ordered⟩
  | cons submission others inductionHypothesis =>
    obtain ⟨next, later⟩ := ordered_cons.mp ordered
    obtain ⟨first, last⟩ := inductionHypothesis later
    exact ⟨ordered_cons.mpr ⟨next, first⟩, last⟩

/-- A run keeps the catalogs in sequence, and the catalogs of the epochs up to the one after its
start. -/
theorem sequence_runFrom {submissions : List RegistrySubmission}
    (ordered : Ordered state submissions)
    (sequence : EpochEntropy.InSequence state.registry
      (state.registry.epochForBlock state.block.number)) :
    EpochEntropy.InSequence (deployment.runFrom state submissions).registry
        ((deployment.runFrom state submissions).registry.epochForBlock
          (deployment.runFrom state submissions).block.number) ∧
      ∀ epochId ≤ state.registry.epochForBlock state.block.number + 1,
        (deployment.runFrom state submissions).registry.versionAt epochId =
          state.registry.versionAt epochId := by
  have kept := @runFrom_preserves deployment state (fun now =>
    EpochEntropy.InSequence now.registry (now.registry.epochForBlock now.block.number) ∧
      state.registry.epochForBlock state.block.number ≤
        now.registry.epochForBlock now.block.number ∧
      ∀ epochId ≤ state.registry.epochForBlock state.block.number + 1,
        now.registry.versionAt epochId = state.registry.versionAt epochId)
    ?_ ?_ submissions ordered ⟨sequence, le_rfl, fun _ _ => rfl⟩
  · exact ⟨kept.1, kept.2.2⟩
  · rintro now block later ⟨inSequence, reached, same⟩
    have moved := now.registry.epochForBlock_mono later.1 block.number_lt
    exact ⟨inSequence.mono moved, reached.trans moved, same⟩
  · rintro now submission registry events inBlock done ⟨inSequence, reached, same⟩
    have moves := EpochEntropy.run_moves done
    rw [inBlock] at inSequence reached
    obtain ⟨next, frame⟩ := moves.sequence inSequence
    have epochs : registry.epochForBlock submission.block.number =
        now.registry.epochForBlock submission.block.number := by
      unfold EpochEntropy.epochForBlock
      rw [moves.grows.firstEpochStart]
    refine ⟨epochs ▸ next, epochs ▸ reached, fun epochId within => ?_⟩
    exact (frame epochId (within.trans (Nat.succ_le_succ reached))).trans (same epochId within)

theorem inSequence_initial (deployment : RegistryDeployment) :
    EpochEntropy.InSequence deployment.initial.registry
      (deployment.initial.registry.epochForBlock deployment.initial.block.number) := by
  have none : deployment.initial.registry.catalogs = [] := deployment.leaves.catalogs
  constructor
  · rw [none]
    exact .nil
  · rw [none]
    exact fun _ member => absurd member List.not_mem_nil

/-- In every run of the registry at blocks in order, the catalogs are as scheduled, and a call
changes the catalog of no epoch up to the one after its block's, nor does any later call. -/
theorem catalogs_scheduled (deployment : RegistryDeployment) (submissions : List RegistrySubmission)
    (ordered : Ordered deployment.initial submissions) :
    EpochEntropy.Scheduled (deployment.runFrom deployment.initial submissions).registry
        ((deployment.runFrom deployment.initial submissions).registry.epochForBlock
          (deployment.runFrom deployment.initial submissions).block.number) ∧
      ∀ before submission after, submissions = before ++ submission :: after →
        ∀ epochId ≤ (deployment.runFrom deployment.initial before).registry.epochForBlock
            submission.block.number + 1,
          (deployment.runFrom deployment.initial submissions).registry.catalogAt epochId =
            (deployment.runFrom deployment.initial before).registry.catalogAt epochId ∧
          (deployment.runFrom deployment.initial submissions).registry.sourceCountAt epochId =
            (deployment.runFrom deployment.initial before).registry.sourceCountAt epochId := by
  have start := deployment.inSequence_initial
  refine ⟨(sequence_runFrom ordered start).1.scheduled, ?_⟩
  rintro before submission after rfl epochId within
  obtain ⟨earlier, later⟩ := @ordered_append deployment _ _ _ ordered
  obtain ⟨next, rest⟩ := (@ordered_cons deployment _ _ _).mp later
  obtain ⟨sequence, -⟩ := sequence_runFrom earlier start
  have whole : deployment.runFrom deployment.initial (before ++ submission :: after) =
      deployment.runFrom { deployment.runFrom deployment.initial before with
        block := submission.block } (submission :: after) := List.foldl_append
  have moved := (deployment.runFrom deployment.initial before).registry.epochForBlock_mono next.1
    submission.block.number_lt
  obtain ⟨-, frame⟩ := @sequence_runFrom deployment { deployment.runFrom deployment.initial before with
    block := submission.block } _ (ordered_cons.mpr ⟨⟨le_rfl, le_rfl⟩, rest⟩) (sequence.mono moved)
  rw [whole]
  exact (deployment.grows_runFrom _ _).catalogAt (frame epochId within)

/-- The owner schedules one recipe in the block of the initialization. -/
def sampleSchedule (recipe fromEpoch : Nat) : RegistrySubmission :=
  ⟨default, default, true, ⟨3⟩, .scheduleCatalog [recipe] [⟨3⟩] fromEpoch⟩

/-- A catalog for the third epoch on is stored, and before it is in force another one for the fourth
epoch on takes its place. The epochs 0 and 1 keep the catalog they had. -/
theorem catalogs_scheduled_replaced :
    (runFrom default (initial default) [sampleSchedule 1 3]).registry.catalogs.map
        (fun catalog => (catalog.fromEpoch, catalog.recipes)) = [(3, [1])] ∧
      (runFrom default (initial default)
        [sampleSchedule 1 3, sampleSchedule 2 4]).registry.catalogs.map
        (fun catalog => (catalog.fromEpoch, catalog.recipes)) = [(4, [2])] ∧
      ∀ epochId ≤ 1, (runFrom default (initial default)
          [sampleSchedule 1 3, sampleSchedule 2 4]).registry.catalogAt epochId =
        (initial default).registry.catalogAt epochId := by
  have ordered : Ordered (initial default) [sampleSchedule 1 3, sampleSchedule 2 4] :=
    List.isChain_cons_cons.mpr
      ⟨⟨le_rfl, le_rfl⟩, List.isChain_cons_cons.mpr ⟨⟨le_rfl, le_rfl⟩, .singleton _⟩⟩
  refine ⟨by decide +kernel, by decide +kernel, fun epochId within => ?_⟩
  exact ((catalogs_scheduled default _ ordered).2 [] _ _ rfl epochId within).1

end RegistryDeployment

end D20
