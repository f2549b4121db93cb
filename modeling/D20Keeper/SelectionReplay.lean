/-
This file follows the part of `epoch.ts` that replays a selection. `resolveEpochCatalog` makes a
catalog from the registry's view, `selectEpoch` selects with it, and `replayEpochCommitment` finds
the attempt from the source of a record. On the record and the catalog of a run, the replay finds
the selector and the attempt of the commitment.
-/

import D20Keeper.EpochCommitment
import D20Keeper.Journal

namespace D20

open Evm

namespace EpochReplay

open Journal (ensure ensure_of)

def epochLength : Nat := 200

def maxEpochSources : Nat := 10

def fallbackDelayBlocks : Nat := 20

def maxEpochRecipes : Nat := 256

def initialEpochRecipes : List Nat := [0, 1, 2, 3]

/-- `EpochRecipe`, with its texts as bytes. -/
structure EpochRecipe where
  canonicalRequest : Bytes
  template : Bytes
  body : Bytes
  beacon : Option EpochBeacon

/-- `EpochCatalog`. A catalog without recipes is the initial one. `epochRecipe` is what the function
of that name answers from the recipe book: a definition, or the reason why there is none. -/
structure EpochCatalog where
  signers : List Address
  recipes : Option (List Nat)
  firstEpochStart : Nat
  epochRecipe : Nat → Except String EpochRecipe

/-- What `selectEpoch` returns. -/
structure Selected where
  source : Nat
  recipe : Nat
  attempt : Nat
  airnode : Address
  selector : Bytes32
  queryHash : Bytes32
  definition : EpochRecipe

/-- The rules of a catalog: distinct recipes with one signer each. -/
def Lists (recipes : List Nat) (signers : List Address) : Prop :=
  1 ≤ recipes.length ∧ recipes.length ≤ maxEpochSources ∧ signers.length = recipes.length ∧
    recipes.Nodup ∧ (∀ recipe ∈ recipes, recipe < maxEpochRecipes) ∧ ∀ signer ∈ signers, signer ≠ 0

instance (recipes : List Nat) (signers : List Address) : Decidable (Lists recipes signers) :=
  inferInstanceAs (Decidable (_ ∧ _))

/-- `epochCatalogRecipes`. -/
def epochCatalogRecipes (signers : List Address) (recipes : Option (List Nat)) :
    Except String (List Nat) := do
  ensure (Lists (recipes.getD initialEpochRecipes) signers) "Invalid epoch catalog"
  return recipes.getD initialEpochRecipes

/-- What `epochCatalogHash` hashes after its domain: `address[4]` for the initial catalog, `uint8[]`
and `address[]` for a scheduled one. -/
def catalogParts (signers : List Address) : Option (List Nat) → List Abi
  | none => [.static (signers.map fun signer => signer.word.val)]
  | some recipes => [.array recipes, .array (signers.map fun signer => signer.word.val)]

/-- `epochCatalogHash`. -/
def epochCatalogHash (platform : Platform) (signers : List Address) (recipes : Option (List Nat)) :
    Except String Bytes32 := do
  let _ ← epochCatalogRecipes signers recipes
  return platform.hash (.bytes32 (platform.domain "D20_EPOCH_RECIPES") ::
    catalogParts signers recipes)

/-- The end of `resolveEpochCatalog`, for a catalog that is not the initial one. -/
def resolveScheduled (platform : Platform) (base : EpochCatalog)
    (view : Bytes32 × List Nat × List Address) : Except String EpochCatalog := do
  let hash ← epochCatalogHash platform view.2.2 (some view.2.1)
  ensure (hash = view.1) "Catalog hash mismatch"
  return { base with signers := view.2.2, recipes := some view.2.1 }

/-- `resolveEpochCatalog`, from the hash, the recipes and the signers of a catalog. -/
def resolveEpochCatalog (platform : Platform) (base : EpochCatalog)
    (view : Bytes32 × List Nat × List Address) : Except String EpochCatalog :=
  if view.2.1 = initialEpochRecipes then do
    let hash ← epochCatalogHash platform view.2.2 none
    if hash = view.1 then return { base with signers := view.2.2, recipes := none }
    else resolveScheduled platform base view
  else resolveScheduled platform base view

/-- `epochStart`. -/
def epochStart (firstEpochStart epochId : Nat) : Except String Nat := do
  ensure (1 ≤ epochId) "Invalid epoch"
  return firstEpochStart + (epochId - 1) * epochLength

/-- `fallbackOpensAt`. -/
def fallbackOpensAt (firstEpochStart epochId attempt : Nat) : Except String Nat := do
  ensure (attempt < maxEpochSources) "Invalid fallback attempt"
  let start ← epochStart firstEpochStart epochId
  return start + attempt * fallbackDelayBlocks

/-- `selectEpoch`. -/
def selectEpoch (platform : Platform) (catalog : EpochCatalog) (epochId : Nat)
    (anchorHash : Bytes32) (attempt : Nat) : Except String Selected := do
  ensure (1 ≤ epochId ∧ anchorHash ≠ 0) "Invalid epoch anchor"
  let recipes ← epochCatalogRecipes catalog.signers catalog.recipes
  ensure (attempt < recipes.length) "Invalid fallback attempt"
  let hash ← epochCatalogHash platform catalog.signers catalog.recipes
  let selector := platform.hash [.bytes32 (platform.domain "D20_EPOCH_SELECT"), .bytes32 hash,
    .uint epochId, .bytes32 anchorHash]
  let source := (selector.toNat % recipes.length + attempt) % recipes.length
  let recipe := recipes.getD source 0
  let definition ← catalog.epochRecipe recipe
  return ⟨source, recipe, attempt, catalog.signers.getD source 0, selector,
    platform.keccak256 definition.canonicalRequest, definition⟩

/-- The start of `replayEpochCommitment`: the attempt that the source of a record fixes, the check
that its window was open, and its selection. -/
def replaySelection (platform : Platform) (catalog : EpochCatalog) (epochId : Nat)
    (record : Epoch) : Except String Selected := do
  let recipes ← epochCatalogRecipes catalog.signers catalog.recipes
  ensure (record.source < recipes.length) "Epoch record mismatch"
  let first ← selectEpoch platform catalog epochId record.anchorHash 0
  let attempt := (record.source + recipes.length - first.source) % recipes.length
  let opens ← fallbackOpensAt catalog.firstEpochStart epochId attempt
  ensure (opens ≤ record.committedBlock) "Invalid epoch commit block"
  selectEpoch platform catalog epochId record.anchorHash attempt

/-! ### Catalogs -/

variable {platform : Platform} {catalog base : EpochCatalog} {recipes : List Nat}
  {signers : List Address} {hash anchorHash : Bytes32} {epochId attempt : Nat}

/-- A catalog of the replay that stands for recipes with signers and their hash. -/
structure Resolves (platform : Platform) (catalog : EpochCatalog)
    (view : Bytes32 × List Nat × List Address) : Prop where
  lists : Lists view.2.1 view.2.2
  signers : catalog.signers = view.2.2
  recipes : epochCatalogRecipes catalog.signers catalog.recipes = .ok view.2.1
  hash : epochCatalogHash platform catalog.signers catalog.recipes = .ok view.1

theorem epochCatalogRecipes_eq {recipes : Option (List Nat)}
    (lists : Lists (recipes.getD initialEpochRecipes) signers) :
    epochCatalogRecipes signers recipes = .ok (recipes.getD initialEpochRecipes) := by
  unfold epochCatalogRecipes
  rw [ensure_of lists]
  rfl

theorem epochCatalogHash_eq (platform : Platform) {recipes : Option (List Nat)}
    (lists : Lists (recipes.getD initialEpochRecipes) signers) :
    epochCatalogHash platform signers recipes = .ok (platform.hash
      (.bytes32 (platform.domain "D20_EPOCH_RECIPES") :: catalogParts signers recipes)) := by
  unfold epochCatalogHash
  rw [epochCatalogRecipes_eq lists]
  rfl

/-- A view with the hash of the initial or of a scheduled catalog is resolved. -/
theorem exists_resolves (base : EpochCatalog) (lists : Lists recipes signers)
    (hashed : hash = EpochEntropy.scheduledHash platform recipes signers ∨
      (recipes = initialEpochRecipes ∧ hash = platform.hash
        [.bytes32 (platform.domain "D20_EPOCH_RECIPES"),
          .static (signers.map fun signer => signer.word.val)])) :
    ∃ catalog, resolveEpochCatalog platform base (hash, recipes, signers) = .ok catalog ∧
      Resolves platform catalog (hash, recipes, signers) ∧
      catalog.firstEpochStart = base.firstEpochStart ∧ catalog.epochRecipe = base.epochRecipe := by
  have scheduled : hash = EpochEntropy.scheduledHash platform recipes signers →
      ∃ catalog, resolveScheduled platform base (hash, recipes, signers) = .ok catalog ∧
        Resolves platform catalog (hash, recipes, signers) ∧
        catalog.firstEpochStart = base.firstEpochStart ∧ catalog.epochRecipe = base.epochRecipe := by
    intro same
    have hashes : epochCatalogHash platform signers (some recipes) = .ok hash := by
      rw [same]
      exact epochCatalogHash_eq platform lists
    refine ⟨{ base with signers := signers, recipes := some recipes }, ?_,
      ⟨lists, rfl, epochCatalogRecipes_eq lists, hashes⟩, rfl, rfl⟩
    unfold resolveScheduled
    rw [hashes, ok_bind, ensure_of rfl]
    rfl
  unfold resolveEpochCatalog
  by_cases initial : recipes = initialEpochRecipes
  · have rules : Lists (Option.getD none initialEpochRecipes) signers := initial ▸ lists
    have known := epochCatalogHash_eq platform rules
    rw [if_pos initial, known, ok_bind]
    by_cases same : platform.hash [.bytes32 (platform.domain "D20_EPOCH_RECIPES"),
        .static (signers.map fun signer => signer.word.val)] = hash
    · refine ⟨{ base with signers := signers, recipes := none }, if_pos same,
        ⟨lists, rfl, ?_, known.trans (congrArg Except.ok same)⟩, rfl, rfl⟩
      exact (epochCatalogRecipes_eq rules).trans (congrArg Except.ok initial.symm)
    · obtain ⟨resolved, done, facts⟩ := scheduled
        (hashed.resolve_right fun other => same other.2.symm)
      exact ⟨resolved, (if_neg same).trans done, facts⟩
  · rw [if_neg initial]
    exact scheduled (hashed.resolve_right fun other => initial other.1)

/-! ### Selection -/

/-- What a selection is, for the definition of its recipe. -/
def selection (platform : Platform) (view : Bytes32 × List Nat × List Address) (epochId : Nat)
    (anchorHash : Bytes32) (attempt : Nat) (definition : EpochRecipe) : Selected :=
  let selector := EpochEntropy.selector platform view.1 epochId anchorHash
  let source := EpochEntropy.sourceOf selector view.2.1.length attempt
  ⟨source, view.2.1.getD source 0, attempt, view.2.2.getD source 0, selector,
    platform.keccak256 definition.canonicalRequest, definition⟩

/-- The recipe of an attempt. -/
def recipeOf (platform : Platform) (view : Bytes32 × List Nat × List Address) (epochId : Nat)
    (anchorHash : Bytes32) (attempt : Nat) : Nat :=
  view.2.1.getD (EpochEntropy.sourceOf (EpochEntropy.selector platform view.1 epochId anchorHash)
    view.2.1.length attempt) 0

variable {view : Bytes32 × List Nat × List Address}

theorem Resolves.selectEpoch_eq (resolves : Resolves platform catalog view) (named : 1 ≤ epochId)
    (nonzero : anchorHash ≠ 0) (within : attempt < view.2.1.length) :
    selectEpoch platform catalog epochId anchorHash attempt =
      (catalog.epochRecipe (recipeOf platform view epochId anchorHash attempt)).map
        (selection platform view epochId anchorHash attempt) := by
  unfold selectEpoch
  rw [ensure_of ⟨named, nonzero⟩, ok_bind, resolves.recipes, ok_bind, ensure_of within, ok_bind,
    resolves.hash, ok_bind, resolves.signers]
  rfl

/-- The replay dates the window of an attempt as the registry does. -/
theorem fallbackOpensAt_eq {registry : EpochEntropy} {opens : Nat}
    (opensAt : registry.fallbackOpensAt epochId attempt = .ok opens) :
    fallbackOpensAt registry.firstEpochStart epochId attempt = .ok opens := by
  obtain ⟨_, within, opensAt⟩ := ok_of_bind opensAt
  obtain ⟨start, starts, opensAt⟩ := ok_of_bind opensAt
  obtain ⟨delay, product, opensAt⟩ := ok_of_bind opensAt
  obtain ⟨named, startIs⟩ := EpochEntropy.epochStart_eq_ok starts
  have few : attempt < maxEpochSources :=
    (Nat.lt_of_not_le (refuseIf_eq_ok within)).trans_le (registry.sourceCountAt_le epochId)
  rw [(checkedAdd_eq_ok (arithmetic_eq_ok opensAt)).1,
    (checkedMul_eq_ok (arithmetic_eq_ok product)).1, startIs]
  unfold fallbackOpensAt epochStart
  rw [ensure_of few, ok_bind, ensure_of (Nat.one_le_iff_ne_zero.mpr named)]
  rfl

/-- The replay of a record that follows finds the attempt, and selects with it. -/
theorem Resolves.replaySelection_eq {registry : EpochEntropy} {record : Epoch}
    (resolves : Resolves platform catalog (registry.catalogAt epochId))
    (first : catalog.firstEpochStart = registry.firstEpochStart)
    (follows : EpochEntropy.Follows platform registry epochId record) :
    ∃ attempt < registry.sourceCountAt epochId,
      record.source = EpochEntropy.sourceOf
        (EpochEntropy.selector platform record.catalogHash epochId record.anchorHash)
        (registry.sourceCountAt epochId) attempt ∧
      ∀ definition chosen,
        catalog.epochRecipe (recipeOf platform (registry.catalogAt epochId) epochId
          record.anchorHash 0) = .ok definition →
        catalog.epochRecipe (recipeOf platform (registry.catalogAt epochId) epochId
          record.anchorHash attempt) = .ok chosen →
        replaySelection platform catalog epochId record = .ok
          (selection platform (registry.catalogAt epochId) epochId record.anchorHash attempt
            chosen) := by
  obtain ⟨attempt, within, source, opens, opened, opensAt⟩ := follows.attempted
  refine ⟨attempt, within, source, fun definition chosen firstServed served => ?_⟩
  rw [EpochEntropy.sourceCountAt_eq, follows.catalogHash] at source
  rw [EpochEntropy.sourceCountAt_eq] at within
  obtain ⟨start, starts, -⟩ := follows.anchored
  have named := Nat.one_le_iff_ne_zero.mpr (EpochEntropy.epochStart_eq_ok starts).1
  have inRange : record.source < (registry.catalogAt epochId).2.1.length := by
    rw [source]
    exact EpochEntropy.sourceOf_lt within
  have found : EpochEntropy.attemptOf (registry.catalogAt epochId).2.1.length
      (selection platform (registry.catalogAt epochId) epochId record.anchorHash 0
        definition).source record.source = attempt := by
    rw [source]
    exact EpochEntropy.attemptOf_sourceOf _ within
  unfold replaySelection
  rw [resolves.recipes, ok_bind, ensure_of inRange, ok_bind,
    resolves.selectEpoch_eq named follows.nonzero (Nat.zero_lt_of_lt within), firstServed]
  show (do
    let opens ← fallbackOpensAt catalog.firstEpochStart epochId (EpochEntropy.attemptOf _ _ _)
    ensure (opens ≤ record.committedBlock) "Invalid epoch commit block"
    selectEpoch platform catalog epochId record.anchorHash (EpochEntropy.attemptOf _ _ _)) = _
  rw [found, first, fallbackOpensAt_eq opensAt, ok_bind, ensure_of opened, ok_bind,
    resolves.selectEpoch_eq named follows.nonzero within, served]
  rfl

end EpochReplay

/-! ### The catalogs of a registry -/

namespace EpochEntropy

open EpochReplay (Lists)

variable {context : RegistryContext} {before after registry : EpochEntropy} {platform : Platform}
  {events : List EpochEvent}

/-- Slots that pass have distinct recipes that are registered, and signers. -/
theorem checkSlots_eq_ok {recipes seen : List Nat} {signers : List Address}
    (sized : signers.length = recipes.length)
    (passed : checkSlots platform registry recipes signers seen = .ok ()) :
    recipes.Nodup ∧
      (∀ recipe ∈ recipes, recipe < registry.registeredRecipes.length ∧ recipe ∉ seen) ∧
      ∀ signer ∈ signers, signer ≠ 0 := by
  induction recipes generalizing signers seen with
  | nil =>
    rw [List.length_eq_zero_iff.mp sized]
    exact ⟨.nil, fun _ member => absurd member List.not_mem_nil,
      fun _ member => absurd member List.not_mem_nil⟩
  | cons recipe rest inductionHypothesis =>
    cases signers with
    | nil => cases sized
    | cons =>
      obtain ⟨_, checked, passed⟩ := ok_of_bind passed
      obtain ⟨_, -, passed⟩ := ok_of_bind passed
      obtain ⟨distinct, known, named⟩ := inductionHypothesis (Nat.succ.inj sized) passed
      have slot := refuseIf_eq_ok checked
      rw [not_or, not_or] at slot
      obtain ⟨registered, fresh, signs⟩ := slot
      refine ⟨List.nodup_cons.mpr ⟨fun again => ?_, distinct⟩,
        List.forall_mem_cons.mpr ⟨⟨Nat.lt_of_not_le registered, fresh⟩, fun other member => ?_⟩,
        List.forall_mem_cons.mpr ⟨signs, named⟩⟩
      · exact (known recipe again).2 List.mem_cons_self
      · exact ⟨(known other member).1, fun seenBefore =>
          (known other member).2 (List.mem_cons_of_mem _ seenBefore)⟩

/-- What holds of all the catalogs: they keep the rules, and their hashes are of their slots. -/
structure CatalogsHeld (platform : Platform) (registry : EpochEntropy) : Prop where
  room : registry.registeredRecipes.length ≤ maxRecipes
  scheduled : ∀ catalog ∈ registry.catalogs, Lists catalog.recipes catalog.signers ∧
    catalog.hash = scheduledHash platform catalog.recipes catalog.signers
  initial : registry.catalogHash = platform.hash [.bytes32 (platform.domain "D20_EPOCH_RECIPES"),
    .static ([registry.hyperliquidSigner, registry.ethereumBlockSigner, registry.btcTradeSigner,
      registry.ethTradeSigner].map fun signer => signer.word.val)]
  signers : ∀ signer ∈ [registry.hyperliquidSigner, registry.ethereumBlockSigner,
    registry.btcTradeSigner, registry.ethTradeSigner], signer ≠ 0

theorem Moves.catalogsHeld (moves : Moves context before after events)
    (held : CatalogsHeld context.platform before) : CatalogsHeld context.platform after := by
  have longer (recipe : Recipe) (registrable : Registrable before recipe) :
      (before.registeredRecipes ++ [recipe]).length ≤ maxRecipes := by
    rw [List.length_append, List.length_singleton]
    exact registrable.room
  cases moves with
  | schedule catalog ahead hashed slots =>
    refine ⟨held.room, fun other member => ?_, held.initial, held.signers⟩
    rcases List.mem_append.mp member with old | new
    · refine held.scheduled other ?_
      unfold withoutPending at old
      split at old
      · exact old
      · split at old
        · exact List.dropLast_subset _ old
        · exact old
    · obtain rfl := List.mem_singleton.mp new
      obtain ⟨distinct, known, named⟩ := checkSlots_eq_ok other.signers_length slots
      exact ⟨⟨other.recipes_pos, other.recipes_le, other.signers_length, distinct,
        fun recipe member => (known recipe member).1.trans_le held.room, named⟩, hashed⟩
  | recipe recipe event plain registrable =>
    exact ⟨longer recipe registrable, held.scheduled, held.initial, held.signers⟩
  | beacon beacon events plain registrable =>
    exact ⟨longer _ registrable, held.scheduled, held.initial, held.signers⟩
  | _ => exact ⟨held.room, held.scheduled, held.initial, held.signers⟩

/-- The replay resolves the catalog of every epoch. -/
theorem CatalogsHeld.exists_resolves (held : CatalogsHeld platform registry)
    (base : EpochReplay.EpochCatalog) (epochId : Nat) :
    ∃ catalog, EpochReplay.resolveEpochCatalog platform base (registry.catalogAt epochId) =
        .ok catalog ∧
      EpochReplay.Resolves platform catalog (registry.catalogAt epochId) ∧
      catalog.firstEpochStart = base.firstEpochStart ∧ catalog.epochRecipe = base.epochRecipe := by
  unfold catalogAt
  split
  case h_1 catalog found =>
    rw [versionAt_eq] at found
    obtain ⟨lists, hashed⟩ := held.scheduled catalog (Timeline.inForce_mem found).1
    exact EpochReplay.exists_resolves base lists (.inl hashed)
  case h_2 =>
    exact EpochReplay.exists_resolves base ⟨by decide, by decide, rfl, by decide, by decide,
      held.signers⟩ (.inr ⟨rfl, held.initial⟩)

end EpochEntropy

/-! ### The commitment of an epoch -/

namespace RegistryDeployment

variable {deployment : RegistryDeployment}

theorem catalogsHeld_initial (deployment : RegistryDeployment) :
    EpochEntropy.CatalogsHeld deployment.platform deployment.registry := by
  have leaves := deployment.leaves
  obtain ⟨first, second, third, fourth⟩ := leaves.signers
  have nonzero := leaves.signers_ne
  refine ⟨(congrArg List.length leaves.registeredRecipes).trans_le (by decide),
    fun catalog member => ?_, ?_, ?_⟩
  · rw [leaves.catalogs] at member
    exact absurd member List.not_mem_nil
  · rw [leaves.catalogHash, first, second, third, fourth]
    rfl
  · rw [first, second, third, fourth]
    simp only [List.forall_mem_cons, List.not_mem_nil, false_imp_iff, implies_true, and_true]
    exact ⟨nonzero 0, nonzero 1, nonzero 2, nonzero 3⟩

theorem catalogsHeld_runFrom {submissions : List RegistrySubmission}
    (ordered : Ordered deployment.initial submissions) :
    EpochEntropy.CatalogsHeld deployment.platform
      (deployment.runFrom deployment.initial submissions).registry :=
  @runFrom_preserves deployment deployment.initial
    (fun now => EpochEntropy.CatalogsHeld deployment.platform now.registry)
    (fun _ _ _ held => held)
    (fun _ _ _ _ _ done held => (EpochEntropy.run_moves done).catalogsHeld held) _ ordered
    deployment.catalogsHeld_initial

/-- What a run says of an epoch. Its commitment is unique, its record and its anchor stay and follow
from its catalog, the attempts take every slot once within the epoch, and the replay of the record
with the catalog finds the same selector and attempt, once the two recipes it reads have
definitions. -/
structure Committed (deployment : RegistryDeployment) (submissions : List RegistrySubmission)
    (epochId : Nat) (final : EpochEntropy) : Prop where
  once : ((deployment.runFrom deployment.initial submissions).logs.map Prod.snd).countP
    (EpochEvent.commits epochId) ≤ 1
  stays : ∀ before after, submissions = before ++ after →
    (((deployment.runFrom deployment.initial before).registry.getEpoch epochId).epochHash ≠ 0 →
      final.getEpoch epochId =
        (deployment.runFrom deployment.initial before).registry.getEpoch epochId) ∧
    ((deployment.runFrom deployment.initial before).registry.epochAnchors epochId ≠ 0 →
      final.epochAnchors epochId =
        (deployment.runFrom deployment.initial before).registry.epochAnchors epochId)
  canonical : final.epochAnchors epochId ≠ 0 → ∃ start, final.epochStart epochId = .ok start ∧
    final.epochAnchors epochId = deployment.platform.canonical (start - 1)
  follows : (final.getEpoch epochId).epochHash ≠ 0 →
    EpochEntropy.Follows deployment.platform final epochId (final.getEpoch epochId)
  slots : ∀ selector count,
    Set.BijOn (EpochEntropy.sourceOf selector count) (Set.Iio count) (Set.Iio count)
  windows : ∀ start, final.epochStart epochId = .ok start →
    ∀ attempt < final.sourceCountAt epochId,
      start + attempt * EpochEntropy.fallbackDelayBlocks < start + EpochEntropy.epochLength ∧
      (start + EpochEntropy.epochLength ≤ 2 ^ 64 → final.fallbackOpensAt epochId attempt =
        .ok (start + attempt * EpochEntropy.fallbackDelayBlocks))
  replays : (final.getEpoch epochId).epochHash ≠ 0 → ∀ base : EpochReplay.EpochCatalog,
    base.firstEpochStart = final.firstEpochStart →
    ∃ catalog, EpochReplay.resolveEpochCatalog deployment.platform base (final.catalogAt epochId) =
        .ok catalog ∧
      catalog.epochRecipe = base.epochRecipe ∧
      ∃ attempt < final.sourceCountAt epochId,
        (final.getEpoch epochId).source = EpochEntropy.sourceOf
          (EpochEntropy.selector deployment.platform (final.getEpoch epochId).catalogHash epochId
            (final.getEpoch epochId).anchorHash) (final.sourceCountAt epochId) attempt ∧
        ∀ definition chosen,
          catalog.epochRecipe (EpochReplay.recipeOf deployment.platform (final.catalogAt epochId)
            epochId (final.getEpoch epochId).anchorHash 0) = .ok definition →
          catalog.epochRecipe (EpochReplay.recipeOf deployment.platform (final.catalogAt epochId)
            epochId (final.getEpoch epochId).anchorHash attempt) = .ok chosen →
          EpochReplay.replaySelection deployment.platform catalog epochId
              (final.getEpoch epochId) =
            .ok (EpochReplay.selection deployment.platform (final.catalogAt epochId) epochId
              (final.getEpoch epochId).anchorHash attempt chosen)

/-- Every run of the registry at blocks in order commits its epochs so. -/
theorem epoch_committed (deployment : RegistryDeployment)
    (hashes : ∀ bytes, deployment.platform.keccak256 bytes ≠ 0)
    (submissions : List RegistrySubmission) (ordered : Ordered deployment.initial submissions)
    (epochId : Nat) :
    deployment.Committed submissions epochId
      (deployment.runFrom deployment.initial submissions).registry := by
  have keeps := keeps_runFrom hashes ordered epochId
  refine ⟨?_, ?_, keeps.anchors epochId, fun published => (keeps.settled published).1,
    EpochEntropy.sourceOf_bijOn, fun start starts attempt within =>
      EpochEntropy.fallbackOpensAt_within starts within, fun published base first => ?_⟩
  · rw [keeps.commits]
    split
    · exact Nat.zero_le 1
    · exact le_rfl
  · rintro before after rfl
    have whole : deployment.runFrom deployment.initial (before ++ after) =
        deployment.runFrom (deployment.runFrom deployment.initial before) after := List.foldl_append
    rw [whole]
    have grows := deployment.grows_runFrom (deployment.runFrom deployment.initial before) after
    exact ⟨grows.epochs epochId, grows.epochAnchors epochId⟩
  · obtain ⟨catalog, resolved, resolves, sameFirst, book⟩ :=
      (catalogsHeld_runFrom ordered).exists_resolves base epochId
    exact ⟨catalog, resolved, book, resolves.replaySelection_eq (sameFirst.trans first)
      (keeps.settled published).1⟩

/-- The committer commits the first epoch in its first block. -/
def sampleSubmission : RegistrySubmission :=
  ⟨sampleBlock, default, true, ⟨3⟩, sampleCommit⟩

/-- A run in which the committer commits the first epoch from its second source, and is refused when
it commits the epoch once more. -/
theorem epoch_committed_first :
    ((runFrom default (initial default) [sampleSubmission, sampleSubmission]).registry.getEpoch
        1).epochHash ≠ 0 ∧
      ((runFrom default (initial default) [sampleSubmission, sampleSubmission]).registry.getEpoch
        1).source = 1 ∧
      ((runFrom default (initial default) [sampleSubmission, sampleSubmission]).logs.map
        Prod.snd).countP (EpochEvent.commits 1) = 1 ∧
      Committed default [sampleSubmission, sampleSubmission] 1
        (runFrom default (initial default) [sampleSubmission, sampleSubmission]).registry := by
  have ordered : Ordered (initial default) [sampleSubmission, sampleSubmission] :=
    List.isChain_cons_cons.mpr
      ⟨⟨by decide, le_rfl⟩, List.isChain_cons_cons.mpr ⟨⟨le_rfl, le_rfl⟩, .singleton _⟩⟩
  have hashes (bytes : Bytes) : (default : RegistryDeployment).platform.keccak256 bytes ≠ 0 := by
    show (1 : Bytes32) ≠ 0
    decide
  exact ⟨by decide +kernel, by decide +kernel, by decide +kernel,
    epoch_committed default hashes _ ordered 1⟩

end RegistryDeployment

end D20
