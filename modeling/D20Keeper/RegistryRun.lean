/-
This file is about runs of the registry on its own: its external functions, called
by anyone in any order after its initialization. A call that fails leaves the
registry as it was.
-/

import D20Keeper.RegistrySteps
import D20Keeper.Run

namespace D20

open Evm

/-- A call to the registry: the block it is in, what the verifiers answer, whether its gas covers
the questions it asks, the sender and the function. -/
structure RegistrySubmission where
  block : Block
  views : Views
  enoughGas : Bool
  sender : Address
  call : EpochEntropy.Call

/-- The registry between two calls: the block of the last one, the storage, and the events so far
with their blocks. -/
structure RegistryState where
  block : Block
  registry : EpochEntropy
  logs : List (Block × EpochEvent)

namespace EpochEntropy

/-- What a recipe must satisfy to be registered, besides that there is room. -/
def Fits (recipe : Recipe) : Prop :=
  recipe.canonicalRequest.length ≠ 0 ∧ recipe.canonicalRequest.length ≤ maxRequestBytes ∧
    recipe.body.length ≠ 0 ∧ recipe.body.length ≤ maxBodyBytes ∧
    DataTemplate.isValid recipe.template = true

instance : DecidablePred Fits := fun _ => inferInstanceAs (Decidable (_ ∧ _))

/-- Recipes that fit are appended. -/
theorem addRecipes_of_fits (platform : Platform) {recipes : List Recipe} {registry : EpochEntropy}
    (room : registry.registeredRecipes.length + recipes.length ≤ maxRecipes)
    (fits : ∀ recipe ∈ recipes, Fits recipe) :
    addRecipes platform recipes registry = .ok { registry with
      registeredRecipes := registry.registeredRecipes ++ recipes } := by
  induction recipes generalizing registry with
  | nil =>
    unfold addRecipes
    rw [List.append_nil]
  | cons recipe rest inductionHypothesis =>
    obtain ⟨first, later⟩ := List.forall_mem_cons.mp fits
    obtain ⟨request, requestSize, body, bodySize, template⟩ := first
    rw [List.length_cons] at room
    have sized : ¬ (maxRecipes ≤ registry.registeredRecipes.length ∨
        recipe.canonicalRequest.length = 0 ∨ maxRequestBytes < recipe.canonicalRequest.length ∨
        recipe.body.length = 0 ∨ maxBodyBytes < recipe.body.length) := by
      omega
    have shaped : ¬ DataTemplate.isValid recipe.template = false := by
      rw [template]
      exact Bool.noConfusion
    unfold addRecipes addRecipe refuseIf
    dsimp only
    rw [if_neg sized, if_neg shaped]
    refine (inductionHypothesis ?_ later).trans ?_
    · show (registry.registeredRecipes ++ [recipe]).length + rest.length ≤ maxRecipes
      rw [List.length_append, List.length_singleton]
      omega
    · exact congrArg (fun recipes => Except.ok { registry with registeredRecipes := recipes })
        (List.append_assoc registry.registeredRecipes [recipe] rest)

theorem fits_builtinRecipes : ∀ recipe ∈ builtinRecipes, Fits recipe := by
  unfold builtinRecipes blockHashRecipe tradeRecipe DataTemplate.literal
  simp only [ascii_append]
  repeat rw [ascii_ofList]
  decide +kernel

/-- The initialization goes through when every role is named. -/
theorem initializeProxy_eq {context : RegistryContext} {signers : Fin 4 → Address}
    {owner committer : Address} (owned : owner ≠ 0)
    (named : ¬ (signers 0 = 0 ∨ signers 1 = 0 ∨ signers 2 = 0 ∨ signers 3 = 0 ∨ committer = 0))
    (fits : context.block.number % 2 ^ 64 + epochLength < 2 ^ 64) :
    initializeProxy context signers owner committer = .ok { initialStorage context signers owner
      committer (context.block.number % 2 ^ 64 + epochLength) with
        registeredRecipes := builtinRecipes } := by
  have room : 0 + builtinRecipes.length ≤ maxRecipes := by decide
  unfold initializeProxy refuseIf
  rw [if_neg owned, if_neg named, checkedAdd_ok fits, arithmetic_ok, ok_bind, ok_bind, ok_bind]
  exact addRecipes_of_fits context.platform room fits_builtinRecipes

end EpochEntropy

/-- A deployment of the registry: its initialization went through and left `registry`. -/
structure RegistryDeployment where
  platform : Platform
  self : Address
  block : Block
  views : Views
  enoughGas : Bool
  signers : Fin 4 → Address
  owner : Address
  committer : Address
  registry : EpochEntropy
  initialized : EpochEntropy.initializeProxy ⟨platform, self, block, views, enoughGas⟩ signers owner
    committer = .ok registry

namespace RegistryDeployment

/-- One wallet owns the registry, commits to it and signs for every source. -/
instance : Inhabited RegistryDeployment where
  default :=
    { platform := default
      self := ⟨1⟩
      block := default
      views := default
      enoughGas := true
      signers := fun _ => ⟨3⟩
      owner := ⟨3⟩
      committer := ⟨3⟩
      registry := _
      initialized := EpochEntropy.initializeProxy_eq (by decide) (by decide) (by decide) }

/-- The first block of the first epoch. -/
def sampleBlock : Block := ⟨201, 1, 0, by decide, by decide⟩

/-- A call that commits the first epoch in a block, with the hash of Ethereum's last block. -/
def sampleCommit : EpochEntropy.Call := .commitEpoch 1
  ⟨1, ascii "\x7b\"id\":null,\"jsonrpc\":\"2.0\",\"result\":\"0x" ++ List.replicate 64 48 ++
    ascii "\"\x7d", []⟩

variable (deployment : RegistryDeployment)

/-- What a call to the registry reads besides its storage. -/
def context (submission : RegistrySubmission) : RegistryContext :=
  ⟨deployment.platform, deployment.self, submission.block, submission.views, submission.enoughGas⟩

/-- The registry after its initialization. -/
def initial : RegistryState := ⟨deployment.block, deployment.registry, []⟩

variable (state : RegistryState)

/-- The registry after a call. -/
def commit (submission : RegistrySubmission) : RegistryState :=
  match EpochEntropy.run (deployment.context submission) submission.sender state.registry
    submission.call with
  | .ok (registry, events) => ⟨submission.block, registry,
      state.logs ++ events.map fun event => (submission.block, event)⟩
  | .error _ => ⟨submission.block, state.registry, state.logs⟩

/-- The registry after calls. -/
def runFrom (submissions : List RegistrySubmission) : RegistryState :=
  submissions.foldl deployment.commit state

/-- The blocks of the calls are in order. -/
def Ordered (submissions : List RegistrySubmission) : Prop :=
  (state.block :: submissions.map RegistrySubmission.block).IsChain Block.before

/-! ### Initialization -/

/-- What the initialization of the registry leaves. -/
structure Leaves (registry : EpochEntropy) : Prop where
  firstEpochStart : registry.firstEpochStart = deployment.block.number + EpochEntropy.epochLength
  catalogHash : registry.catalogHash = deployment.platform.hash
    [.bytes32 (deployment.platform.domain "D20_EPOCH_RECIPES"),
      .static ((List.finRange 4).map fun slot => (deployment.signers slot).word.val)]
  signers : registry.hyperliquidSigner = deployment.signers 0 ∧
    registry.ethereumBlockSigner = deployment.signers 1 ∧
    registry.btcTradeSigner = deployment.signers 2 ∧
    registry.ethTradeSigner = deployment.signers 3
  signers_ne : ∀ slot, deployment.signers slot ≠ 0
  epochs : registry.epochs = fun _ => .blank
  epochAnchors : registry.epochAnchors = fun _ => 0
  catalogs : registry.catalogs = []
  registeredRecipes : registry.registeredRecipes = EpochEntropy.builtinRecipes
  beacons : registry.beacons = fun _ => ⟨0, 0, 0, 0, []⟩

theorem leaves : deployment.Leaves deployment.registry := by
  obtain ⟨_, -, done⟩ := ok_of_bind deployment.initialized
  obtain ⟨_, named, done⟩ := ok_of_bind done
  obtain ⟨first, sums, done⟩ := ok_of_bind done
  have nonzero := refuseIf_eq_ok named
  rw [not_or, not_or, not_or, not_or] at nonzero
  rw [EpochEntropy.addRecipes_eq_ok done]
  refine ⟨?_, rfl, ⟨rfl, rfl, rfl, rfl⟩, fun slot => ?_, rfl, rfl, rfl, rfl, rfl⟩
  · show first = _
    rw [(checkedAdd_eq_ok (arithmetic_eq_ok sums)).1,
      Nat.mod_eq_of_lt deployment.block.number_lt]
  · match slot with
    | 0 => exact nonzero.1
    | 1 => exact nonzero.2.1
    | 2 => exact nonzero.2.2.1
    | 3 => exact nonzero.2.2.2.1

variable {deployment} {state : RegistryState}

theorem block_commit (submission : RegistrySubmission) :
    (deployment.commit state submission).block = submission.block := by
  unfold commit
  split <;> rfl

/-- What every successful call and every advance to a later block keep holds along a run. -/
theorem runFrom_preserves {holds : RegistryState → Prop}
    (advance : ∀ state block, state.block.before block → holds state →
      holds { state with block := block })
    (call : ∀ state submission registry events, state.block = submission.block →
      EpochEntropy.run (deployment.context submission) submission.sender state.registry
        submission.call = .ok (registry, events) → holds state →
      holds ⟨submission.block, registry,
        state.logs ++ events.map fun event => (submission.block, event)⟩)
    {submissions : List RegistrySubmission} (ordered : Ordered state submissions)
    (start : holds state) : holds (deployment.runFrom state submissions) := by
  induction submissions generalizing state with
  | nil => exact start
  | cons submission rest inductionHypothesis =>
    unfold Ordered at ordered
    rw [List.map_cons, List.isChain_cons_cons] at ordered
    have moved := advance state submission.block ordered.1 start
    have kept : holds (deployment.commit state submission) := by
      unfold commit
      split
      · rename_i registry events done
        exact call { state with block := submission.block } submission registry events rfl done
          moved
      · exact moved
    refine inductionHypothesis ?_ kept
    unfold Ordered
    rw [block_commit]
    exact ordered.2

/-! ### Records along runs -/

variable (deployment) in
/-- A call makes a move, or fails and changes nothing. -/
theorem commit_cases (state : RegistryState) (submission : RegistrySubmission) :
    (deployment.commit state submission).registry = state.registry ∨
      ∃ events, EpochEntropy.Moves (deployment.context submission) state.registry
        (deployment.commit state submission).registry events := by
  unfold commit
  split
  · rename_i registry events done
    exact .inr ⟨events, EpochEntropy.run_moves done⟩
  · exact .inl rfl

theorem grows_commit (state : RegistryState) (submission : RegistrySubmission) :
    EpochEntropy.Grows state.registry (deployment.commit state submission).registry := by
  rcases deployment.commit_cases state submission with same | ⟨events, moves⟩
  · rw [same]
    exact .refl _
  · exact moves.grows

variable (deployment) in
/-- The registry only grows. -/
theorem grows_runFrom (state : RegistryState) (submissions : List RegistrySubmission) :
    EpochEntropy.Grows state.registry (deployment.runFrom state submissions).registry := by
  induction submissions generalizing state with
  | nil => exact .refl _
  | cons submission rest inductionHypothesis =>
    exact (grows_commit state submission).trans (inductionHypothesis _)

/-- The record that a call writes names the block of the call. -/
theorem committedBlock_commit {submission : RegistrySubmission} {epochId : Nat}
    (unpublished : (state.registry.getEpoch epochId).epochHash = 0)
    (published : ((deployment.commit state submission).registry.getEpoch epochId).epochHash ≠ 0) :
    ((deployment.commit state submission).registry.getEpoch epochId).committedBlock =
      submission.block.number := by
  rcases deployment.commit_cases state submission with same | ⟨events, moves⟩
  · rw [same] at published
    exact absurd unpublished published
  · exact moves.published unpublished published

variable (deployment) in
/-- A call in a block writes the record of an epoch. -/
def CommittedIn (submissions : List RegistrySubmission) (epochId : Nat) (block : Block) : Prop :=
  ∃ before submission after, submissions = before ++ submission :: after ∧
    submission.block = block ∧
    ((deployment.runFrom deployment.initial before).registry.getEpoch epochId).epochHash = 0 ∧
    ((deployment.runFrom deployment.initial (before ++ [submission])).registry.getEpoch
      epochId).epochHash ≠ 0

variable {submissions : List RegistrySubmission} {epochId : Nat} {block : Block}

/-- A record that a run holds was written in the block that it names. -/
theorem committedBlock_of_committedIn
    (committed : deployment.CommittedIn submissions epochId block) :
    ((deployment.runFrom deployment.initial submissions).registry.getEpoch epochId).epochHash ≠ 0 ∧
    ((deployment.runFrom deployment.initial submissions).registry.getEpoch epochId).committedBlock =
      block.number := by
  obtain ⟨before, submission, after, rfl, rfl, unpublished, published⟩ := committed
  have last : deployment.runFrom deployment.initial (before ++ [submission]) =
      deployment.commit (deployment.runFrom deployment.initial before) submission :=
    List.foldl_append
  have whole : deployment.runFrom deployment.initial (before ++ submission :: after) =
      deployment.runFrom (deployment.runFrom deployment.initial (before ++ [submission])) after := by
    rw [List.append_cons]
    exact List.foldl_append
  have kept := (deployment.grows_runFrom (deployment.runFrom deployment.initial (before ++ [submission]))
    after).epochs epochId published
  unfold EpochEntropy.getEpoch
  rw [whole, kept]
  refine ⟨published, ?_⟩
  rw [last] at published ⊢
  exact committedBlock_commit unpublished published

/-- A record that a run holds was written by one of its calls. -/
theorem exists_committedIn (published : ((deployment.runFrom deployment.initial
    submissions).registry.getEpoch epochId).epochHash ≠ 0) :
    ∃ block, deployment.CommittedIn submissions epochId block := by
  have blank : ¬ (deployment.initial.registry.getEpoch epochId).epochHash ≠ 0 := by
    rw [not_not]
    show (deployment.registry.epochs epochId).epochHash = 0
    rw [deployment.leaves.epochs]
    rfl
  obtain ⟨before, submission, after, split, earlier, later⟩ := exists_turn
    (fun state : RegistryState => (state.registry.getEpoch epochId).epochHash ≠ 0) blank published
  refine ⟨submission.block, before, submission, after, split, rfl, not_not.mp earlier, ?_⟩
  unfold runFrom
  rw [List.foldl_append]
  exact later

end RegistryDeployment

end D20
