/-
This file is about runs: transactions sent to a contract one after the other, in
any number. A transaction that fails leaves the storage as it was. Ether can be
forced into the contract before any of them.

What a contract does at a block depends on the order of blocks only where a
theorem says so, by a relation between the blocks of consecutive transactions.
-/

import D20Keeper.Wp
import Mathlib.Data.List.Chain

namespace Evm

/-- A block that is not later than another, by number and by timestamp. -/
def Block.before (earlier later : Block) : Prop :=
  earlier.number ≤ later.number ∧ earlier.timestamp ≤ later.timestamp

/-- A transaction sent to a contract: the block it is in, how the outside world behaves, the gas
it has, a bound on how deep its calls nest, what is forced in before, and the message. -/
structure Submission (κ ν : Type) where
  block : Block
  env : Env κ ν
  gas : Nat
  depth : Nat
  gift : Nat
  message : κ

/-- The state of a contract between two transactions: the block of the last one, the account, and
the events so far with their blocks. -/
structure Committed (σ η : Type) where
  block : Block
  account : Account σ
  logs : List (Block × η)

variable {σ ε η κ ν μ : Type}

/-- The account with what is forced in before a transaction. -/
def Submission.gifted (submission : Submission κ ν) (account : Account σ) : Account σ :=
  { account with balance := account.balance + submission.gift }

/-- What a transaction does on a state. -/
def Submission.outcome (exec : Block → Nat → κ → Tx σ ε η κ ν μ Unit)
    (submission : Submission κ ν) (state : Committed σ η) : Outcome σ ε η μ Unit :=
  exec submission.block submission.depth submission.message submission.env
    ⟨submission.gifted state.account, some submission.gas, 0, 0⟩

/-- The state after a transaction. -/
def Submission.commit (exec : Block → Nat → κ → Tx σ ε η κ ν μ Unit)
    (submission : Submission κ ν) (state : Committed σ η) : Committed σ η :=
  let outcome := submission.outcome exec state
  match outcome.result with
  | .ok _ => ⟨submission.block, outcome.world.account,
      state.logs ++ outcome.events.map fun event => (submission.block, event)⟩
  | .error _ => ⟨submission.block, submission.gifted state.account, state.logs⟩

/-- The state after transactions. -/
def runAll (exec : Block → Nat → κ → Tx σ ε η κ ν μ Unit) (state : Committed σ η)
    (submissions : List (Submission κ ν)) : Committed σ η :=
  submissions.foldl (fun state submission => submission.commit exec state) state

/-- What does not hold at first and holds at last comes to hold at some step. -/
theorem exists_turn {State Action : Type} {step : State → Action → State} (holds : State → Prop)
    {state : State} {actions : List Action} (start : ¬ holds state)
    (finish : holds (actions.foldl step state)) :
    ∃ before action after, actions = before ++ action :: after ∧
      ¬ holds (before.foldl step state) ∧ holds (step (before.foldl step state) action) := by
  induction actions generalizing state with
  | nil => exact absurd finish start
  | cons action rest inductionHypothesis =>
    by_cases first : holds (step state action)
    · exact ⟨[], action, rest, rfl, start, first⟩
    · obtain ⟨before, turning, after, split, unheld, held⟩ := inductionHypothesis first finish
      exact ⟨action :: before, turning, after, by rw [split]; rfl, unheld, held⟩

/-- The blocks of a run are related one by one, from the state's on. -/
def Follows (order : Block → Block → Prop) (state : Committed σ η)
    (submissions : List (Submission κ ν)) : Prop :=
  (state.block :: submissions.map Submission.block).IsChain order

variable (exec : Block → Nat → κ → Tx σ ε η κ ν μ Unit) {state : Committed σ η}
  {order : Block → Block → Prop}

theorem runAll_append (submissions more : List (Submission κ ν)) :
    runAll exec state (submissions ++ more) = runAll exec (runAll exec state submissions) more :=
  List.foldl_append

theorem block_commit (submission : Submission κ ν) :
    (submission.commit exec state).block = submission.block := by
  unfold Submission.commit
  dsimp only
  split <;> rfl

theorem follows_cons {submission : Submission κ ν} {rest : List (Submission κ ν)}
    (follows : Follows order state (submission :: rest)) :
    order state.block submission.block ∧ Follows order (submission.commit exec state) rest := by
  unfold Follows at follows ⊢
  rw [List.map_cons, List.isChain_cons_cons] at follows
  rw [block_commit]
  exact follows

/-- The part of a run after its first transactions is a run from where they lead. -/
theorem follows_append {submissions more : List (Submission κ ν)}
    (follows : Follows order state (submissions ++ more)) :
    Follows order state submissions ∧ Follows order (runAll exec state submissions) more := by
  induction submissions generalizing state with
  | nil => exact ⟨List.isChain_singleton _, follows⟩
  | cons submission rest inductionHypothesis =>
    obtain ⟨first, later⟩ := follows_cons exec follows
    obtain ⟨before, after⟩ := inductionHypothesis later
    refine ⟨?_, after⟩
    unfold Follows at before ⊢
    rw [List.map_cons, List.isChain_cons_cons]
    rw [block_commit] at before
    exact ⟨first, before⟩

/-- Every list of transactions is a run when the blocks need not be in order. -/
theorem follows_true (state : Committed σ η) (submissions : List (Submission κ ν)) :
    Follows (fun _ _ => True) state submissions := by
  unfold Follows
  generalize state.block = block
  induction submissions generalizing block with
  | nil => exact List.isChain_singleton _
  | cons submission rest inductionHypothesis =>
    rw [List.map_cons, List.isChain_cons_cons]
    exact ⟨trivial, inductionHypothesis submission.block⟩

end Evm
