/-
This file is the execution model of one contract inside one transaction.

A program `Tx` runs on the account of the contract (its storage and its balance)
and may call out. Nothing is assumed of what it calls: an `Env` holds, for every
external call of the transaction in the order they happen, an answer that says
whether the call succeeds, which calls it makes back into the modelled contracts
before it returns, how much ether it forces in, how much gas it burns and what a
static call would see at that moment. A theorem about all environments is a
theorem about every adversary, adaptive ones included, since the program's own
steps are deterministic between two answers.

A failed frame restores the account and drops its events. What is kept across
failures is the list of points a run passes: every outgoing call with the
account as it stands while the call is in progress, every gas check, and every
failure of a call made back into the contract.
-/

import D20Keeper.Evm

namespace Evm

/-! ### The outside world -/

/-- The state of one contract account. -/
structure Account (σ : Type) where
  storage : σ
  balance : Nat

/-- How the outside world behaves at one external call. `κ` is the type of calls that can be
made back into the modelled contracts and `ν` what a static call can see. -/
structure Answer (κ ν : Type) where
  success : Bool
  reentry : List κ
  gift : Nat
  burn : Nat
  view : ν

/-- The behaviour of the outside world over one transaction: the answer to the n-th external
call, and the gas the contract's own instructions use before the n-th metered point. -/
structure Env (κ ν : Type) where
  answer : Nat → Answer κ ν
  overhead : Nat → Nat

/-- An outside world in which every call succeeds and does nothing else. -/
instance {κ ν : Type} [Inhabited ν] : Inhabited (Env κ ν) :=
  ⟨fun _ => ⟨true, [], 0, 0, default⟩, fun _ => 0⟩

/-- Why a frame failed. -/
inductive Fault (ε : Type) where
  | revert (error : ε)
  | panic (code : Panic)
  | outOfGas
  | callDepth
deriving DecidableEq, Repr

/-- What a point of a run records. A `call` hands control on and may carry value; an `ask` is a
call that nothing of the account can change under. -/
inductive Happening (ε μ : Type) where
  | call (target : Address) (value : Nat) (limit forwarded : Option Nat)
  | ask (target : Address) (limit forwarded : Option Nat)
  | failed (fault : Fault ε)
  | gasCheck (need : Nat)
  | mark (label : μ)
  | spent (label : μ) (gas : Nat)

/-- A point of a run, with the account and the gas as they stand there, and the number of calls
it is nested in. -/
structure Point (σ ε μ : Type) where
  happening : Happening ε μ
  account : Account σ
  gas : Option Nat
  depth : Nat

/-- A point of a nested call, seen from the caller. -/
def Point.deeper {σ ε μ : Type} (point : Point σ ε μ) : Point σ ε μ :=
  { point with depth := point.depth + 1 }

/-- The state a program runs on. Gas is metered when it is `some`, and abstracted away when it
is `none`. -/
structure World (σ : Type) where
  account : Account σ
  gas : Option Nat
  cursor : Nat
  ticks : Nat

/-- The result of a program: its value or fault, the state it leaves, the points it passed and
the events it emitted. -/
structure Outcome (σ ε η μ α : Type) where
  result : Except (Fault ε) α
  world : World σ
  points : List (Point σ ε μ)
  events : List η

/-- A program of a contract with storage `σ`, errors `ε` and events `η`. -/
def Tx (σ ε η κ ν μ α : Type) := Env κ ν → World σ → Outcome σ ε η μ α

namespace Tx

variable {σ ε η κ ν μ α β : Type}

/-! ### Sequencing -/

instance : Monad (Tx σ ε η κ ν μ) where
  pure value := fun _ world => ⟨.ok value, world, [], []⟩
  bind program next := fun env world =>
    let first := program env world
    match first.result with
    | .error fault => ⟨.error fault, first.world, first.points, first.events⟩
    | .ok value =>
      let second := next value env first.world
      ⟨second.result, second.world, first.points ++ second.points,
        first.events ++ second.events⟩

theorem bind_of_ok {program : Tx σ ε η κ ν μ α} {next : α → Tx σ ε η κ ν μ β} {env : Env κ ν}
    {world : World σ} {value : α} (ok : (program env world).result = .ok value) :
    (program >>= next) env world =
      ⟨(next value env (program env world).world).result,
        (next value env (program env world).world).world,
        (program env world).points ++ (next value env (program env world).world).points,
        (program env world).events ++ (next value env (program env world).world).events⟩ := by
  show (match (program env world).result with
    | .error fault => _
    | .ok value => _) = _
  rw [ok]

theorem bind_of_error {program : Tx σ ε η κ ν μ α} {next : α → Tx σ ε η κ ν μ β} {env : Env κ ν}
    {world : World σ} {fault : Fault ε} (error : (program env world).result = .error fault) :
    (program >>= next) env world =
      ⟨.error fault, (program env world).world, (program env world).points,
        (program env world).events⟩ := by
  show (match (program env world).result with
    | .error fault => _
    | .ok value => _) = _
  rw [error]

/-! ### Storage, events and failures -/

/-- The storage of the contract. -/
def storage : Tx σ ε η κ ν μ σ := fun _ world => ⟨.ok world.account.storage, world, [], []⟩

/-- Write the storage of the contract. -/
def write (update : σ → σ) : Tx σ ε η κ ν μ Unit := fun _ world =>
  ⟨.ok (), { world with account := { world.account with storage := update world.account.storage } },
    [], []⟩

/-- Take the value a message carries. -/
def receive (value : Nat) : Tx σ ε η κ ν μ Unit := fun _ world =>
  ⟨.ok (), { world with account := { world.account with balance := world.account.balance + value } },
    [], []⟩

/-- Emit an event. -/
def emit (event : η) : Tx σ ε η κ ν μ Unit := fun _ world => ⟨.ok (), world, [], [event]⟩

/-- Fail the frame. -/
def fail (fault : Fault ε) : Tx σ ε η κ ν μ α := fun _ world => ⟨.error fault, world, [], []⟩

/-- Revert with an error of the contract. -/
def revert (error : ε) : Tx σ ε η κ ν μ α := fail (.revert error)

/-- Revert with an error of the contract when a condition holds. -/
def revertIf (condition : Prop) [Decidable condition] (error : ε) : Tx σ ε η κ ν μ Unit :=
  if condition then revert error else pure ()

/-- A computation that may panic. -/
def checked (value : Except Panic α) : Tx σ ε η κ ν μ α :=
  match value with
  | .ok value => pure value
  | .error code => fail (.panic code)

/-- A computation that may revert with an error of the contract or panic. -/
def attempt (value : Except (Fault ε) α) : Tx σ ε η κ ν μ α :=
  match value with
  | .ok value => pure value
  | .error fault => fail fault

/-! ### Gas -/

/-- The gas used by the contract's own instructions since the last metered point. -/
def tick : Tx σ ε η κ ν μ Unit := fun env world =>
  match world.gas with
  | none => ⟨.ok (), world, [], []⟩
  | some gas =>
    if env.overhead world.ticks ≤ gas then
      ⟨.ok (), { world with gas := some (gas - env.overhead world.ticks), ticks := world.ticks + 1 },
        [], []⟩
    else ⟨.error .outOfGas, world, [], []⟩

/-- A comparison of the gas left with what the rest of the function needs. -/
def compareGas (need : Nat) (fault : Fault ε) : Tx σ ε η κ ν μ Unit := fun _ world =>
  match world.gas with
  | none => ⟨.ok (), world, [], []⟩
  | some gas =>
    ⟨if gas < need then .error fault else .ok (), world,
      [⟨.gasCheck need, world.account, some gas, 0⟩], []⟩

/-- `if (gasleft() < need) revert`. -/
def requireGas (need : Nat) (error : ε) : Tx σ ε η κ ν μ Unit := do
  tick
  compareGas need (.revert error)

/-- Record that a metered run has come to a place. -/
def mark (label : μ) : Tx σ ε η κ ν μ Unit := fun _ world =>
  match world.gas with
  | none => ⟨.ok (), world, [], []⟩
  | some gas => ⟨.ok (), world, [⟨.mark label, world.account, some gas, 0⟩], []⟩

/-- Record the gas that a part of a metered run spends. -/
def spending (label : μ) (program : Tx σ ε η κ ν μ α) : Tx σ ε η κ ν μ α := fun env world =>
  let outcome := program env world
  match world.gas, outcome.world.gas with
  | some before, some after =>
    { outcome with points := outcome.points ++
        [⟨.spent label (before - after), outcome.world.account, some after, 0⟩] }
  | _, _ => outcome

/-! ### External calls -/

/-- Read something of the outside world that runs no code: an account's code size. -/
def observe (read : ν → α) : Tx σ ε η κ ν μ α := fun env world =>
  ⟨.ok (read (env.answer world.cursor).view), { world with cursor := world.cursor + 1 }, [], []⟩

/-- A call that cannot change the account: whether it succeeded, and what it saw. -/
def staticCall (target : Address) (limit : Option Nat) : Tx σ ε η κ ν μ (Bool × ν) :=
  fun env world =>
    let answer := env.answer world.cursor
    ⟨.ok (answer.success, answer.view),
      { world with
        cursor := world.cursor + 1
        gas := world.gas.map fun gas => gas - min answer.burn (forwardable gas limit) },
      [⟨.ask target limit (world.gas.map fun gas => forwardable gas limit), world.account,
        world.gas, 0⟩], []⟩

/-- A call made back into the modelled contracts: its failure stays inside it. -/
def frame (program : Tx σ ε η κ ν μ Unit) : Tx σ ε η κ ν μ Unit := fun env world =>
  let outcome := program env world
  match outcome.result with
  | .ok _ => outcome
  | .error fault =>
    ⟨.ok (), { outcome.world with account := world.account },
      outcome.points ++ [⟨.failed fault, world.account, outcome.world.gas, 0⟩], []⟩

/-- The calls an external call makes back, one after the other. -/
def reenterAll (reenter : κ → Tx σ ε η κ ν μ Unit) : List κ → Tx σ ε η κ ν μ Unit
  | [] => pure ()
  | call :: rest => do
    frame (reenter call)
    reenterAll reenter rest

/-- The gas a call with value gets on top of what is handed on. -/
def stipend (value : Nat) : Nat := if value = 0 then 0 else 2300

/-- The gas left to the caller after a call that was handed `forwarded` and left `left`. -/
def gasAfter (available forwarded left : Nat) : Nat := available - forwarded + min left forwarded

/-- The gas meter after a call. -/
def meterAfter (before : Option Nat) (limit after : Option Nat) (burn : Nat) : Option Nat :=
  before.map fun available =>
    gasAfter available (forwardable available limit) (after.getD 0 - burn)

/-- A call that carries `value`: it fails at once without the balance to carry, and a call that
fails leaves the account as it was. The result says whether the call succeeded. -/
def call (reenter : κ → Tx σ ε η κ ν μ Unit) (target : Address) (value : Nat)
    (limit : Option Nat) : Tx σ ε η κ ν μ Bool := fun env world =>
  let answer := env.answer world.cursor
  if world.account.balance < value then
    ⟨.ok false, { world with cursor := world.cursor + 1 }, [], []⟩
  else
    let debited := { world.account with balance := world.account.balance - value }
    let forwarded := world.gas.map fun gas => forwardable gas limit
    let inner := reenterAll reenter answer.reentry env
      { world with
        account := { debited with balance := debited.balance + answer.gift }
        cursor := world.cursor + 1
        gas := forwarded.map (· + stipend value) }
    let after := { inner.world with
      gas := meterAfter world.gas limit inner.world.gas answer.burn }
    let points : List (Point σ ε μ) :=
      ⟨.call target value limit forwarded, debited, world.gas, 0⟩ :: inner.points.map Point.deeper
    if answer.success then ⟨.ok true, after, points, inner.events⟩
    else ⟨.ok false, { after with account := world.account }, points, []⟩

end Tx

end Evm
