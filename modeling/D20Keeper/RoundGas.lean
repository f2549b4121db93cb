/-
This file models how a keeper prices its fulfillments in gas. The first part is the gas model of the
round coordinator: the shape of a fulfillment, the upper bound of the gas it can use, the least gas
limit at which it passes the coordinator's guards and the number of members a cap allows. The second
part is the model of the epoch coordinator. Sums of at most sixteen members stay below 64 bits, so
they are natural numbers; where the code checks an overflow or saturates, so does the model.
-/

import Mathlib.Algebra.GroupWithZero.Nat
import D20Keeper.Journal

namespace D20

open Journal (ensure ensure_eq_ok bind_eq_ok)

/-! ### Machine arithmetic -/

/-- The largest number of so many bits. -/
def largest (bits : ℕ) : ℕ := 2 ^ bits - 1

/-- A result that saturates. -/
def saturating (bits value : ℕ) : ℕ := min value (largest bits)

/-- A result that is checked for overflow. -/
def checked (bits value : ℕ) : Except String ℕ := do
  ensure (value ≤ largest bits) "Gas overflow"
  return value

theorem checked_eq_ok {bits value result : ℕ} :
    checked bits value = .ok result ↔ value ≤ largest bits ∧ result = value := by
  unfold checked
  rw [bind_eq_ok]
  constructor
  · rintro ⟨_, fits, same⟩
    exact ⟨ensure_eq_ok.mp fits, (Except.ok.inj same).symm⟩
  · rintro ⟨fits, rfl⟩
    exact ⟨(), ensure_eq_ok.mpr fits, rfl⟩

/-- A division that is rounded up. -/
def divCeil (value divisor : ℕ) : ℕ := (value + divisor - 1) / divisor

/-- How many of the counts from one on pass a test before the first that does not. -/
def countWhile (most : ℕ) (fits : ℕ → Bool) : ℕ :=
  (((List.range most).map (· + 1)).takeWhile fits).length

/-- The estimate is padded by a fifth of what it holds beyond a budget, and at least 50,000. -/
def padding (estimate budget : ℕ) : ℕ := max ((estimate - budget) / 5) 50000

namespace RoundGas

/-! ### Shapes -/

/-- A fulfillment as the keeper sends it. -/
structure Shape where
  batch : Bool
  callbackGasLimits : List ℕ
  rounds : ℕ
  vrfCandidates : Option (List ℕ) := none
  feesWithdrawn : Bool := true
  deriving DecidableEq, Repr

/-- What every formula reads of a shape, checked. -/
structure Parts where
  members : ℕ
  rounds : ℕ
  callbacks : ℕ
  candidates : ℕ

def maxFulfillBatch : ℕ := 16

def pricedVrfCandidates : ℕ := 10

variable (shape : Shape)

/-- `Shape::parts`. -/
def Shape.parts : Except String Parts := do
  let n := shape.callbackGasLimits.length
  ensure (1 ≤ n ∧ n ≤ maxFulfillBatch ∧ shape.rounds ≤ n ∧
    (shape.batch = true ∨ (n = 1 ∧ shape.rounds ≤ 1)) ∧
    (shape.vrfCandidates.all fun counts =>
      counts.length == n && counts.all fun count => decide (1 ≤ count)) = true)
    "Invalid fulfillment shape"
  return { members := n, rounds := shape.rounds, callbacks := shape.callbackGasLimits.sum,
           candidates := match shape.vrfCandidates with
             | some counts => (counts.map (· - 1)).sum
             | none => n * (pricedVrfCandidates - 1) }

/-! ### Bounds and limits -/

def callbackReserve : ℕ := 140000
def memberOverhead : ℕ := 400000
def roundVerification : ℕ := 400000 + 400000 / 63 + 5000
def limitMarginPercent : ℕ := 1
def limitMarginMin : ℕ := 5000

/-- What the coordinator's guard asks to be left for one member. -/
def memberGas (limit : ℕ) : ℕ := limit + limit / 63 + memberOverhead

/-- What a guard's budget costs behind the proxy, which forwards 63/64 of the gas. -/
def viaProxy (gas : ℕ) : ℕ := divCeil (gas * 64) 63

/-- `guard_budget`. -/
def guardBudget : Except String ℕ := do
  let parts ← shape.parts
  return callbackReserve + (shape.callbackGasLimits.map memberGas).sum +
    parts.rounds * roundVerification

/-- `gas_limit`: the least gas limit at which a fulfillment passes the coordinator's guards. -/
def gasLimit : Except String ℕ := do
  let parts ← shape.parts
  if shape.batch then
    return viaProxy (← guardBudget shape) + 37500 + 6800 * parts.members + 1800 * parts.rounds
  else if parts.rounds = 1 then
    return viaProxy (← guardBudget shape) + 48000
  else
    let limit := shape.callbackGasLimits.headD 0
    let withdrawn := if shape.feesWithdrawn then 17200 else 0
    return viaProxy (callbackReserve + limit + limit / 63) + 218000 + parts.candidates * 5600 +
      withdrawn

/-- `least_limit`. -/
def leastLimit (l1 : ℕ) : Except String ℕ := do
  checked 64 ((← gasLimit shape) + l1)

/-- `estimate_cover`: the margin of the model on a least gas limit. -/
def estimateCover (least : ℕ) : ℕ :=
  saturating 64 (least + max (divCeil least (100 / limitMarginPercent)) limitMarginMin)

/-- `chain_limit`. -/
def chainLimit (l1 : ℕ) : Except String ℕ := do
  return estimateCover (← leastLimit shape l1)

/-- `fulfillment_gas`: the gas limit a fulfillment is sent with, given its estimate. -/
def fulfillmentGas (estimate : ℕ) (shape : Shape) (l1 : ℕ) : Except String ℕ := do
  let floor ← chainLimit shape l1
  let padded ← checked 64 (estimate + padding estimate (← guardBudget shape))
  return max padded floor

/-! ### Batches -/

/-- One member of a batch as its size is judged. -/
structure Sized where
  callbackGasLimit : ℕ
  round : ℕ × ℕ

/-- `batch_shape`: the members' callbacks and their distinct rounds. -/
def batchShape (members : List Sized) : Shape where
  batch := true
  callbackGasLimits := members.map Sized.callbackGasLimit
  rounds := (members.map Sized.round).dedup.length

/-- `members_within`: how many members, from the front, a batch can hold under a cap. -/
def membersWithin (members : List Sized) (cap l1Each : ℕ) : ℕ :=
  countWhile (min members.length maxFulfillBatch) fun count =>
    match chainLimit (batchShape (members.take count)) (saturating 64 (l1Each * count)) with
    | .ok gas => decide (gas ≤ cap)
    | .error _ => false

end RoundGas

namespace EpochGas

/-! ### The epoch coordinator -/

def callbackReserveGas : ℕ := 140000
def memberOverheadGas : ℕ := 400000
def fulfillTxGas : ℕ := 21000 + 16 * 132 + 50000
def fulfillMemberTxGas : ℕ := 16 * 448 + 20000

/-- `guard_budget`: what the coordinator requires before it serves any of these members. -/
def guardBudget (limits : List ℕ) : Except String ℕ :=
  checked 64 (callbackReserveGas +
    (limits.map fun limit => limit + limit / 63 + memberOverheadGas).sum)

/-- `fulfillment_floor`: the least gas limit a fulfillment of these members is sent with. -/
def fulfillmentFloor (limits : List ℕ) : Except String ℕ := do
  let needed ← checked 64 (fulfillMemberTxGas * limits.length + fulfillTxGas + (← guardBudget limits))
  checked 64 (needed + divCeil needed 63)

/-- `fulfillment_gas_l1`: the gas limit of a fulfillment whose members have these callback gas
limits. -/
def fulfillmentGasL1 (estimate : ℕ) (limits : List ℕ) (l1 : ℕ) : Except String ℕ := do
  ensure (limits ≠ []) "A fulfillment has members"
  let budget ← guardBudget limits
  let floor ← checked 64 ((← fulfillmentFloor limits) + l1)
  let padded ← checked 64 (estimate + padding estimate budget)
  return max padded floor

/-- `members_within_l1`: how many members, from the front of a batch, fit a cap. -/
def membersWithinL1 (estimate : ℕ) (limits : List ℕ) (cap l1Each : ℕ) : ℕ :=
  countWhile limits.length fun count =>
    let members := limits.take count
    let l1 := saturating 64 (l1Each * count)
    let gas : Except String ℕ := do
      let predicted ← checked 64 (divCeil estimate limits.length * count)
      let floor ← checked 64 ((← fulfillmentFloor members) + l1)
      fulfillmentGasL1 (max predicted floor) members l1
    match gas with
    | .ok gas => decide (gas ≤ cap)
    | .error _ => false

end EpochGas

end D20
