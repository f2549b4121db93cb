/-
This file models the library `RandomnessMapping`: the mapping specification a
request carries, its validation and its hash, and the map from the randomness of
a request to its results.

The results are drawn from a stream of words by rejection sampling. The loop that
rejects has no bound in the source, so it takes fuel here, and running out of it
is an outcome of its own. So is a cursor that would overflow: it takes as many
words as there are.
-/

import D20Keeper.Platform

namespace D20

open Evm

namespace RandomnessMapping

/-- `RandomnessMapping.Operation`. -/
inductive Operation where
  | raw
  | diceRoll
  | coinFlip
  | numberRange
  | chooseOne
  | chooseMany
  | shuffle
deriving DecidableEq

/-- The enumeration value of an operation. -/
def Operation.code : Operation → Nat
  | raw => 0
  | diceRoll => 1
  | coinFlip => 2
  | numberRange => 3
  | chooseOne => 4
  | chooseMany => 5
  | shuffle => 6

/-- `RandomnessMapping.Spec`. -/
structure Spec where
  operation : Operation
  lower : Nat
  upper : Nat
  count : Nat
  population : Nat
deriving DecidableEq

/-- A fresh specification: every word zero, which is the raw operation. -/
def Spec.zero : Spec := ⟨.raw, 0, 0, 0, 0⟩

def maxItems : Nat := 256

def maxDice : Nat := 128

/-- `validate`: whether the specification is accepted. -/
def validate (spec : Spec) : Bool :=
  match spec.operation with
  | .raw => spec.lower = 0 ∧ spec.upper = 0 ∧ spec.count = 0 ∧ spec.population = 0
  | .diceRoll =>
    spec.lower = 0 ∧ 2 ≤ spec.upper ∧ spec.count ≠ 0 ∧ spec.count ≤ maxDice ∧
      spec.population = 0
  | .coinFlip => spec.lower = 0 ∧ spec.upper = 0 ∧ spec.count = 1 ∧ spec.population = 0
  | .numberRange => spec.lower ≤ spec.upper ∧ spec.count = 1 ∧ spec.population = 0
  | .chooseOne =>
    (spec.lower = 0 ∧ spec.upper = 0 ∧ spec.population ≠ 0 ∧ spec.population ≤ maxItems) ∧
      spec.count = 1
  | .chooseMany =>
    (spec.lower = 0 ∧ spec.upper = 0 ∧ spec.population ≠ 0 ∧ spec.population ≤ maxItems) ∧
      spec.count ≠ 0 ∧ spec.count ≤ spec.population
  | .shuffle =>
    (spec.lower = 0 ∧ spec.upper = 0 ∧ spec.population ≠ 0 ∧ spec.population ≤ maxItems) ∧
      spec.count = spec.population

/-- `hash`. -/
def hash (platform : Platform) (spec : Spec) : Bytes32 :=
  platform.hash [.uint spec.operation.code, .uint spec.lower, .uint spec.upper, .uint spec.count,
    .uint spec.population]

/-! ### The stream of words -/

/-- How a map ends without a result: an invalid specification, a panic of its arithmetic, the
cursor of the stream at its end, or a rejection loop that is still running. -/
inductive Halt where
  | invalidMapping
  | panic (code : Panic)
  | exhausted
  | unfinished
deriving DecidableEq

/-- A computation that draws words; its state is the cursor of the stream. -/
abbrev Draw (α : Type) := StateT Nat (Except Halt) α

/-- A computation that may panic. -/
def checked {α : Type} (value : Except Panic α) : Draw α :=
  match value with
  | .ok value => pure value
  | .error code => throw (.panic code)

/-- The word of a stream at a cursor. -/
def word (platform : Platform) (randomness : Bytes32) (cursor : Nat) : Bytes32 :=
  platform.hash [.bytes32 (platform.domain "D20_MAP"), .bytes32 randomness, .uint cursor]

/-- Remainder of unsigned division. -/
def checkedMod (first second : Nat) : Except Panic Nat :=
  if second = 0 then .error .divisionByZero else .ok (first % second)

section Stream

variable (words : Nat → Bytes32) (fuel : Nat)

/-- `next`. -/
def next : Draw Nat := do
  let cursor ← get
  if cursor + 1 < 2 ^ 256 then do
    set (cursor + 1)
    return (words cursor).toNat
  else throw .exhausted

/-- The loop of `sample`: the first word that is not below the threshold. -/
def firstAccepted (threshold : Nat) : Nat → Draw Nat
  | 0 => throw .unfinished
  | left + 1 => do
    let word ← next words
    if word < threshold then firstAccepted threshold left else return word

/-- The threshold of `sample`, `(0 - bound) % bound` in wrapping arithmetic. -/
def threshold (bound : Nat) : Except Panic Nat := checkedMod ((2 ^ 256 - bound) % 2 ^ 256) bound

/-- `sample`. -/
def sample (bound : Nat) : Draw Nat := do
  let threshold ← checked (threshold bound)
  let word ← firstAccepted words threshold fuel
  checked (checkedMod word bound)

/-- The loop of `map` over the dice left. -/
def rollDice (upper : Nat) : Nat → Draw (List Nat)
  | 0 => return []
  | left + 1 => do
    let residue ← sample words fuel upper
    let rolled ← checked (checkedAdd 256 residue 1)
    let rest ← rollDice upper left
    return rolled :: rest

/-- The loop of `map` that swaps the pool at `i` and at a drawn place, over the choices left. -/
def choose (population : Nat) : Nat → Nat → List Nat → Draw (List Nat)
  | 0, _, _ => return []
  | left + 1, i, pool => do
    let bound ← checked (checkedSub population i)
    let residue ← sample words fuel bound
    let j ← checked (checkedAdd 256 i residue)
    match pool[i]?, pool[j]? with
    | some here, some there => do
      let swapped := (pool.set j here).set i there
      let rest ← choose population left (i + 1) swapped
      return there :: rest
    | _, _ => throw (.panic .outOfBounds)

/-- `map` on a stream of words. -/
def mapWords (randomness : Bytes32) (spec : Spec) : Draw (List Nat) :=
  if validate spec = false then throw .invalidMapping
  else
    match spec.operation with
    | .raw => return [randomness.toNat]
    | .diceRoll => rollDice words fuel spec.upper spec.count
    | .coinFlip => do
      let residue ← sample words fuel 2
      return [residue]
    | .numberRange =>
      if spec.lower = 0 ∧ spec.upper = 2 ^ 256 - 1 then do
        let word ← next words
        return [word]
      else do
        let width ← checked (checkedSub spec.upper spec.lower)
        let bound ← checked (checkedAdd 256 width 1)
        let residue ← sample words fuel bound
        let value ← checked (checkedAdd 256 spec.lower residue)
        return [value]
    | .chooseOne => do
      let residue ← sample words fuel spec.population
      return [residue]
    | .chooseMany | .shuffle =>
      choose words fuel spec.population spec.count 0 (List.range spec.population)

end Stream

/-- `map`: the results, and how many words they took. -/
def map (platform : Platform) (fuel : Nat) (randomness : Bytes32) (spec : Spec) :
    Except Halt (List Nat × Nat) :=
  (mapWords (word platform randomness) fuel randomness spec).run 0

end RandomnessMapping

end D20
