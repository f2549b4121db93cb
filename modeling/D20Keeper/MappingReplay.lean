/-
This file models the replay of the mapping in `mapping.ts` and shows that it agrees
with the library: the two accept the same specifications, and where the map of the
library returns, the replay returns the same results after as many words.

The replay computes with bigints and, for the places of a pool, with numbers. It has
its own outcomes. A read outside of the pool would not throw but put `undefined` into
the results, and is an outcome here. So is the loop that rejects when the fuel ends.
-/

import D20Keeper.JavaScript
import D20Keeper.Unbiased

namespace D20

open Evm JavaScript

namespace MappingReplay

/-- `MappingSpec`: three of its fields are numbers, two are bigints. -/
structure MappingSpec where
  operation : ℚ
  lower : Int
  upper : Int
  count : ℚ
  population : ℚ
deriving DecidableEq

/-- How a replay ends without results. -/
inductive Thrown where
  | invalidMappingParameters
  | divisionByZero
  | valueOutOfBounds
  | undefinedResult
  | unfinished
deriving DecidableEq

/-- `MAX`. -/
def max : Int := 2 ^ 256 - 1

/-- The call of `bad` under a condition. -/
def badIf (condition : Prop) [Decidable condition] : Except Thrown Unit :=
  if condition then throw .invalidMappingParameters else pure ()

/-- `validateMapping`. -/
def validateMapping (s : MappingSpec) : Except Thrown Unit := do
  badIf (isInteger s.operation = false ∨ s.operation < 0 ∨ s.operation > 6 ∨
    isInteger s.count = false ∨ isInteger s.population = false ∨
    s.count < 0 ∨ s.population < 0 ∨ s.lower < 0 ∨ s.upper < 0 ∨ s.lower > max ∨ s.upper > max)
  if s.operation = 0 then
    badIf (s.lower ≠ 0 ∨ s.upper ≠ 0 ∨ s.count ≠ 0 ∨ s.population ≠ 0)
  else if s.operation = 1 then
    badIf (s.lower ≠ 0 ∨ s.upper < 2 ∨ s.count < 1 ∨ s.count > 128 ∨ s.population ≠ 0)
  else if s.operation = 2 then
    badIf (s.lower ≠ 0 ∨ s.upper ≠ 0 ∨ s.count ≠ 1 ∨ s.population ≠ 0)
  else if s.operation = 3 then
    badIf (s.lower > s.upper ∨ s.count ≠ 1 ∨ s.population ≠ 0)
  else do
    badIf (s.lower ≠ 0 ∨ s.upper ≠ 0 ∨ s.population < 1 ∨ s.population > 256)
    badIf (s.operation = 4 ∧ s.count ≠ 1)
    badIf (s.operation = 5 ∧ (s.count < 1 ∨ s.count > s.population))
    badIf (s.operation = 6 ∧ s.count ≠ s.population)

/-- A replay that draws words; its state is the cursor of the stream. -/
abbrev Replay (α : Type) := StateT Nat (Except Thrown) α

/-- Remainder of bigints. -/
def remainder (first second : Int) : Replay Int :=
  if second = 0 then throw .divisionByZero else return first.tmod second

section Stream

variable (words : Nat → Bytes32) (fuel : Nat)

/-- `next`: the encoder takes cursors of 256 bits. -/
def next : Replay Int := do
  let cursor ← get
  set (cursor + 1)
  if cursor < 2 ^ 256 then return ((words cursor).toNat : Int) else throw .valueOutOfBounds

/-- The loop of `sample`. -/
def firstAccepted (threshold : Int) : Nat → Replay Int
  | 0 => throw .unfinished
  | left + 1 => do
    let word ← next words
    if word < threshold then firstAccepted threshold left else return word

/-- `sample`. -/
def sample (bound : Int) : Replay Int := do
  let threshold ← remainder (2 ^ 256) bound
  let word ← firstAccepted words threshold fuel
  remainder word bound

/-- The entries of the array of dice. -/
def rollDice (upper : Int) : Nat → Replay (List Int)
  | 0 => return []
  | left + 1 => do
    let residue ← sample words fuel upper
    let rest ← rollDice upper left
    return (residue + 1) :: rest

/-- The loop that swaps the pool at `i` and at a drawn place: the places are numbers. -/
def choose (population : Int) : Nat → Int → List Int → Replay (List Int)
  | 0, _, _ => return []
  | left + 1, i, pool => do
    let residue ← sample words fuel (nearest (population - i))
    let j := nearest (i + nearest residue)
    if i < 0 ∨ j < 0 then throw .undefinedResult
    else
      match pool[i.toNat]?, pool[j.toNat]? with
      | some here, some there => do
        let swapped := (pool.set i.toNat there).set j.toNat here
        match swapped[i.toNat]? with
        | some pushed => do
          let rest ← choose population left (nearest (i + 1)) swapped
          return pushed :: rest
        | none => throw .undefinedResult
      | _, _ => throw .undefinedResult

/-- `mapRandomness` on a stream of words. -/
def mapWords (randomness : Bytes32) (s : MappingSpec) : Replay (List Int) := do
  liftM (validateMapping s)
  if s.operation = 0 then return [(randomness.toNat : Int)]
  else if s.operation = 1 then rollDice words fuel s.upper s.count.num.toNat
  else if s.operation = 2 then do
    let residue ← sample words fuel 2
    return [residue]
  else if s.operation = 3 then
    if s.lower = 0 ∧ s.upper = max then do
      let word ← next words
      return [word]
    else do
      let residue ← sample words fuel (s.upper - s.lower + 1)
      return [s.lower + residue]
  else if s.operation = 4 then do
    let residue ← sample words fuel s.population.num
    return [residue]
  else
    choose words fuel s.population.num s.count.num.toNat 0
      ((List.range s.population.num.toNat).map Int.ofNat)

end Stream

/-- `mapRandomness`: the results, and how many words they took. -/
def mapRandomness (platform : Platform) (fuel : Nat) (randomness : Bytes32) (s : MappingSpec) :
    Except Thrown (List Int × Nat) :=
  (mapWords (RandomnessMapping.word platform randomness) fuel randomness s).run 0

/-- The specification as the replay takes it. -/
def ofSpec (spec : RandomnessMapping.Spec) : MappingSpec :=
  ⟨spec.operation.code, spec.lower, spec.upper, spec.count, spec.population⟩

/-! ### Acceptance -/

/-- The check of the fields before the operations are told apart. -/
theorem fields_ok {spec : RandomnessMapping.Spec} (typed : spec.Typed) :
    ¬(isInteger (ofSpec spec).operation = false ∨ (ofSpec spec).operation < 0 ∨
      (ofSpec spec).operation > 6 ∨ isInteger (ofSpec spec).count = false ∨
      isInteger (ofSpec spec).population = false ∨ (ofSpec spec).count < 0 ∨
      (ofSpec spec).population < 0 ∨ (ofSpec spec).lower < 0 ∨ (ofSpec spec).upper < 0 ∨
      (ofSpec spec).lower > max ∨ (ofSpec spec).upper > max) := by
  have lower := typed.lower
  have upper := typed.upper
  have code : spec.operation.code ≤ 6 := by cases spec.operation <;> decide
  have codeCast : ((spec.operation.code : Nat) : ℚ) ≤ 6 := by exact_mod_cast code
  simp only [ofSpec, isInteger_natCast, max, gt_iff_lt, Bool.true_eq_false, false_or, not_or,
    not_lt, Nat.cast_nonneg, true_and]
  refine ⟨codeCast, ?_⟩
  omega

/-- Two calls under conditions are one. -/
theorem badIf_bind (first second : Prop) [Decidable first] [Decidable second] :
    (badIf first >>= fun _ => badIf second) = badIf (first ∨ second) := by
  unfold badIf
  by_cases holds : first
  · rw [if_pos holds, if_pos (Or.inl holds)]
    rfl
  · rw [if_neg holds, if_congr (or_iff_right holds) rfl rfl]
    rfl

/-- A condition that holds of exactly what is not accepted. -/
theorem badIf_eq {bad good : Prop} [Decidable bad] [Decidable good] (exactly : bad ↔ ¬good) :
    badIf bad = if decide good = true then .ok () else .error .invalidMappingParameters := by
  unfold badIf
  by_cases holds : good
  · rw [if_neg fun thrown => exactly.mp thrown holds, if_pos (decide_eq_true holds)]
    rfl
  · rw [if_pos (exactly.mpr holds), if_neg fun accepted => holds (of_decide_eq_true accepted)]
    rfl

theorem validateMapping_ofSpec {spec : RandomnessMapping.Spec} (typed : spec.Typed) :
    validateMapping (ofSpec spec) = if RandomnessMapping.validate spec = true then .ok ()
      else .error .invalidMappingParameters := by
  unfold validateMapping
  rw [show badIf _ = pure () from if_neg (fields_ok typed), pure_bind]
  obtain ⟨operation, lower, upper, count, population⟩ := spec
  unfold ofSpec RandomnessMapping.validate RandomnessMapping.maxDice RandomnessMapping.maxItems
  simp only [badIf_bind, ne_eq, gt_iff_lt, Nat.cast_eq_zero, Nat.cast_eq_one, Nat.cast_inj,
    Nat.cast_lt, Nat.cast_lt_one, Nat.ofNat_lt_cast]
  cases operation <;>
    simp only [RandomnessMapping.Operation.code, Nat.cast_zero, Nat.cast_one, Nat.cast_ofNat,
      OfNat.ofNat_eq_ofNat, Nat.reduceEqDiff, Nat.one_ne_zero, reduceIte, true_and, false_and,
      false_or, or_false] <;>
    refine badIf_eq ?_ <;> omega

/-! ### The replay mirrors the map -/

section Stream

open RandomnessMapping (Draw Draws Halt)

variable {words : Nat → Bytes32} {fuel : Nat} {α β γ δ : Type}

/-- The outcome of a replay beside the outcome of a map. -/
def translate (value : α → β) : Except Halt (α × Nat) → Except Thrown (β × Nat)
  | .ok (result, cursor) => .ok (value result, cursor)
  | .error .unfinished => .error .unfinished
  | .error .invalidMapping => .error .invalidMappingParameters
  | .error .exhausted => .error .valueOutOfBounds
  | .error (.panic _) => .error .valueOutOfBounds

/-- The replay does what the map does, unless the stream of the map ends. -/
def Mirrors (map : Draw α) (replay : Replay β) (value : α → β) : Prop :=
  ∀ cursor, map cursor = .error .exhausted ∨ replay cursor = translate value (map cursor)

theorem mirrors_pure (value : α → β) (result : α) :
    Mirrors (pure result) (pure (value result)) value := fun _ => .inr rfl

theorem Mirrors.bind {map : Draw α} {replay : Replay β} {value : α → β} {next : α → Draw γ}
    {next' : β → Replay δ} {value' : γ → δ} {cost : Nat} {post : α → Prop}
    (first : Mirrors map replay value) (draws : Draws words fuel map cost post)
    (second : ∀ result, post result → Mirrors (next result) (next' (value result)) value') :
    Mirrors (map >>= next) (replay >>= next') value' := by
  intro cursor
  have mirrored := first cursor
  have drawn := draws cursor
  show (map cursor).bind (fun pair => next pair.1 pair.2) = _ ∨
    (replay cursor).bind (fun pair => next' pair.1 pair.2) =
      translate value' ((map cursor).bind fun pair => next pair.1 pair.2)
  match map cursor, mirrored, drawn with
  | .error .exhausted, _, _ => exact .inl rfl
  | .error .unfinished, .inr same, _ =>
    rw [same]
    exact .inr rfl
  | .ok (result, after), .inr same, ⟨holds, _⟩ =>
    rw [same]
    exact second result holds after

/-- Two results computed alike. -/
theorem Mirrors.map {map : Draw α} {replay : Replay β} {value : α → β} {result : α → γ}
    {result' : β → δ} {value' : γ → δ} (mirrors : Mirrors map replay value)
    (alike : ∀ drawn, result' (value drawn) = value' (result drawn)) :
    Mirrors (map >>= fun drawn => pure (result drawn))
      (replay >>= fun drawn => pure (result' drawn)) value' := by
  intro cursor
  have mirrored := mirrors cursor
  show (map cursor).bind (fun pair => .ok (result pair.1, pair.2)) = _ ∨
    (replay cursor).bind (fun pair => .ok (result' pair.1, pair.2)) =
      translate value' ((map cursor).bind fun pair => .ok (result pair.1, pair.2))
  match map cursor, mirrored with
  | .error .exhausted, _ => exact .inl rfl
  | .error .unfinished, .inr same | .error .invalidMapping, .inr same
  | .error (.panic _), .inr same =>
    rw [same]
    exact .inr rfl
  | .ok (drawn, after), .inr same =>
    right
    rw [same]
    show Except.ok (result' (value drawn), after) = Except.ok (value' (result drawn), after)
    rw [alike]

theorem mirrors_next : Mirrors (RandomnessMapping.next words) (next words) Int.ofNat := by
  intro cursor
  rw [RandomnessMapping.next_apply]
  by_cases room : cursor + 1 < 2 ^ 256
  · right
    rw [if_pos room]
    show ((if cursor < 2 ^ 256 then pure ((words cursor).toNat : Int)
      else throw .valueOutOfBounds : Replay Int) (cursor + 1)) = _
    rw [if_pos (Nat.lt_of_succ_lt room)]
    rfl
  · left
    rw [if_neg room]

theorem mirrors_firstAccepted (threshold left : Nat) :
    Mirrors (RandomnessMapping.firstAccepted words threshold left)
      (firstAccepted words threshold left) Int.ofNat := by
  induction left with
  | zero => exact fun _ => .inr rfl
  | succ left inductionHypothesis =>
    refine mirrors_next.bind (RandomnessMapping.draws_next : Draws words 0 _ _ _) fun word _ => ?_
    show Mirrors (if word < threshold then _ else _) (if (word : Int) < threshold then _ else _) _
    by_cases below : word < threshold
    · rw [if_pos below, if_pos (Int.ofNat_lt.mpr below)]
      exact inductionHypothesis
    · rw [if_neg below, if_neg fun under => below (Int.ofNat_lt.mp under)]
      exact mirrors_pure Int.ofNat word

theorem remainder_eq (first : Int) {second : Nat} (positive : 0 < second) :
    remainder first second = pure (first.tmod second) := by
  unfold remainder
  rw [if_neg (Int.natCast_ne_zero.mpr positive.ne')]

theorem mirrors_sample {bound : Nat} (positive : 0 < bound) (small : bound < 2 ^ 256) :
    Mirrors (RandomnessMapping.sample words fuel bound) (sample words fuel bound) Int.ofNat := by
  have threshold : (2 ^ 256 : Int).tmod bound = (2 ^ 256 % bound : Nat) :=
    Int.ofNat_tmod (2 ^ 256) bound
  rw [RandomnessMapping.sample_eq positive small]
  unfold sample
  simp only [remainder_eq _ positive, pure_bind, threshold]
  exact (mirrors_firstAccepted _ _).map fun word => Int.ofNat_tmod word bound

theorem mirrors_rollDice {upper left : Nat} (positive : 0 < upper) (small : upper < 2 ^ 256) :
    Mirrors (RandomnessMapping.rollDice words fuel upper left) (rollDice words fuel upper left)
      (List.map Int.ofNat) := by
  induction left with
  | zero => exact mirrors_pure (List.map Int.ofNat) []
  | succ left inductionHypothesis =>
    refine (mirrors_sample positive small).bind (RandomnessMapping.draws_sample positive small)
      fun residue within => ?_
    rw [RandomnessMapping.checked_bind _ (RandomnessMapping.checkedAdd_eq (by omega))]
    exact inductionHypothesis.map fun _ => rfl

/-- The two orders of a swap. -/
theorem set_set_swap {pool : List α} {i j : Nat} {here there : α}
    (first : pool[i]? = some here) (second : pool[j]? = some there) :
    (pool.set i there).set j here = (pool.set j here).set i there := by
  by_cases same : i = j
  · subst same
    rw [first] at second
    rw [Option.some.inj second]
  · exact List.set_comm _ _ same

theorem mirrors_choose {population left i : Nat} {pool : List Nat} (few : population ≤ 256)
    (size : pool.length = population) (enough : i + left ≤ population) :
    Mirrors (RandomnessMapping.choose words fuel population left i pool)
      (choose words fuel population left i (pool.map Int.ofNat)) (List.map Int.ofNat) := by
  induction left generalizing i pool with
  | zero => exact mirrors_pure (List.map Int.ofNat) []
  | succ left inductionHypothesis =>
    have positive : 0 < population - i := by omega
    have small : population - i < 2 ^ 256 := by omega
    have bound : nearest ((population : Int) - i) = ((population - i : Nat) : Int) := by
      rw [nearest_eq (by omega)]
      omega
    unfold RandomnessMapping.choose choose
    rw [RandomnessMapping.checked_bind _ (RandomnessMapping.checkedSub_eq (by omega)), bound]
    refine (mirrors_sample positive small).bind (RandomnessMapping.draws_sample positive small)
      fun residue within => ?_
    have place : nearest ((i : Int) + nearest (Int.ofNat residue)) = ((i + residue : Nat) : Int) := by
      rw [Int.ofNat_eq_natCast, nearest_natCast (by omega), ← Int.natCast_add,
        nearest_natCast (by omega)]
    have first : pool[i]? = some pool[i] := List.getElem?_eq_getElem (by omega)
    have second : pool[i + residue]? = some pool[i + residue] := List.getElem?_eq_getElem (by omega)
    have next : nearest ((i : Int) + 1) = ((i + 1 : Nat) : Int) := by
      rw [← Int.natCast_succ, nearest_natCast (by omega)]
    have pushed : ((pool.set (i + residue) pool[i]).set i pool[i + residue])[i]? =
        some pool[i + residue] := by
      rw [List.getElem?_set_self (by rw [List.length_set]; omega)]
    rw [RandomnessMapping.checked_bind _ (RandomnessMapping.checkedAdd_eq (by omega))]
    simp only [place, next, Int.toNat_natCast, first, second, List.getElem?_map, Option.map_some,
      ← List.map_set, set_set_swap first second, pushed]
    rw [if_neg (by omega)]
    exact (inductionHypothesis (by rw [List.length_set, List.length_set, size]) (by omega)).map
      fun _ => rfl

theorem mirrors_mapWords {randomness : Bytes32} {spec : RandomnessMapping.Spec}
    (typed : spec.Typed) (accepted : RandomnessMapping.validate spec = true) :
    Mirrors (RandomnessMapping.mapWords words fuel randomness spec)
      (mapWords words fuel randomness (ofSpec spec)) (List.map Int.ofNat) := by
  have passes : validateMapping (ofSpec spec) = .ok () := by
    rw [validateMapping_ofSpec typed, if_pos accepted]
  unfold RandomnessMapping.mapWords mapWords
  rw [if_neg (by rw [accepted]; exact Bool.noConfusion), passes]
  obtain ⟨operation, lower, upper, count, population⟩ := spec
  have upperLt : upper < 2 ^ 256 := typed.upper
  unfold RandomnessMapping.validate at accepted
  show Mirrors _ (if ((operation.code : Nat) : ℚ) = 0 then _ else _) _
  cases operation with
  | raw => exact mirrors_pure (List.map Int.ofNat) [randomness.toNat]
  | diceRoll =>
    obtain ⟨-, sides, -, dice, -⟩ := of_decide_eq_true accepted
    exact mirrors_rollDice (Nat.zero_lt_of_lt sides) upperLt
  | coinFlip => exact (mirrors_sample Nat.two_pos (by omega)).map fun _ => rfl
  | numberRange =>
    have ordered : lower ≤ upper := (of_decide_eq_true accepted).1
    have whole : ((lower : Int) = 0 ∧ (upper : Int) = max) ↔ lower = 0 ∧ upper = 2 ^ 256 - 1 := by
      unfold max
      omega
    show Mirrors (if lower = 0 ∧ upper = 2 ^ 256 - 1 then _ else _)
      (if (lower : Int) = 0 ∧ (upper : Int) = max then _ else _) _
    rw [if_congr whole rfl rfl]
    by_cases everything : lower = 0 ∧ upper = 2 ^ 256 - 1
    · rw [if_pos everything, if_pos everything]
      exact mirrors_next.map fun _ => rfl
    · have bound : (upper : Int) - lower + 1 = ((upper - lower + 1 : Nat) : Int) := by omega
      have small : upper - lower + 1 < 2 ^ 256 := by omega
      rw [if_neg everything, if_neg everything]
      rw [RandomnessMapping.checked_bind _ (RandomnessMapping.checkedSub_eq ordered),
        RandomnessMapping.checked_bind _ (RandomnessMapping.checkedAdd_eq small)]
      show Mirrors _ (sample words fuel ((upper : Int) - lower + 1) >>= _) _
      rw [bound]
      refine (mirrors_sample (Nat.succ_pos _) small).bind
        (RandomnessMapping.draws_sample (Nat.succ_pos _) small) fun residue within => ?_
      have room : lower + residue < 2 ^ 256 := by omega
      rw [RandomnessMapping.checked_bind _ (RandomnessMapping.checkedAdd_eq room)]
      exact mirrors_pure (List.map Int.ofNat) [lower + residue]
  | chooseOne =>
    obtain ⟨⟨-, -, nonempty, few⟩, -⟩ := of_decide_eq_true accepted
    have small : population < 2 ^ 256 := Nat.lt_of_le_of_lt few (by decide)
    exact (mirrors_sample (Nat.pos_of_ne_zero nonempty) small).map fun _ => rfl
  | chooseMany =>
    obtain ⟨⟨-, -, -, few⟩, -, enough⟩ := of_decide_eq_true accepted
    exact mirrors_choose few List.length_range (by omega)
  | shuffle =>
    obtain ⟨⟨-, -, -, few⟩, all⟩ := of_decide_eq_true accepted
    exact mirrors_choose few List.length_range (by omega)

end Stream

/-- The replay and the library agree. They accept the same specifications. On an accepted one,
results of the map are results of the replay after as many words; and results of the replay are
results of the map, unless the cursor of the map reached the end of its 256 bits. -/
theorem replay_agrees (spec : RandomnessMapping.Spec) (typed : spec.Typed) :
    (validateMapping (ofSpec spec) ≠ .ok () ↔ RandomnessMapping.validate spec = false) ∧
    (RandomnessMapping.validate spec = true → ∀ platform fuel randomness,
      (∀ results used, RandomnessMapping.map platform fuel randomness spec = .ok (results, used) →
        mapRandomness platform fuel randomness (ofSpec spec) =
          .ok (results.map Int.ofNat, used)) ∧
      (∀ replayed used, mapRandomness platform fuel randomness (ofSpec spec) =
          .ok (replayed, used) →
        (∃ results, replayed = results.map Int.ofNat ∧
          RandomnessMapping.map platform fuel randomness spec = .ok (results, used)) ∨
        (RandomnessMapping.map platform fuel randomness spec = .error .exhausted ∧
          2 ^ 256 ≤ 256 * fuel + 1))) := by
  refine ⟨?_, fun accepted platform fuel randomness => ?_⟩
  · rw [validateMapping_ofSpec typed]
    cases RandomnessMapping.validate spec with
    | true => exact ⟨fun thrown => absurd rfl thrown, fun rejected => Bool.noConfusion rejected⟩
    | false => exact ⟨fun _ => rfl, fun _ => nofun⟩
  · have mirrored : RandomnessMapping.map platform fuel randomness spec = .error .exhausted ∨
        mapRandomness platform fuel randomness (ofSpec spec) =
          translate (List.map Int.ofNat) (RandomnessMapping.map platform fuel randomness spec) :=
      mirrors_mapWords typed accepted 0
    have drawn : RandomnessMapping.Ends (RandomnessMapping.word platform randomness) fuel 0
        (256 * fuel + 1) (RandomnessMapping.Shape randomness spec)
        (RandomnessMapping.map platform fuel randomness spec) :=
      RandomnessMapping.draws_mapWords typed accepted 0
    match RandomnessMapping.map platform fuel randomness spec, mirrored, drawn with
    | .error .exhausted, _, ended =>
      have reached : 2 ^ 256 ≤ 0 + (256 * fuel + 1) := ended
      exact ⟨nofun, fun _ _ _ => .inr ⟨rfl, Nat.le_trans reached (Nat.zero_add _).le⟩⟩
    | .error .unfinished, .inr same, _ =>
      rw [same]
      exact ⟨nofun, nofun⟩
    | .ok (results, used), .inr same, _ =>
      rw [same]
      refine ⟨?_, ?_⟩
      · rintro _ _ ⟨⟩
        rfl
      · rintro _ _ ⟨⟩
        exact .inl ⟨results, rfl, rfl⟩

/-- The theorem at a coin flip, on a platform whose hashes are all one. -/
theorem replay_agrees_coinFlip :
    mapRandomness default 1 0 (ofSpec ⟨.coinFlip, 0, 0, 1, 0⟩) = .ok ([1], 1) := by
  have typed : (⟨.coinFlip, 0, 0, 1, 0⟩ : RandomnessMapping.Spec).Typed :=
    ⟨by decide, by decide, by decide, by decide⟩
  have flipped : RandomnessMapping.map default 1 0 ⟨.coinFlip, 0, 0, 1, 0⟩ = .ok ([1], 1) := rfl
  exact ((replay_agrees _ typed).2 (by decide) default 1 0).1 [1] 1 flipped

end MappingReplay

end D20
