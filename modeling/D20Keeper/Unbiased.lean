/-
This file is about the mapping of randomness to results: sampling is unbiased, a map
neither panics nor leaves the range of its operation, and choosing is the partial
Fisher-Yates arrangement of the residues it draws.

What a drawing computation can do is stated once, as `Draws`: a bound on the words it
takes, a condition on its value, and the two ways it may end without one. Running out
of fuel means that as many words in a row were rejected, and a cursor at its end means
that all the words of the stream were taken.
-/

import Mathlib.Data.Int.CardIntervalMod
import D20Keeper.FisherYates
import D20Keeper.RandomnessMapping

namespace D20

open Evm

namespace RandomnessMapping

/-! ### The threshold -/

variable {bound : Nat}

theorem threshold_eq (positive : 0 < bound) (small : bound < 2 ^ 256) :
    threshold bound = .ok (2 ^ 256 % bound) := by
  have wrapped : (2 ^ 256 - bound) % 2 ^ 256 = 2 ^ 256 - bound := Nat.mod_eq_of_lt (by omega)
  unfold threshold checkedMod
  rw [if_neg (by omega), wrapped, ← Nat.mod_eq_sub_mod small.le]

/-- An interval of whole periods has each residue once a period. -/
theorem card_filter_mod_Ico (low periods : Nat) {residue : Nat} (within : residue < bound) :
    ((Finset.Ico low (low + periods * bound)).filter (· % bound = residue)).card = periods := by
  have positive : 0 < bound := Nat.zero_lt_of_lt within
  have counted := Nat.Ico_filter_modEq_card low (low + periods * bound) positive residue
  have shifted : (((low + periods * bound : Nat) : ℚ) - residue) / bound =
      ((low : ℚ) - residue) / bound + (periods : Nat) := by
    have nonzero : (bound : ℚ) ≠ 0 := Nat.cast_ne_zero.mpr positive.ne'
    push_cast
    field_simp
    ring
  rw [shifted, Int.ceil_add_natCast, add_sub_cancel_left,
    max_eq_left (Int.natCast_nonneg periods)] at counted
  rw [← Int.natCast_inj, ← counted]
  simp only [Nat.ModEq, Nat.mod_eq_of_lt within]

/-- The words from the threshold on that give a residue are as many for each residue. -/
theorem card_accepted (total : Nat) {residue : Nat} (within : residue < bound) :
    ((Finset.range total).filter
      fun word => total % bound ≤ word ∧ word % bound = residue).card = total / bound := by
  have ends : total % bound + total / bound * bound = total := by
    rw [Nat.mul_comm]
    exact Nat.mod_add_div _ _
  have whole : ((Finset.range total).filter
      fun word => total % bound ≤ word ∧ word % bound = residue) =
      (Finset.Ico (total % bound) total).filter (· % bound = residue) := by
    ext word
    simp only [Finset.mem_filter, Finset.mem_range, Finset.mem_Ico]
    tauto
  have counted := card_filter_mod_Ico (total % bound) (total / bound) within
  rw [ends] at counted
  rw [whole, counted]

/-! ### What a drawing computation can do -/

section Stream

variable {words : Nat → Bytes32} {fuel : Nat} {α β : Type}

/-- A run of `fuel` words that a bound rejects. -/
def Stuck (words : Nat → Bytes32) (fuel : Nat) : Prop :=
  ∃ bound start, 0 < bound ∧ bound < 2 ^ 256 ∧
    ∀ index < fuel, (words (start + index)).toNat < 2 ^ 256 % bound

variable (words fuel) in
/-- What a computation at a cursor may end in: a value that fulfils `post` after at most
`cost` words, the end of the stream, or words rejected until the fuel ended. -/
def Ends (cursor cost : Nat) (post : α → Prop) : Except Halt (α × Nat) → Prop
  | .ok (value, after) => post value ∧ after ≤ cursor + cost
  | .error .exhausted => 2 ^ 256 ≤ cursor + cost
  | .error .unfinished => Stuck words fuel
  | .error .invalidMapping => False
  | .error (.panic _) => False

variable (words fuel) in
/-- A computation draws at most `cost` words for a value that fulfils `post`, and never
panics. -/
def Draws (program : Draw α) (cost : Nat) (post : α → Prop) : Prop :=
  ∀ cursor, Ends words fuel cursor cost post (program cursor)

variable {cost bound left population : Nat} {post : α → Prop} {program : Draw α} {value : α}

theorem Ends.weaken {cursor later more : Nat} {after : α → Prop} {outcome : Except Halt (α × Nat)}
    (ends : Ends words fuel later cost post outcome) (enough : later + cost ≤ cursor + more)
    (implied : ∀ value, post value → after value) : Ends words fuel cursor more after outcome := by
  match outcome, ends with
  | .ok (value, _), ⟨holds, taken⟩ => exact ⟨implied value holds, Nat.le_trans taken enough⟩
  | .error .exhausted, ended => exact Nat.le_trans ended enough
  | .error .unfinished, stuck => exact stuck

theorem Draws.weaken {more : Nat} {after : α → Prop} (draws : Draws words fuel program cost post)
    (enough : cost ≤ more) (implied : ∀ value, post value → after value) :
    Draws words fuel program more after :=
  fun cursor => (draws cursor).weaken (Nat.add_le_add_left enough cursor) implied

theorem draws_pure (holds : post value) : Draws words fuel (pure value : Draw α) 0 post :=
  fun _ => ⟨holds, Nat.le_refl _⟩

theorem Draws.bind {next : α → Draw β} {rest total : Nat} {after : β → Prop}
    (first : Draws words fuel program cost post) (enough : cost + rest ≤ total)
    (second : ∀ value, post value → Draws words fuel (next value) rest after) :
    Draws words fuel (program >>= next) total after := by
  intro cursor
  have drawn := first cursor
  show Ends words fuel cursor total after ((program cursor).bind fun pair => next pair.1 pair.2)
  match program cursor, drawn with
  | .ok (value, middle), ⟨holds, taken⟩ =>
    exact (second value holds middle).weaken (by omega) fun _ holds => holds
  | .error .exhausted, ended => exact Nat.le_trans ended (by omega)
  | .error .unfinished, stuck => exact stuck

theorem checked_bind {computed : Except Panic α} (next : α → Draw β)
    (passes : computed = .ok value) : checked computed >>= next = next value := by
  rw [passes]
  rfl

/-- A check that passes, and what follows it. -/
theorem draws_checked {computed : Except Panic α} {next : α → Draw β} {post : β → Prop}
    (passes : computed = .ok value) (continues : Draws words fuel (next value) cost post) :
    Draws words fuel (checked computed >>= next) cost post := by
  rw [checked_bind next passes]
  exact continues

/-- A computation whose value is the only result. -/
theorem Draws.single {program : Draw α} {cost : Nat} {post : α → Prop}
    (draws : Draws words fuel program cost post) :
    Draws words fuel (program >>= fun value => pure [value]) cost
      fun results => ∃ value, post value ∧ results = [value] :=
  draws.bind (Nat.add_zero _).le fun value holds => draws_pure ⟨value, holds, rfl⟩

/-! ### The draws of a map -/

theorem next_apply (cursor : Nat) :
    next words cursor = if cursor + 1 < 2 ^ 256 then .ok ((words cursor).toNat, cursor + 1)
      else .error .exhausted := by
  show (if cursor + 1 < 2 ^ 256 then (do set (cursor + 1); return (words cursor).toNat)
    else throw .exhausted : Draw Nat) cursor = _
  split <;> rfl

theorem draws_next : Draws words fuel (next words) 1 (· < 2 ^ 256) := by
  intro cursor
  rw [next_apply]
  split
  next => exact ⟨(words cursor).isLt, Nat.le_refl _⟩
  next full => exact Nat.not_lt.mp full

section

variable (positive : 0 < bound) (small : bound < 2 ^ 256)

include positive small

/-- `sample` is the residue of the first accepted word. -/
theorem sample_eq :
    sample words fuel bound =
      firstAccepted words (2 ^ 256 % bound) fuel >>= fun word => pure (word % bound) := by
  unfold sample
  rw [checked_bind _ (threshold_eq positive small)]
  refine bind_congr fun word => ?_
  rw [show checkedMod word bound = .ok (word % bound) from if_neg positive.ne']
  rfl

/-- `sample` accepts the word at the cursor, or goes on behind it. -/
theorem sample_succ {cursor : Nat} :
    sample words (fuel + 1) bound cursor =
      if cursor + 1 < 2 ^ 256 then
        if (words cursor).toNat < 2 ^ 256 % bound then sample words fuel bound (cursor + 1)
        else .ok ((words cursor).toNat % bound, cursor + 1)
      else .error .exhausted := by
  rw [sample_eq positive small, sample_eq positive small]
  show ((next words cursor).bind fun pair => (if pair.1 < 2 ^ 256 % bound
    then firstAccepted words (2 ^ 256 % bound) fuel else pure pair.1 : Draw Nat) pair.2).bind
      (fun pair => (pure (pair.1 % bound) : Draw Nat) pair.2) = _
  rw [next_apply]
  split
  · show ((if (words cursor).toNat < 2 ^ 256 % bound
      then firstAccepted words (2 ^ 256 % bound) fuel else pure (words cursor).toNat : Draw Nat)
        (cursor + 1)).bind _ = _
    split <;> rfl
  · rfl

/-- `sample`, after the words it rejected so far. -/
theorem ends_sample {start used : Nat} (total : used + left = fuel)
    (rejected : ∀ index < used, (words (start + index)).toNat < 2 ^ 256 % bound) :
    Ends words fuel (start + used) left (· < bound) (sample words left bound (start + used)) := by
  induction left generalizing used with
  | zero =>
    rw [sample_eq positive small]
    exact ⟨bound, start, positive, small, fun index below => rejected index (by omega)⟩
  | succ left inductionHypothesis =>
    rw [sample_succ positive small]
    by_cases room : start + used + 1 < 2 ^ 256
    · rw [if_pos room]
      by_cases below : (words (start + used)).toNat < 2 ^ 256 % bound
      · rw [if_pos below]
        refine (@inductionHypothesis (used + 1) (by omega) fun index within => ?_).weaken
          (by omega) fun _ holds => holds
        rcases Nat.lt_succ_iff_lt_or_eq.mp within with earlier | rfl
        · exact rejected index earlier
        · exact below
      · rw [if_neg below]
        exact ⟨Nat.mod_lt _ positive, by omega⟩
    · rw [if_neg room]
      exact Nat.le_trans (Nat.not_lt.mp room) (by omega)

theorem draws_sample : Draws words fuel (sample words fuel bound) fuel (· < bound) :=
  fun _ => ends_sample positive small (Nat.zero_add fuel) fun _ below =>
    absurd below (Nat.not_lt_zero _)

end

theorem checkedAdd_eq {width first second : Nat} (room : first + second < 2 ^ width) :
    checkedAdd width first second = .ok (first + second) := if_pos room

theorem checkedSub_eq {first second : Nat} (enough : second ≤ first) :
    checkedSub first second = .ok (first - second) := if_pos enough

theorem draws_rollDice {upper : Nat} (positive : 0 < upper) (small : upper < 2 ^ 256) :
    Draws words fuel (rollDice words fuel upper left) (left * fuel)
      fun results => results.length = left ∧ ∀ result ∈ results, 1 ≤ result ∧ result ≤ upper := by
  induction left with
  | zero =>
    rw [Nat.zero_mul]
    exact draws_pure ⟨rfl, fun _ member => absurd member List.not_mem_nil⟩
  | succ left inductionHypothesis =>
    have total : fuel + left * fuel = (left + 1) * fuel := by rw [Nat.succ_mul, Nat.add_comm]
    refine (draws_sample positive small).bind total.le fun residue within => ?_
    refine draws_checked (checkedAdd_eq (by omega)) ?_
    refine inductionHypothesis.bind (Nat.add_zero _).le fun rest shaped => ?_
    refine draws_pure ⟨congrArg Nat.succ shaped.1, List.forall_mem_cons.mpr ⟨?_, shaped.2⟩⟩
    omega

/-! ### Choosing is the arrangement of the residues -/

variable (words fuel) in
/-- The residues that choosing draws: the first below the size, the next below one less. -/
def residues : Nat → Nat → Draw (List Nat)
  | _, 0 => return []
  | size, left + 1 => do
    let residue ← sample words fuel size
    let rest ← residues (size - 1) left
    return residue :: rest

theorem draws_residues {size : Nat} (enough : left ≤ size) (small : size < 2 ^ 256) :
    Draws words fuel (residues words fuel size left) (left * fuel)
      (· ∈ FisherYates.Choices size left) := by
  induction left generalizing size with
  | zero =>
    rw [Nat.zero_mul]
    exact draws_pure ⟨rfl, trivial⟩
  | succ left inductionHypothesis =>
    have total : fuel + left * fuel = (left + 1) * fuel := by rw [Nat.succ_mul, Nat.add_comm]
    refine (draws_sample (by omega) small).bind total.le fun residue within => ?_
    have later : Draws words fuel (residues words fuel (size - 1) left) (left * fuel)
        (· ∈ FisherYates.Choices (size - 1) left) := inductionHypothesis (by omega) (by omega)
    refine later.bind (Nat.add_zero _).le fun rest choices => ?_
    exact draws_pure ⟨congrArg Nat.succ choices.1, within, choices.2⟩

/-- Two continuations that agree on the values a computation can give are one. -/
theorem Draws.bind_congr {first second : α → Draw β} (draws : Draws words fuel program cost post)
    (same : ∀ value, post value → first value = second value) :
    program >>= first = program >>= second := by
  funext cursor
  have drawn := draws cursor
  show (program cursor).bind (fun pair => first pair.1 pair.2) =
    (program cursor).bind fun pair => second pair.1 pair.2
  match program cursor, drawn with
  | .ok (value, after), ⟨holds, _⟩ => exact congrFun (same value holds) after
  | .error .exhausted, _ => rfl
  | .error .unfinished, _ => rfl

/-- After the swap, what lies behind the place is what the pick leaves. -/
theorem drop_swapped {pool items : List Nat} {i residue here there : Nat}
    (behind : pool.drop i = here :: items) :
    (((pool.set (i + residue) here).set i there).drop (i + 1)) =
      FisherYates.leftAfter (here :: items) residue := by
  have tail : pool.drop (i + 1) = items := by
    rw [← List.drop_drop, behind, List.drop_one, List.tail_cons]
  rw [List.drop_set_of_lt (Nat.lt_succ_self i), List.drop_set, tail]
  cases residue with
  | zero => rw [if_pos (Nat.lt_succ_self _)]; rfl
  | succ place =>
    rw [if_neg (by omega), show i + (place + 1) - (i + 1) = place by omega]
    rfl

/-- The loop that chooses arranges what lies behind its place by the residues it draws. -/
theorem choose_eq {i : Nat} {pool items : List Nat} (small : population < 2 ^ 256)
    (behind : pool.drop i = items) (size : i + items.length = population)
    (enough : left ≤ items.length) :
    choose words fuel population left i pool =
      residues words fuel items.length left >>= fun places =>
        pure (FisherYates.arrange items places) := by
  induction left generalizing i pool items with
  | zero => rfl
  | succ left inductionHypothesis =>
    cases items with
    | nil => exact absurd enough (Nat.not_succ_le_zero left)
    | cons here items =>
      have sized : i + (items.length + 1) = population := size
      have bound : checkedSub population i = .ok (items.length + 1) := by
        rw [checkedSub_eq (by omega), ← sized, Nat.add_sub_cancel_left]
      unfold choose residues
      rw [checked_bind _ bound, bind_assoc]
      refine (draws_sample (Nat.succ_pos _) (by omega)).bind_congr fun residue within => ?_
      have first : pool[i]? = some here := by
        rw [← List.head?_drop, behind, List.head?_cons]
      have place : pool[i + residue]? = some (here :: items)[residue] := by
        rw [← List.getElem?_drop, behind, List.getElem?_eq_getElem]
      have left' : (FisherYates.leftAfter (here :: items) residue).length = items.length :=
        FisherYates.length_leftAfter within
      rw [checked_bind _ (checkedAdd_eq (by omega)), first, place, bind_assoc]
      show choose words fuel population left (i + 1) _ >>= _ = _
      rw [inductionHypothesis (drop_swapped behind) (by omega) (by omega), bind_assoc,
        left']
      refine bind_congr fun places => ?_
      rw [pure_bind, pure_bind, FisherYates.arrange_cons within]

/-- The loop over a fresh pool arranges the indices. -/
theorem choose_range_eq {count : Nat} (small : population < 2 ^ 256) (enough : count ≤ population) :
    choose words fuel population count 0 (List.range population) =
      residues words fuel population count >>= fun places =>
        pure (FisherYates.arrange (List.range population) places) := by
  have size : (List.range population).length = population := List.length_range
  rw [choose_eq small List.drop_zero (by omega) (by omega), size]

theorem draws_choose {count : Nat} (small : population < 2 ^ 256) (enough : count ≤ population) :
    Draws words fuel (choose words fuel population count 0 (List.range population))
      (count * fuel) (· ∈ FisherYates.Arrangements (List.range population) count) := by
  rw [choose_range_eq small enough]
  refine (draws_residues enough small).bind (Nat.add_zero _).le fun places choices => ?_
  refine draws_pure (FisherYates.arrange_mapsTo List.nodup_range count ?_)
  rw [List.length_range]
  exact choices

end Stream

/-! ### The map -/

/-- The words of a specification are of the types the source gives them. -/
structure Spec.Typed (spec : Spec) : Prop where
  lower : spec.lower < 2 ^ 256
  upper : spec.upper < 2 ^ 256
  count : spec.count < 2 ^ 32
  population : spec.population < 2 ^ 32

/-- The results an operation may give. -/
def Shape (randomness : Bytes32) (spec : Spec) (results : List Nat) : Prop :=
  match spec.operation with
  | .raw => results = [randomness.toNat]
  | .diceRoll =>
    results.length = spec.count ∧ ∀ result ∈ results, 1 ≤ result ∧ result ≤ spec.upper
  | .coinFlip => ∃ side < 2, results = [side]
  | .numberRange => ∃ value, spec.lower ≤ value ∧ value ≤ spec.upper ∧ results = [value]
  | .chooseOne => ∃ index < spec.population, results = [index]
  | .chooseMany =>
    results.length = spec.count ∧ results.Nodup ∧ ∀ index ∈ results, index < spec.population
  | .shuffle => results.Perm (List.range spec.population)

theorem mem_arrangements_range {population count : Nat} {results : List Nat} :
    results ∈ FisherYates.Arrangements (List.range population) count ↔
      results.length = count ∧ results.Nodup ∧ ∀ index ∈ results, index < population := by
  unfold FisherYates.Arrangements
  simp only [Set.mem_ofPred_eq, List.mem_range]

/-- An arrangement of all the indices is a permutation of them. -/
theorem perm_range_of_arrangement {population : Nat} {results : List Nat}
    (arranged : results ∈ FisherYates.Arrangements (List.range population) population) :
    results.Perm (List.range population) := by
  obtain ⟨length, distinct, among⟩ := arranged
  refine (List.subperm_of_subset distinct among).perm_of_length_le ?_
  rw [length, List.length_range]

/-- A map of an accepted specification. -/
theorem draws_mapWords {words : Nat → Bytes32} {fuel : Nat} {randomness : Bytes32} {spec : Spec}
    (typed : spec.Typed) (accepted : validate spec = true) :
    Draws words fuel (mapWords words fuel randomness spec) (256 * fuel + 1)
      (Shape randomness spec) := by
  obtain ⟨operation, lower, upper, count, population⟩ := spec
  have upperLt : upper < 2 ^ 256 := typed.upper
  unfold mapWords
  rw [if_neg (by rw [accepted]; exact Bool.noConfusion)]
  unfold validate at accepted
  cases operation with
  | raw =>
    have fixed : Draws words fuel (pure [randomness.toNat]) 0
        (Shape randomness ⟨.raw, lower, upper, count, population⟩) := draws_pure rfl
    exact fixed.weaken (Nat.zero_le _) fun _ shaped => shaped
  | diceRoll =>
    obtain ⟨-, sides, -, dice, -⟩ := of_decide_eq_true accepted
    refine (draws_rollDice (Nat.zero_lt_of_lt sides) upperLt).weaken ?_ fun _ shaped => shaped
    exact Nat.le_succ_of_le (Nat.mul_le_mul_right fuel (Nat.le_trans dice (by decide)))
  | coinFlip =>
    exact (draws_sample Nat.two_pos (by omega)).single.weaken (by omega) fun _ shaped => shaped
  | numberRange =>
    have ordered : lower ≤ upper := (of_decide_eq_true accepted).1
    have fits : ∀ value, lower ≤ value ∧ value ≤ upper → Shape randomness
        ⟨.numberRange, lower, upper, count, population⟩ [value] := fun value range =>
      ⟨value, range.1, range.2, rfl⟩
    show Draws words fuel (if lower = 0 ∧ upper = 2 ^ 256 - 1 then _ else _) _ _
    by_cases whole : lower = 0 ∧ upper = 2 ^ 256 - 1
    · rw [if_pos whole]
      refine draws_next.single.weaken (by omega) ?_
      rintro results ⟨value, below, rfl⟩
      exact fits value (by omega)
    · rw [if_neg whole]
      have small : upper - lower + 1 < 2 ^ 256 := by omega
      have sampled : Draws words fuel (sample words fuel (upper - lower + 1)) fuel
          (· < upper - lower + 1) := draws_sample (Nat.succ_pos _) small
      have cost : fuel + 0 ≤ 256 * fuel + 1 := by omega
      refine draws_checked (checkedSub_eq ordered) (draws_checked (checkedAdd_eq small) ?_)
      refine sampled.bind cost fun residue within => ?_
      have room : lower + residue < 2 ^ 256 := by omega
      exact draws_checked (checkedAdd_eq room) (draws_pure (fits (lower + residue) (by omega)))
  | chooseOne =>
    obtain ⟨⟨-, -, nonempty, few⟩, -⟩ := of_decide_eq_true accepted
    have small : population < 2 ^ 256 := Nat.lt_of_le_of_lt few (by decide)
    exact (draws_sample (Nat.pos_of_ne_zero nonempty) small).single.weaken (by omega)
      fun _ shaped => shaped
  | chooseMany =>
    obtain ⟨⟨-, -, -, few⟩, -, enough⟩ := of_decide_eq_true accepted
    refine (draws_choose (Nat.lt_of_le_of_lt few (by decide)) enough).weaken ?_
      fun _ arranged => mem_arrangements_range.mp arranged
    exact Nat.le_succ_of_le (Nat.mul_le_mul_right fuel (Nat.le_trans enough few))
  | shuffle =>
    obtain ⟨⟨-, -, -, few⟩, all⟩ := of_decide_eq_true accepted
    obtain rfl : count = population := all
    refine (draws_choose (Nat.lt_of_le_of_lt few (by decide)) (Nat.le_refl _)).weaken ?_
      fun _ arranged => perm_range_of_arrangement arranged
    exact Nat.le_succ_of_le (Nat.mul_le_mul_right fuel few)

/-! ### The words that `sample` accepts -/

/-- The residue that `sample` returns for a word, if it accepts it. -/
def sampled (bound : Nat) (word : Bytes32) : Option Nat :=
  (sample (fun _ => word) 1 bound 0).toOption.map Prod.fst

theorem sampled_eq (positive : 0 < bound) (small : bound < 2 ^ 256) (word : Bytes32) :
    sampled bound word =
      if word.toNat < 2 ^ 256 % bound then none else some (word.toNat % bound) := by
  unfold sampled
  rw [sample_succ positive small, if_pos (by decide)]
  split
  · rw [sample_eq positive small]
    rfl
  · rfl

/-- Sampling and choosing are unbiased and well-formed. For every bound the words for
which `sample` returns a residue are as many for each residue, and there are some; on a stream it
returns that of the first word it accepts. A map of an accepted specification never panics, on any
stream of words: it ends with results of the shape of its operation, or a rejection loop found all
the words it may look at below the threshold of its bound, or the stream ended. And choosing
arranges the residues it accepts, which is a bijection onto the lists of distinct indices. -/
theorem map_unbiased :
    (∀ bound, 1 ≤ bound → bound ≤ 2 ^ 256 - 1 →
      (∀ residue < bound, ((Finset.range (2 ^ 256)).filter fun word =>
        sampled bound (BitVec.ofNat 256 word) = some residue).card = 2 ^ 256 / bound) ∧
      (∃ word, (sampled bound word).isSome) ∧
      ∀ words fuel cursor, cursor + 1 < 2 ^ 256 → sample words (fuel + 1) bound cursor =
        match sampled bound (words cursor) with
        | some residue => .ok (residue, cursor + 1)
        | none => sample words fuel bound (cursor + 1)) ∧
    (∀ spec : Spec, spec.Typed → validate spec = true → ∀ words fuel randomness,
      match (mapWords words fuel randomness spec).run 0 with
      | .ok (results, _) => Shape randomness spec results
      | .error .exhausted => 2 ^ 256 ≤ 256 * fuel + 1
      | .error .unfinished => ∃ bound start, 1 ≤ bound ∧ bound ≤ 2 ^ 256 - 1 ∧
          ∀ index < fuel, (words (start + index)).toNat < 2 ^ 256 % bound
      | .error .invalidMapping => False
      | .error (.panic _) => False) ∧
    ∀ population count : Nat,
      Set.BijOn (FisherYates.arrange (List.range population))
        { places | places.length = count ∧
          ∀ i (within : i < places.length), places[i] < population - i }
        { results | results.length = count ∧ results.Nodup ∧
          ∀ index ∈ results, index < population } ∧
      (count ≤ population → population < 2 ^ 256 → ∀ words fuel,
        choose words fuel population count 0 (List.range population) =
          residues words fuel population count >>= fun places =>
            pure (FisherYates.arrange (List.range population) places)) := by
  refine ⟨fun bound positive small => ?_, fun spec typed accepted words fuel randomness => ?_,
    fun population count => ⟨?_, fun enough small words fuel => choose_range_eq small enough⟩⟩
  · have below : 2 ^ 256 % bound < bound := Nat.mod_lt _ positive
    have accepts := @sampled_eq bound positive (by omega)
    refine ⟨fun residue within => ?_, ⟨BitVec.allOnes 256, ?_⟩, fun words fuel cursor room => ?_⟩
    · rw [← card_accepted (2 ^ 256) within]
      refine congrArg Finset.card (Finset.filter_congr fun word member => ?_)
      rw [accepts, BitVec.toNat_ofNat, Nat.mod_eq_of_lt (Finset.mem_range.mp member)]
      split
      case isTrue rejected => exact ⟨nofun, fun taken => absurd taken.1 (Nat.not_le.mpr rejected)⟩
      case isFalse accepted =>
        rw [Option.some_inj]
        exact (and_iff_right (Nat.not_lt.mp accepted)).symm
    · rw [accepts, BitVec.toNat_allOnes, if_neg (by omega)]
      rfl
    · rw [sample_succ positive (by omega), if_pos room, accepts]
      split <;> rfl
  · have drawn : Ends words fuel 0 (256 * fuel + 1) (Shape randomness spec)
        ((mapWords words fuel randomness spec).run 0) := draws_mapWords typed accepted 0
    match (mapWords words fuel randomness spec).run 0, drawn with
    | .ok (results, _), ⟨shaped, _⟩ => exact shaped
    | .error .exhausted, ended =>
      have reached : 2 ^ 256 ≤ 0 + (256 * fuel + 1) := ended
      exact Nat.le_trans reached (Nat.zero_add _).le
    | .error .unfinished, ⟨bound, start, positive, small, rejected⟩ =>
      exact ⟨bound, start, positive, Nat.le_pred_of_lt small, rejected⟩
  · have arranged := FisherYates.arrange_bijOn (List.nodup_range (n := population)) count
    rw [List.length_range] at arranged
    have choices : { places : List Nat | places.length = count ∧
        ∀ i (within : i < places.length), places[i] < population - i } =
        FisherYates.Choices population count :=
      Set.ext fun places => and_congr_right fun _ => FisherYates.places_iff.symm
    have results : { results : List Nat | results.length = count ∧ results.Nodup ∧
        ∀ index ∈ results, index < population } =
        FisherYates.Arrangements (List.range population) count :=
      Set.ext fun results => mem_arrangements_range.symm
    rw [choices, results]
    exact arranged

/-- The theorem at a roll of two dice of twenty sides, on the words from a hundred on, and at
two of three items. -/
theorem map_unbiased_dice :
    (∀ residue < 20, ((Finset.range (2 ^ 256)).filter fun word =>
      sampled 20 (BitVec.ofNat 256 word) = some residue).card = 2 ^ 256 / 20) ∧
    (∃ results, (mapWords (fun cursor => BitVec.ofNat 256 (cursor + 100)) 1 0
      ⟨.diceRoll, 0, 20, 2, 0⟩).run 0 = .ok (results, 2) ∧ results = [1, 2] ∧
      Shape 0 ⟨.diceRoll, 0, 20, 2, 0⟩ results) ∧
    choose (fun cursor => BitVec.ofNat 256 (cursor + 100)) 1 3 2 0 (List.range 3) =
      residues (fun cursor => BitVec.ofNat 256 (cursor + 100)) 1 3 2 >>= fun places =>
        pure (FisherYates.arrange (List.range 3) places) := by
  have rolled : (mapWords (fun cursor => BitVec.ofNat 256 (cursor + 100)) 1 0
      ⟨.diceRoll, 0, 20, 2, 0⟩).run 0 = .ok ([1, 2], 2) := by decide +kernel
  have shaped := map_unbiased.2.1 ⟨.diceRoll, 0, 20, 2, 0⟩
    ⟨by decide, by decide, by decide, by decide⟩ (by decide)
    (fun cursor => BitVec.ofNat 256 (cursor + 100)) 1 0
  rw [rolled] at shaped
  exact ⟨(map_unbiased.1 20 (by decide) (by decide)).1, ⟨_, rolled, rfl, shaped⟩,
    (map_unbiased.2.2 3 2).2 (by decide) (by decide) _ _⟩

end RandomnessMapping

end D20
