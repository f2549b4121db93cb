/-
This file says what a proof of the verifiable random function shows, apart from
the programs that make and check it: how a key and a seed hash to a point, which
address a point has, what the precompile that recovers signers returns, and the
equations between the parts of a proof.

The hash is an arbitrary function, so the loops that retry it need not end. The
relations below hold of the runs that do; the programs carry a bound on their
rounds, and are compared through these relations.
-/

import D20Keeper.CurveGroup
import D20Keeper.Platform

namespace D20.Vrf

open Evm

/-! ### Runs that may not end -/

/-- Why a program gave no value: it stopped with a message, or the rounds it was allowed ran out
before it stopped. -/
inductive Halt where
  | thrown (message : String)
  | unfinished
deriving DecidableEq, Repr

/-- A program goes on with the value of its first part. -/
theorem bind_of_ok {α β : Type} {first : Except Halt α} {next : α → Except Halt β} {value : α}
    {result : Except Halt β} (done : first = .ok value) (rest : next value = result) :
    (first >>= next) = result := by
  rw [done]
  exact rest

/-- A program that stops with a message when a condition fails. -/
def require (condition : Prop) [Decidable condition] (message : String) : Except Halt Unit :=
  if condition then .ok () else .error (.thrown message)

theorem require_eq_ok {condition : Prop} [Decidable condition] {message : String} {value : Unit} :
    require condition message = .ok value ↔ condition := by
  unfold require
  split
  case isTrue holds => exact ⟨fun _ => holds, fun _ => rfl⟩
  case isFalse fails => exact ⟨nofun, fun holds => absurd holds fails⟩

theorem require_of {condition : Prop} [Decidable condition] {message : String}
    (holds : condition) : require condition message = .ok () := require_eq_ok.mpr holds

/-- `require` of the answer of a call. -/
def demand (call : Except Halt Bool) (message : String) : Except Halt Unit := do
  let answer ← call
  require (answer = true) message

theorem demand_eq_ok {call : Except Halt Bool} {message : String} {value : Unit} :
    demand call message = .ok value ↔ call = .ok true := by
  constructor
  · intro passed
    obtain ⟨answer, called, required⟩ := ok_of_bind passed
    rw [called, require_eq_ok.mp required]
  · intro called
    rw [demand, called, ok_bind, require_eq_ok]

theorem demand_of {call : Except Halt Bool} {message : String} (called : call = .ok true) :
    demand call message = .ok () := demand_eq_ok.mpr called

/-- A program with a bound on its rounds ends with a value once the bound is large enough. -/
def Ends {α : Type} (program : ℕ → Except Halt α) (value : α) : Prop :=
  ∃ enough, ∀ fuel, enough ≤ fuel → program fuel = .ok value

/-! ### Bytes -/

/-- Numbers packed as words, one after the other. -/
def packed (numbers : List ℕ) : Bytes := numbers.flatMap wordBytes

/-- The twenty bytes of an address. -/
def addressBytes (address : Address) : Bytes := (wordBytes address.word.val).drop 12

/-- The address in the last twenty bytes of a hash. -/
def lowAddress (hash : Bytes32) : Address := ⟨⟨hash.toNat % 2 ^ 160, Nat.mod_lt _ (by norm_num)⟩⟩

variable (curve : Curve) (keccak256 : Bytes → Bytes32)

/-! ### Hashing to the curve -/

/-- The data hashes into the field: its hash is taken as a number, and hashed again for as long
as it is too large. -/
inductive FieldHash : Bytes → ℕ → Prop
  | small {data : Bytes} (below : (keccak256 data).toNat < curve.fieldSize) :
    FieldHash data (keccak256 data).toNat
  | large {data : Bytes} {x : ℕ} (above : curve.fieldSize ≤ (keccak256 data).toNat)
    (again : FieldHash (packed [(keccak256 data).toNat]) x) : FieldHash data x

/-- The loop that takes numbers into the field by hashing them again. -/
def rehash : ℕ → ℕ → Except Halt ℕ
  | 0, _ => .error .unfinished
  | fuel + 1, x =>
    if curve.fieldSize ≤ x then rehash fuel (keccak256 (packed [x])).toNat else .ok x

/-- The hash into the field as the programs compute it. -/
def hashBelow (fuel : ℕ) (data : Bytes) : Except Halt ℕ :=
  rehash curve keccak256 fuel (keccak256 data).toNat

/-- The data hashes to a point: the point with an even ordinate at the first abscissa, among the
field hashes that follow one another, that has one. -/
inductive PointHash : Bytes → curve.Point → Prop
  | found {data : Bytes} {x : ℕ} {point : curve.Point} (hashed : FieldHash curve keccak256 data x)
    (lifted : curve.lift x 0 = some point) : PointHash data point
  | missed {data : Bytes} {x : ℕ} {point : curve.Point} (hashed : FieldHash curve keccak256 data x)
    (failed : curve.lift x 0 = none) (next : PointHash (packed [x]) point) : PointHash data point

/-- The point that a key and a seed hash to. -/
def HashToCurve (key : ℕ × ℕ) (seed : ℕ) (point : curve.Point) : Prop :=
  PointHash curve keccak256 (packed [1, key.1, key.2, seed]) point

variable {curve keccak256} {data : Bytes} {x : ℕ}

theorem FieldHash.unique {first second : ℕ} (firstHash : FieldHash curve keccak256 data first)
    (secondHash : FieldHash curve keccak256 data second) : first = second := by
  induction firstHash with
  | small below =>
    cases secondHash with
    | small => rfl
    | large above => exact absurd below (Nat.not_lt.mpr above)
  | large above _ inductionHypothesis =>
    cases secondHash with
    | small below => exact absurd below (Nat.not_lt.mpr above)
    | large _ again => exact inductionHypothesis again

theorem FieldHash.lt (hashed : FieldHash curve keccak256 data x) :
    x < curve.fieldSize := by
  induction hashed with
  | small below => exact below
  | large _ _ inductionHypothesis => exact inductionHypothesis

theorem hashBelow_sound {fuel : ℕ} (hashed : hashBelow curve keccak256 fuel data = .ok x) :
    FieldHash curve keccak256 data x := by
  induction fuel generalizing data with
  | zero => cases hashed
  | succ fuel inductionHypothesis =>
    unfold hashBelow rehash at hashed
    split at hashed
    · rename_i above
      exact .large above (inductionHypothesis hashed)
    · rename_i below
      cases hashed
      exact .small (Nat.not_le.mp below)

theorem hashBelow_ends (hashed : FieldHash curve keccak256 data x) :
    Ends (fun fuel => hashBelow curve keccak256 fuel data) x := by
  induction hashed with
  | small below =>
    refine ⟨1, fun fuel enough => ?_⟩
    obtain ⟨fuel, rfl⟩ := Nat.exists_eq_add_of_le' enough
    exact if_neg (Nat.not_le.mpr below)
  | large above _ inductionHypothesis =>
    obtain ⟨bound, ends⟩ := inductionHypothesis
    refine ⟨bound + 1, fun fuel enough => ?_⟩
    obtain ⟨fuel, rfl⟩ := Nat.exists_eq_add_of_le' (Nat.le_of_add_left_le enough)
    exact (if_pos above).trans (ends fuel (Nat.le_of_add_le_add_right enough))

theorem PointHash.unique {first second : curve.Point}
    (firstHash : PointHash curve keccak256 data first)
    (secondHash : PointHash curve keccak256 data second) : first = second := by
  induction firstHash with
  | found hashed lifted =>
    cases secondHash with
    | found otherHashed otherLifted =>
      rw [hashed.unique otherHashed, otherLifted] at lifted
      exact (Option.some.inj lifted).symm
    | missed otherHashed failed =>
      rw [hashed.unique otherHashed, failed] at lifted
      cases lifted
  | missed hashed failed _ inductionHypothesis =>
    cases secondHash with
    | found otherHashed otherLifted =>
      rw [hashed.unique otherHashed, otherLifted] at failed
      cases failed
    | missed otherHashed _ next =>
      rw [← hashed.unique otherHashed] at next
      exact inductionHypothesis next

theorem PointHash.ne_zero {point : curve.Point} (hashed : PointHash curve keccak256 data point) :
    point ≠ 0 := by
  induction hashed with
  | found _ lifted => exact ((curve.decode_eq_some _ _).mp lifted).1
  | missed _ _ _ inductionHypothesis => exact inductionHypothesis

variable (curve keccak256)

/-! ### Addresses and recovery -/

/-- The address of a pair of coordinates. -/
def pairAddress (pair : ℕ × ℕ) : Address := lowAddress (keccak256 (packed [pair.1, pair.2]))

/-- The address of a point. The point at infinity has no coordinates and gets the zero address. -/
def addressOf (point : curve.Point) : Address :=
  if point = 0 then 0 else pairAddress keccak256 (curve.coordinates point)

/-- `ecrecover`: the address of the recovered point, and the zero address for a signature out of
range, an abscissa without a point, or a point at infinity. -/
def ecrecover (hash v r s : ℕ) : Address :=
  if (v = 27 ∨ v = 28) ∧ r ≠ 0 ∧ r < curve.groupOrder ∧ s ≠ 0 ∧ s < curve.groupOrder then
    match curve.lift r (v - 27) with
    | none => 0
    | some nonce => addressOf curve keccak256 (curve.recover hash r s nonce)
  else 0

variable {curve keccak256}

theorem addressOf_eq {point : curve.Point} (nonzero : point ≠ 0) :
    addressOf curve keccak256 point = pairAddress keccak256 (curve.coordinates point) :=
  if_neg nonzero

@[simp]
theorem addressOf_zero : addressOf curve keccak256 0 = 0 := if_pos rfl

/-- The recovery identifier for the parity of an ordinate. -/
def parityByte (y : ℕ) : ℕ := if y % 2 = 0 then 27 else 28

theorem parityByte_sub (y : ℕ) : parityByte y - 27 = y % 2 := by
  unfold parityByte
  split <;> omega

theorem parityByte_valid (y : ℕ) : parityByte y = 27 ∨ parityByte y = 28 := by
  unfold parityByte
  split
  · exact Or.inl rfl
  · exact Or.inr rfl

/-- Recovery from the coordinates of a point whose abscissa is below the group order. -/
theorem ecrecover_eq {point : curve.Point} (nonzero : point ≠ 0)
    (below : (curve.coordinates point).1 < curve.groupOrder) {s : ℕ} (hash : ℕ) (sNonzero : s ≠ 0)
    (sBelow : s < curve.groupOrder) :
    ecrecover curve keccak256 hash (parityByte (curve.coordinates point).2)
        (curve.coordinates point).1 s =
      addressOf curve keccak256
        (curve.recover hash (curve.coordinates point).1 s point) := by
  unfold ecrecover
  rw [if_pos ⟨parityByte_valid _, Curve.x_ne_zero nonzero, below, sNonzero, sBelow⟩,
    parityByte_sub, curve.lift_coordinates nonzero]

theorem ecrecover_of_zero {hash v r : ℕ} : ecrecover curve keccak256 hash v r 0 = 0 :=
  if_neg fun valid => valid.2.2.2.1 rfl

theorem ecrecover_of_le {hash v r s : ℕ} (above : curve.groupOrder ≤ r) :
    ecrecover curve keccak256 hash v r s = 0 :=
  if_neg fun valid => absurd valid.2.2.1 (Nat.not_lt.mpr above)

variable (curve keccak256)

/-! ### Proofs -/

/-- The last ordinate of the sum of two points in projective coordinates, from their
abscissas. -/
def sumDenominator (x₁ x₂ : ℕ) : ℕ :=
  let lz := (x₂ + (curve.fieldSize - x₁)) % curve.fieldSize
  let dx := lz ^ 2 % curve.fieldSize
  let dy := lz ^ 3 % curve.fieldSize
  if dx = dy then dx else dx * dy % curve.fieldSize

theorem sumDenominator_lt (x₁ x₂ : ℕ) : sumDenominator curve x₁ x₂ < curve.fieldSize := by
  unfold sumDenominator
  dsimp only
  split <;> exact Nat.mod_lt _ curve.fieldSize_prime.pos

/-- The inverse of a denominator is a power of it. -/
def sumInverse (x₁ x₂ : ℕ) : ℕ :=
  sumDenominator curve x₁ x₂ ^ (curve.fieldSize - 2) % curve.fieldSize

theorem sumDenominator_mul_inverse {x₁ x₂ : ℕ} (nonzero : sumDenominator curve x₁ x₂ ≠ 0) :
    sumDenominator curve x₁ x₂ * sumInverse curve x₁ x₂ % curve.fieldSize = 1 := by
  have invertible : (sumDenominator curve x₁ x₂ : ZMod curve.fieldSize) ≠ 0 := by
    intro zero
    rw [ZMod.natCast_eq_zero_iff] at zero
    exact nonzero (Nat.eq_zero_of_dvd_of_lt zero (sumDenominator_lt curve x₁ x₂))
  have exponent : curve.fieldSize - 2 + 1 = curve.fieldSize - 1 := by
    have := curve.two_lt_fieldSize
    omega
  have fermat : ((sumDenominator curve x₁ x₂ ^ (curve.fieldSize - 1) : ℕ) :
      ZMod curve.fieldSize) = (1 : ℕ) := by
    rw [Nat.cast_pow, Nat.cast_one]
    exact ZMod.pow_card_sub_one_eq_one invertible
  rw [ZMod.natCast_eq_natCast_iff', Nat.mod_eq_of_lt curve.fieldSize_prime.one_lt] at fermat
  rw [sumInverse, Nat.mul_mod_mod, ← pow_succ', exponent, fermat]

/-- The challenge of a proof. -/
def challenge (hash key gamma v : ℕ × ℕ) (witness : Address) : ℕ :=
  (keccak256 (packed [2, hash.1, hash.2, key.1, key.2, gamma.1, gamma.2, v.1, v.2] ++
    addressBytes witness)).toNat

/-- The output of a proof. -/
def output (gamma : ℕ × ℕ) : Bytes32 := keccak256 (packed [3, gamma.1, gamma.2])

/-- A proof is valid for a seed, where `key`, `gamma` and `hash` are the points it speaks of: its
witnesses are the multiples and the address they stand for, its inverse is one, and its challenge
is the hash of all of them. -/
structure Valid (proof : Proof) (seed : ℕ) (key gamma hash : curve.Point) : Prop where
  key_eq : curve.decode proof.pk = some key
  gamma_eq : curve.decode proof.gamma = some gamma
  hash_eq : HashToCurve curve keccak256 proof.pk seed hash
  c_ne_zero : proof.c % curve.groupOrder ≠ 0
  s_ne_zero : proof.s % curve.groupOrder ≠ 0
  cGamma_eq : proof.cGammaWitness = curve.coordinates (proof.c • gamma)
  sHash_eq : proof.sHashWitness = curve.coordinates (proof.s • hash)
  distinct : proof.cGammaWitness.1 ≠ proof.sHashWitness.1
  inverse : sumDenominator curve proof.cGammaWitness.1 proof.sHashWitness.1 * proof.zInv %
    curve.fieldSize = 1
  witness_ne_zero : proof.c • key + proof.s • curve.generator ≠ 0
  witness_eq : proof.uWitness =
    addressOf curve keccak256 (proof.c • key + proof.s • curve.generator)
  challenge_eq : proof.c = challenge keccak256 (curve.coordinates hash) proof.pk proof.gamma
    (curve.coordinates (proof.c • gamma + proof.s • hash)) proof.uWitness

variable {curve keccak256}

namespace Valid

variable {proof : Proof} {seed : ℕ} {key gamma hash : curve.Point}
  (valid : Valid curve keccak256 proof seed key gamma hash)

include valid

theorem key_ne_zero : key ≠ 0 :=
  ((curve.decode_eq_some _ _).mp valid.key_eq).1

theorem gamma_ne_zero : gamma ≠ 0 :=
  ((curve.decode_eq_some _ _).mp valid.gamma_eq).1

theorem hash_ne_zero : hash ≠ 0 :=
  valid.hash_eq.ne_zero

theorem cGamma_ne_zero : proof.c • gamma ≠ 0 :=
  Curve.nsmul_ne_zero valid.c_ne_zero valid.gamma_ne_zero

theorem sHash_ne_zero : proof.s • hash ≠ 0 :=
  Curve.nsmul_ne_zero valid.s_ne_zero valid.hash_ne_zero

theorem cGamma_decodes : curve.decode proof.cGammaWitness = some (proof.c • gamma) := by
  rw [valid.cGamma_eq]
  exact Curve.decode_coordinates valid.cGamma_ne_zero

theorem sHash_decodes : curve.decode proof.sHashWitness = some (proof.s • hash) := by
  rw [valid.sHash_eq]
  exact Curve.decode_coordinates valid.sHash_ne_zero

theorem c_pos : proof.c ≠ 0 := by
  intro zero
  exact valid.c_ne_zero (by rw [zero, Nat.zero_mod])

theorem s_pos : proof.s ≠ 0 := by
  intro zero
  exact valid.s_ne_zero (by rw [zero, Nat.zero_mod])

end Valid

variable (curve keccak256)

/-- The points whose addresses a check of the proof compares: the combination behind the witness
address, the two products, the two points supplied for them, and the point at infinity, which
stands for a recovery that fails. -/
inductive Compared (proof : Proof) (seed : ℕ) : curve.Point → Prop
  | infinity : Compared proof seed 0
  | combination {key : curve.Point} (decoded : curve.decode proof.pk = some key) :
    Compared proof seed (proof.c • key + proof.s • curve.generator)
  | gammaProduct {gamma : curve.Point} (decoded : curve.decode proof.gamma = some gamma) :
    Compared proof seed (proof.c • gamma)
  | hashProduct {hash : curve.Point} (hashed : HashToCurve curve keccak256 proof.pk seed hash) :
    Compared proof seed (proof.s • hash)
  | cGammaWitness {point : curve.Point} (decoded : curve.decode proof.cGammaWitness = some point) :
    Compared proof seed point
  | sHashWitness {point : curve.Point} (decoded : curve.decode proof.sHashWitness = some point) :
    Compared proof seed point

/-- No two of the points compared by address share one. -/
def DistinctAddresses (proof : Proof) (seed : ℕ) : Prop :=
  Set.InjOn (addressOf curve keccak256) {point | Compared curve keccak256 proof seed point}

end D20.Vrf
