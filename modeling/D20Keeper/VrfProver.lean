/-
This file is the prover of the keeper, `prover.rs`. It draws nonces until one
gives a proof without a degenerate part, and supplies with the proof the points
and the inverse that the contract does not compute itself.

Every proof that it returns is valid, so the contract accepts it when the
abscissas that pass through the precompile are below the group order, and the
output point depends on the key and the seed alone.
-/

import D20Keeper.VrfSolidity

namespace D20.Vrf

open Evm

/-! ### The prover -/

/-- A secret key: a scalar from one to the group order, exclusive. -/
structure SecretKey (curve : Curve) where
  scalar : ℕ
  scalar_ne_zero : scalar ≠ 0
  scalar_lt : scalar < curve.groupOrder

namespace Rust

variable (curve : Curve) (keccak256 : Bytes → Bytes32)

/-- `pair`: the coordinates of a point other than the identity. -/
def pair (point : curve.Point) : Except Halt (ℕ × ℕ) :=
  if point = 0 then .error (.thrown "nonidentity") else .ok (curve.coordinates point)

/-- `public_key`. -/
def publicKey (key : SecretKey curve) : Except Halt (ℕ × ℕ) :=
  pair curve (key.scalar • curve.generator)

/-- `field_hash`. -/
def fieldHash (fuel : ℕ) (bytes : Bytes) : Except Halt ℕ := hashBelow curve keccak256 fuel bytes

/-- The loop of `hash_to_curve` over a bounded number of candidates. -/
def candidates (fuel : ℕ) : ℕ → ℕ → Except Halt curve.Point
  | 0, _ => .error (.thrown "Hash-to-curve work bound exceeded")
  | left + 1, x =>
    let y₂ := (x * x % curve.fieldSize * x + 7) % curve.fieldSize
    let y := y₂ ^ ((curve.fieldSize + 1) >>> 2) % curve.fieldSize
    if y * y % curve.fieldSize = y₂ then
      match curve.decode (x, if y % 2 = 1 then curve.fieldSize - y else y) with
      | some point => .ok point
      | none => .error (.thrown "Invalid public hash-to-curve point")
    else do
      let x ← fieldHash curve keccak256 fuel (packed [x])
      candidates fuel left x

/-- `hash_to_curve`. -/
def hashToCurve (fuel : ℕ) (pk : ℕ × ℕ) (seed : ℕ) : Except Halt curve.Point := do
  let x ← fieldHash curve keccak256 fuel (packed [1, pk.1, pk.2, seed])
  candidates curve keccak256 fuel 256 x

/-- The last ordinate of the sum of the two helper points of a proof, from their abscissas. -/
def denominator (x₁ x₂ : ℕ) : ℕ :=
  let lz := (x₂ + curve.fieldSize - x₁) % curve.fieldSize
  let dx := lz * lz % curve.fieldSize
  let dy := dx * lz % curve.fieldSize
  if dx = dy then dx else dx * dy % curve.fieldSize

/-- The inverse that comes with a proof. -/
def inverseWitness (x₁ x₂ : ℕ) : Except Halt ℕ := do
  let z := denominator curve x₁ x₂
  require (z ≠ 0) "Invalid public inverse witness"
  return z ^ (curve.fieldSize - 2) % curve.fieldSize

/-- The scalars of a proof: the challenge hash reduced, and the response. -/
def response (key nonce : SecretKey curve) (cBytes : Bytes32) : ℕ × ℕ :=
  let cScalar := cBytes.toNat % curve.groupOrder
  (cScalar, (nonce.scalar + (curve.groupOrder - cScalar * key.scalar % curve.groupOrder)) %
    curve.groupOrder)

/-- The second half of a round of `prove`, with the witness address and the challenge hash. There
is no proof when the round is to be repeated. -/
def answer (seed : ℕ) (key : SecretKey curve) (pk gammaPair : ℕ × ℕ) (h gamma : curve.Point)
    (nonce : SecretKey curve) (uAddress : Address) (cBytes : Bytes32) :
    Except Halt (Option Proof) :=
  let cScalar := (response curve key nonce cBytes).1
  let s := (response curve key nonce cBytes).2
  if cScalar = 0 ∨ s = 0 then return none
  else do
    let cg ← pair curve (cScalar • gamma)
    let sh ← pair curve (s • h)
    if cg.1 = sh.1 then return none
    else
      let inv ← inverseWitness curve cg.1 sh.1
      return some {
        pk := pk
        gamma := gammaPair
        c := cBytes.toNat
        s := s
        seed := seed
        uWitness := uAddress
        cGammaWitness := cg
        sHashWitness := sh
        zInv := inv }

/-- A round of `prove` with a nonce. -/
def attempt (seed : ℕ) (key : SecretKey curve) (pk : ℕ × ℕ) (h gamma : curve.Point)
    (nonce : SecretKey curve) : Except Halt (Option Proof) := do
  let u ← pair curve (nonce.scalar • curve.generator)
  let uAddress := lowAddress (keccak256 (packed [u.1, u.2]))
  if uAddress = 0 then return none
  else
    let hPair ← pair curve h
    let gammaPair ← pair curve gamma
    let v ← pair curve (nonce.scalar • h)
    let cBytes := keccak256 (packed [2, hPair.1, hPair.2, pk.1, pk.2, gammaPair.1, gammaPair.2,
      v.1, v.2] ++ addressBytes uAddress)
    answer curve seed key pk gammaPair h gamma nonce uAddress cBytes

/-- The loop of `prove` over the nonce draws. -/
def attempts (seed : ℕ) (key : SecretKey curve) (pk : ℕ × ℕ) (h gamma : curve.Point)
    (draws : ℕ → SecretKey curve) : ℕ → ℕ → Except Halt Proof
  | 0, _ => .error (.thrown "Unable to generate nondegenerate VRF proof")
  | left + 1, drawn => do
    match ← attempt curve keccak256 seed key pk h gamma (draws drawn) with
    | some proof => return proof
    | none => attempts seed key pk h gamma draws left (drawn + 1)

/-- `prove`, with the nonces it draws. -/
def prove (fuel seed : ℕ) (key : SecretKey curve) (draws : ℕ → SecretKey curve) :
    Except Halt Proof := do
  let pk ← publicKey curve key
  let h ← hashToCurve curve keccak256 fuel pk seed
  let gamma := key.scalar • h
  attempts curve keccak256 seed key pk h gamma draws 32 0

/-! ### Proofs that are returned -/

variable {curve keccak256}

variable {point h : curve.Point} {fuel x₁ seed : ℕ} {key : SecretKey curve} {proof : Proof}

theorem pair_eq_ok {coordinates : ℕ × ℕ} (paired : pair curve point = .ok coordinates) :
    point ≠ 0 ∧ coordinates = curve.coordinates point := by
  unfold pair at paired
  split at paired
  · cases paired
  · rename_i nonzero
    exact ⟨nonzero, (Except.ok.inj paired).symm⟩

theorem candidate_square (x : ℕ) :
    (x * x % curve.fieldSize * x + 7) % curve.fieldSize = curve.ySquared x := by
  rw [Curve.ySquared, Nat.add_mod, Nat.mod_mul_mod, ← Nat.add_mod, ← pow_two, ← pow_succ]

theorem candidate_root (value : ℕ) :
    value ^ ((curve.fieldSize + 1) >>> 2) % curve.fieldSize = curve.squareRoot value := by
  rw [Nat.shiftRight_eq_div_pow]
  rfl

theorem candidates_sound {left : ℕ} {data : Bytes} {x : ℕ}
    (hashed : FieldHash curve keccak256 data x)
    (found : candidates curve keccak256 fuel left x = .ok point) :
    PointHash curve keccak256 data point := by
  induction left generalizing data x with
  | zero => cases found
  | succ left inductionHypothesis =>
    unfold candidates at found
    simp only [candidate_square, candidate_root, ← curve.ordinate_zero_eq] at found
    split at found
    · split at found
      · rename_i decoded
        cases found
        exact .found hashed decoded
      · cases found
    · rename_i notSquare
      rw [← pow_two] at notSquare
      have failed := curve.lift_eq_none hashed.lt notSquare
      obtain ⟨next, rehashed, found⟩ := ok_of_bind found
      exact .missed hashed failed (inductionHypothesis (hashBelow_sound rehashed) found)

theorem hashToCurve_sound {pk : ℕ × ℕ}
    (found : hashToCurve curve keccak256 fuel pk seed = .ok point) :
    HashToCurve curve keccak256 pk seed point := by
  obtain ⟨x, hashed, found⟩ := ok_of_bind found
  exact candidates_sound (hashBelow_sound hashed) found

theorem denominator_eq (x₂ : ℕ) (small : x₁ < curve.fieldSize) :
    denominator curve x₁ x₂ = sumDenominator curve x₁ x₂ := by
  have gap : x₂ + curve.fieldSize - x₁ = x₂ + (curve.fieldSize - x₁) := by omega
  have cube (value : ℕ) : value ^ 2 % curve.fieldSize * value % curve.fieldSize =
      value ^ 3 % curve.fieldSize := by
    rw [Nat.mod_mul_mod, ← pow_succ]
  simp only [denominator, gap, ← pow_two, cube, sumDenominator]

theorem inverseWitness_lt {x₂ inv : ℕ} (found : inverseWitness curve x₁ x₂ = .ok inv) :
    inv < curve.fieldSize := by
  obtain ⟨_, _, found⟩ := ok_of_bind found
  cases found
  exact Nat.mod_lt _ curve.fieldSize_prime.pos

/-- The inverse that is supplied is the one the contract asks for. -/
theorem inverseWitness_sound {x₂ inv : ℕ} (small : x₁ < curve.fieldSize)
    (found : inverseWitness curve x₁ x₂ = .ok inv) :
    sumDenominator curve x₁ x₂ * inv % curve.fieldSize = 1 := by
  obtain ⟨_, required, found⟩ := ok_of_bind found
  cases found
  have required := require_eq_ok.mp required
  rw [denominator_eq x₂ small] at required ⊢
  exact sumDenominator_mul_inverse curve required

/-- The response answers the challenge: the combination is the multiple by the nonce. -/
theorem response_combination (key nonce : SecretKey curve) (cBytes : Bytes32)
    (point : curve.Point) :
    cBytes.toNat • key.scalar • point + (response curve key nonce cBytes).2 • point =
      nonce.scalar • point := by
  have below : cBytes.toNat % curve.groupOrder * key.scalar % curve.groupOrder ≤
      curve.groupOrder := (Nat.mod_lt _ curve.groupOrder_prime.pos).le
  simp only [← Curve.natCast_smul, response]
  push_cast [ZMod.natCast_mod, Nat.cast_sub below, ZMod.natCast_self]
  module

theorem scalar_mod_ne_zero (key : SecretKey curve) : key.scalar % curve.groupOrder ≠ 0 := by
  rw [Nat.mod_eq_of_lt key.scalar_lt]
  exact key.scalar_ne_zero

theorem scalar_nsmul_ne_zero (key : SecretKey curve) (nonzero : point ≠ 0) :
    key.scalar • point ≠ 0 :=
  Curve.nsmul_ne_zero (scalar_mod_ne_zero key) nonzero

/-- A proof for a seed under a key, where `h` is the hash point: it is valid, its points are the
multiples of the generator and of the hash point by the key, and its numbers are reduced. -/
structure Proves (curve : Curve) (keccak256 : Bytes → Bytes32) (key : SecretKey curve) (seed : ℕ)
    (h : curve.Point) (proof : Proof) : Prop where
  valid : Valid curve keccak256 proof seed (key.scalar • curve.generator) (key.scalar • h) h
  pk_eq : proof.pk = curve.coordinates (key.scalar • curve.generator)
  gamma_eq : proof.gamma = curve.coordinates (key.scalar • h)
  seed_eq : proof.seed = seed
  s_lt : proof.s < curve.groupOrder
  zInv_lt : proof.zInv < curve.fieldSize

/-- What the second half of a round returns is a proof, when the address and the hash it starts
from are those of the nonce. -/
theorem answer_sound {nonce : SecretKey curve} {uAddress : Address} {cBytes : Bytes32}
    (hashed : HashToCurve curve keccak256
      (curve.coordinates (key.scalar • curve.generator)) seed h)
    (witness : uAddress = addressOf curve keccak256 (nonce.scalar • curve.generator))
    (challenged : cBytes.toNat = challenge keccak256 (curve.coordinates h)
      (curve.coordinates (key.scalar • curve.generator)) (curve.coordinates (key.scalar • h))
      (curve.coordinates (nonce.scalar • h)) uAddress)
    (answered : answer curve seed key (curve.coordinates (key.scalar • curve.generator))
      (curve.coordinates (key.scalar • h)) h (key.scalar • h) nonce uAddress cBytes =
        .ok (some proof)) :
    Proves curve keccak256 key seed h proof ∧ proof.uWitness = uAddress := by
  have cSame : (response curve key nonce cBytes).1 • key.scalar • h =
      cBytes.toNat • key.scalar • h := Curve.mod_nsmul _ _
  have sSmall : (response curve key nonce cBytes).2 < curve.groupOrder :=
    Nat.mod_lt _ curve.groupOrder_prime.pos
  unfold answer at answered
  dsimp only at answered
  rw [cSame] at answered
  split at answered
  · cases answered
  rename_i scalarsNonzero
  rw [not_or] at scalarsNonzero
  obtain ⟨_, cgPair, answered⟩ := ok_of_bind answered
  obtain ⟨cgNonzero, rfl⟩ := pair_eq_ok cgPair
  obtain ⟨_, shPair, answered⟩ := ok_of_bind answered
  obtain ⟨shNonzero, rfl⟩ := pair_eq_ok shPair
  split at answered
  · cases answered
  rename_i distinct
  obtain ⟨inv, inverse, answered⟩ := ok_of_bind answered
  cases answered
  refine ⟨⟨⟨?_, ?_, hashed, scalarsNonzero.1, ?_, rfl, rfl, distinct, ?_, ?_, ?_, ?_⟩, rfl, rfl, rfl,
    sSmall, inverseWitness_lt inverse⟩, rfl⟩
  · exact Curve.decode_coordinates (scalar_nsmul_ne_zero key curve.generator_ne_zero)
  · exact Curve.decode_coordinates (scalar_nsmul_ne_zero key hashed.ne_zero)
  · rw [Nat.mod_eq_of_lt sSmall]
    exact scalarsNonzero.2
  · exact inverseWitness_sound (curve.coordinates_lt _ cgNonzero).1 inverse
  · rw [response_combination]
    exact scalar_nsmul_ne_zero nonce curve.generator_ne_zero
  · rw [response_combination]
    exact witness
  · rw [response_combination]
    exact challenged

/-- A round that returns a proof returns one with a witness address. -/
theorem attempt_sound {nonce : SecretKey curve} (hashed : HashToCurve curve keccak256
      (curve.coordinates (key.scalar • curve.generator)) seed h)
    (attempted : attempt curve keccak256 seed key
      (curve.coordinates (key.scalar • curve.generator)) h (key.scalar • h) nonce =
        .ok (some proof)) : Proves curve keccak256 key seed h proof ∧ proof.uWitness ≠ 0 := by
  obtain ⟨u, uPair, attempted⟩ := ok_of_bind attempted
  obtain ⟨uNonzero, rfl⟩ := pair_eq_ok uPair
  dsimp only at attempted
  split at attempted
  · cases attempted
  rename_i witnessNonzero
  obtain ⟨_, hPair, attempted⟩ := ok_of_bind attempted
  obtain ⟨_, rfl⟩ := pair_eq_ok hPair
  obtain ⟨_, gammaPair, attempted⟩ := ok_of_bind attempted
  obtain ⟨_, rfl⟩ := pair_eq_ok gammaPair
  obtain ⟨_, vPair, attempted⟩ := ok_of_bind attempted
  obtain ⟨_, rfl⟩ := pair_eq_ok vPair
  obtain ⟨proves, witness⟩ := answer_sound hashed (addressOf_eq uNonzero).symm rfl attempted
  exact ⟨proves, witness ▸ witnessNonzero⟩

theorem attempts_sound {left drawn : ℕ} {draws : ℕ → SecretKey curve}
    (hashed : HashToCurve curve keccak256
      (curve.coordinates (key.scalar • curve.generator)) seed h)
    (proved : attempts curve keccak256 seed key
      (curve.coordinates (key.scalar • curve.generator)) h (key.scalar • h) draws left drawn =
        .ok proof) : Proves curve keccak256 key seed h proof ∧ proof.uWitness ≠ 0 := by
  induction left generalizing drawn with
  | zero => cases proved
  | succ left inductionHypothesis =>
    obtain ⟨result, attempted, proved⟩ := ok_of_bind proved
    cases result with
    | none => exact inductionHypothesis proved
    | some =>
      cases proved
      exact attempt_sound hashed attempted

/-- Whatever is returned is a proof, whichever nonces were drawn. -/
theorem prove_sound {draws : ℕ → SecretKey curve}
    (proved : prove curve keccak256 fuel seed key draws = .ok proof) :
    ∃ h, Proves curve keccak256 key seed h proof ∧ proof.uWitness ≠ 0 := by
  obtain ⟨_, pkPair, proved⟩ := ok_of_bind proved
  obtain ⟨_, rfl⟩ := pair_eq_ok pkPair
  obtain ⟨h, hashed, proved⟩ := ok_of_bind proved
  exact ⟨h, attempts_sound (hashToCurve_sound hashed) proved⟩

namespace Proves

variable {key : SecretKey curve} {seed : ℕ} {proof : Proof}

variable {h : curve.Point}

section

variable (proves : Proves curve keccak256 key seed h proof)

include proves

theorem publicKey_eq :
    publicKey curve key = .ok proof.pk := by
  rw [proves.pk_eq]
  exact if_neg (scalar_nsmul_ne_zero key curve.generator_ne_zero)

/-- The output point depends on the key and the seed only. -/
theorem gamma_unique {other : Proof} {g : curve.Point}
    (otherProves : Proves curve keccak256 key seed g other) : proof.gamma = other.gamma := by
  have hashed := proves.valid.hash_eq
  have otherHashed := otherProves.valid.hash_eq
  rw [proves.pk_eq] at hashed
  rw [otherProves.pk_eq] at otherHashed
  rw [proves.gamma_eq, otherProves.gamma_eq, hashed.unique otherHashed]

/-- The numbers of a proof are words. -/
theorem words_lt (seedSmall : seed < 2 ^ 256) :
    ∀ word ∈ proof.words, word < 2 ^ 256 := by
  have field := curve.fieldSize_lt
  have order := curve.groupOrder_lt
  have pk := Curve.decode_isSome_iff.mp ⟨_, proves.valid.key_eq⟩
  have gamma := Curve.decode_isSome_iff.mp ⟨_, proves.valid.gamma_eq⟩
  have cGamma := Curve.decode_isSome_iff.mp ⟨_, proves.valid.cGamma_decodes⟩
  have sHash := Curve.decode_isSome_iff.mp ⟨_, proves.valid.sHash_decodes⟩
  have c : proof.c < 2 ^ 256 := by
    rw [proves.valid.challenge_eq]
    exact BitVec.isLt _
  have s := proves.s_lt
  have zInv := proves.zInv_lt
  have witness := proof.uWitness.word.isLt
  have seed := proves.seed_eq
  simp only [Proof.words, List.forall_mem_cons, List.not_mem_nil, false_implies, implies_true,
    and_true]
  omega

end

end Proves

end Rust

/-! ### The prover and the contract -/

/-- For every key, seed and sequence of nonce draws, a proof that the prover returns is one for
the key and the seed, and the contract accepts it once the abscissas of the key, of gamma and of
the hash point are below the group order; and no two sequences of draws give different output
points or random values. -/
theorem prove_accepted_and_unique (curve : Curve) (keccak256 : Bytes → Bytes32)
    (key : SecretKey curve) (seed : ℕ) :
    (∀ fuel draws proof, Rust.prove curve keccak256 fuel seed key draws = .ok proof →
      proof.pk.1 < curve.groupOrder → proof.gamma.1 < curve.groupOrder →
      (∀ h, HashToCurve curve keccak256 proof.pk seed h →
        (curve.coordinates h).1 < curve.groupOrder) →
      Rust.publicKey curve key = .ok proof.pk ∧ proof.seed = seed ∧
        (seed < 2 ^ 256 → ∀ word ∈ proof.words, word < 2 ^ 256) ∧
        Ends (fun gas => Solidity.randomValueFromVRFProof curve keccak256 gas proof seed)
          (output keccak256 proof.gamma).toNat) ∧
    (∀ fuel draws proof otherFuel otherDraws other,
      Rust.prove curve keccak256 fuel seed key draws = .ok proof →
      Rust.prove curve keccak256 otherFuel seed key otherDraws = .ok other →
      proof.gamma = other.gamma ∧ ∀ gas value otherGas otherValue,
        Solidity.randomValueFromVRFProof curve keccak256 gas proof seed = .ok value →
        Solidity.randomValueFromVRFProof curve keccak256 otherGas other seed = .ok otherValue →
        value = otherValue) := by
  constructor
  · intro fuel draws proof proved keyBelow gammaBelow hashBelow
    obtain ⟨h, proves, witnessNonzero⟩ := Rust.prove_sound proved
    rw [proves.pk_eq] at keyBelow
    rw [proves.gamma_eq] at gammaBelow
    exact ⟨proves.publicKey_eq, proves.seed_eq, proves.words_lt,
      Solidity.randomValue_of_valid proves.valid keyBelow gammaBelow
        (hashBelow h proves.valid.hash_eq) witnessNonzero⟩
  · intro fuel draws proof otherFuel otherDraws other proved otherProved
    obtain ⟨_, proves, -⟩ := Rust.prove_sound proved
    obtain ⟨_, otherProves, -⟩ := Rust.prove_sound otherProved
    have same := proves.gamma_unique otherProves
    refine ⟨same, fun gas value otherGas otherValue accepted otherAccepted => ?_⟩
    rw [Solidity.randomValue_eq accepted, Solidity.randomValue_eq otherAccepted, same]

/-- On the small curve and with a constant hash, the key two and the nonce five give a proof that
the contract accepts. -/
theorem prove_accepted_and_unique_small :
    let key : SecretKey Curve.small := ⟨2, by decide, by decide⟩
    let nonce : SecretKey Curve.small := ⟨5, by decide, by decide⟩
    let proof : Proof := {
      pk := (7, 7)
      gamma := (7, 7)
      c := 2
      s := 1
      seed := 9
      uWitness := lowAddress 2
      cGammaWitness := (21, 18)
      sHashWitness := (2, 12)
      zInv := 10 }
    Rust.prove Curve.small (fun _ => 2) 1 9 key (fun _ => nonce) = .ok proof ∧
      Ends (fun gas => Solidity.randomValueFromVRFProof Curve.small (fun _ => 2) gas proof 9) 2 ∧
      ∀ fuel draws other, Rust.prove Curve.small (fun _ => 2) fuel 9 key draws = .ok other →
        other.gamma = (7, 7) := by
  intro key nonce proof
  have proved : Rust.prove Curve.small (fun _ => 2) 1 9 key (fun _ => nonce) = .ok proof := by
    decide +kernel
  have hashes : HashToCurve Curve.small (fun _ => 2) proof.pk 9 Curve.small.generator :=
    .found (.small (by decide)) (by decide +kernel)
  obtain ⟨accepts, unique⟩ := prove_accepted_and_unique Curve.small (fun _ => 2) key 9
  refine ⟨proved, (accepts 1 _ proof proved (by decide) (by decide) ?_).2.2.2, ?_⟩
  · intro h hashed
    rw [← PointHash.unique hashes hashed]
    decide
  · intro fuel draws other otherProved
    exact (unique fuel draws other 1 _ proof otherProved proved).1

end D20.Vrf
