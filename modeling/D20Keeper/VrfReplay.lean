/-
This file is the proof check of the replay code, `vrf.ts`. It has a curve library
and checks the points of a proof directly, where the contract goes through
recovered addresses.

The two agree. What the contract accepts is valid for the replay, provided that
the addresses it compared tell their points apart; and what is valid for the
replay passes the contract once its witnesses are filled in, when the abscissas
that go through the precompile are below the group order.
-/

import D20Keeper.VrfProver

namespace D20.Vrf

open Evm

/-! ### The replay -/

/-- `VRFProof`, with bigints of any size. The witness address is the address that its text
writes, which is what the comparison without regard to case sees of it. -/
structure VRFProof where
  pk : ℤ × ℤ
  gamma : ℤ × ℤ
  c : ℤ
  s : ℤ
  seed : ℤ
  uWitness : Address
  cGammaWitness : ℤ × ℤ
  sHashWitness : ℤ × ℤ
  zInv : ℤ

/-- What `verifyVRFProof` reports. -/
inductive Verdict where
  | valid (randomness : Bytes32)
  | invalid (reason : String)
deriving DecidableEq

/-- Two numbers as words. -/
def natPair (pair : ℤ × ℤ) : ℕ × ℕ := (pair.1.toNat, pair.2.toNat)

namespace Replay

variable (curve : Curve) (keccak256 : Bytes → Bytes32)

/-- `point`. The library takes the pair of two zeros for its zero. -/
def point (p : ℤ × ℤ) : Except Halt curve.Point := do
  require (¬ (p.1 < 0 ∨ curve.fieldSize ≤ p.1 ∨ p.2 < 0 ∨ curve.fieldSize ≤ p.2))
    "Non-canonical point"
  match curve.decode (natPair p) with
  | none => .error (.thrown
      (if p = (0, 0) then "bad point: ZERO" else "bad point: equation left != right"))
  | some q =>
    require (q ≠ 0) "Point at infinity"
    return q

/-- `fieldHash`. -/
def fieldHash (fuel : ℕ) (bytes : Bytes) : Except Halt ℕ := hashBelow curve keccak256 fuel bytes

/-- The loop of `hashToCurve`. -/
def candidates (fuel : ℕ) : ℕ → ℕ → Except Halt curve.Point
  | 0, _ => .error .unfinished
  | rounds + 1, x =>
    let y₂ := (x * x * x + 7) % curve.fieldSize
    let y := y₂ ^ ((curve.fieldSize + 1) / 4) % curve.fieldSize
    if y * y % curve.fieldSize = y₂ then
      point curve (x, (if y % 2 = 1 then curve.fieldSize - y else y : ℕ))
    else do
      let x ← fieldHash curve keccak256 fuel (packed [x])
      candidates fuel rounds x

/-- `hashToCurve`. -/
def hashToCurve (fuel : ℕ) (pk : ℤ × ℤ) (input : ℤ) : Except Halt curve.Point := do
  let x ← fieldHash curve keccak256 fuel
    (packed [1, (natPair pk).1, (natPair pk).2, input.toNat])
  candidates curve keccak256 fuel fuel x

/-- The last ordinate of the sum of the helper points, from their abscissas. -/
def denominator (x₁ x₂ : ℤ) : ℤ :=
  let lz := (x₂ - x₁) % curve.fieldSize
  let dx := lz * lz % curve.fieldSize
  let dy := lz * lz * lz % curve.fieldSize
  if dx = dy then dx else dx * dy % curve.fieldSize

/-- `computeAddress` of an encoded point, which only a point with coordinates has. -/
def computeAddress (u : curve.Point) : Except Halt Address := do
  require (u ≠ 0) "bad point: ZERO"
  return lowAddress (keccak256 (packed [(curve.coordinates u).1, (curve.coordinates u).2]))

/-- The guarded part of `verifyVRFProof`, up to the randomness. -/
def verify (fuel : ℕ) (proof : VRFProof) (expectedKey : ℤ × ℤ) (expectedSeed : ℤ) :
    Except Halt Bytes32 := do
  require (proof.pk.1 = expectedKey.1 ∧ proof.pk.2 = expectedKey.2) "Wrong public key"
  require (proof.seed = expectedSeed) "Wrong request seed"
  require (∀ scalar ∈ [proof.c, proof.s, proof.seed, proof.zInv],
    ¬ (scalar < 0 ∨ 2 ^ 256 - 1 < scalar)) "Scalar outside uint256"
  let pk ← point curve proof.pk
  let gamma ← point curve proof.gamma
  let cg ← point curve proof.cGammaWitness
  let sh ← point curve proof.sHashWitness
  let c := (proof.c % curve.groupOrder).toNat
  let s := (proof.s % curve.groupOrder).toNat
  require (¬ (c = 0 ∨ s = 0)) "Zero scalar"
  let h ← hashToCurve curve keccak256 fuel proof.pk expectedSeed
  require (¬ (c • gamma ≠ cg ∨ s • h ≠ sh)) "Invalid multiplication witness"
  require (proof.cGammaWitness.1 ≠ proof.sHashWitness.1) "Witness points not distinct"
  require (denominator curve proof.cGammaWitness.1 proof.sHashWitness.1 * proof.zInv %
    curve.fieldSize = 1) "Invalid inverse witness"
  let uAddress ← computeAddress curve keccak256 (c • pk + s • curve.generator)
  require (uAddress = proof.uWitness) "Invalid U witness"
  let v := curve.coordinates (cg + sh)
  let derivedC := (keccak256 (packed [2, (curve.coordinates h).1, (curve.coordinates h).2,
    (natPair proof.pk).1, (natPair proof.pk).2, (natPair proof.gamma).1, (natPair proof.gamma).2,
    v.1, v.2] ++ addressBytes uAddress)).toNat
  require ((derivedC : ℤ) = proof.c) "Invalid challenge"
  return keccak256 (Abi.encode [.uint 3, .static [(natPair proof.gamma).1, (natPair proof.gamma).2]])

/-- `verifyVRFProof`: there is no verdict before the loops end. -/
def verifyVRFProof (fuel : ℕ) (proof : VRFProof) (expectedKey : ℤ × ℤ) (expectedSeed : ℤ) :
    Option Verdict :=
  match verify curve keccak256 fuel proof expectedKey expectedSeed with
  | .ok randomness => some (.valid randomness)
  | .error (.thrown message) => some (.invalid message)
  | .error .unfinished => none

/-! ### Points -/

variable {curve keccak256}

variable {q : curve.Point} {fuel : ℕ}

/-- A pair has a point exactly when it is in range and decodes. -/
theorem point_eq_ok {p : ℤ × ℤ} :
    point curve p = .ok q ↔ 0 ≤ p.1 ∧ 0 ≤ p.2 ∧ curve.decode (natPair p) = some q := by
  constructor
  · intro passed
    obtain ⟨_, range, passed⟩ := ok_of_bind passed
    have range := require_eq_ok.mp range
    refine ⟨by omega, by omega, ?_⟩
    split at passed
    · cases passed
    · rename_i decoded
      obtain ⟨_, _, passed⟩ := ok_of_bind passed
      rw [decoded, Except.ok.inj passed]
  · rintro ⟨xNonneg, yNonneg, decoded⟩
    obtain ⟨xSmall, ySmall, -⟩ := Curve.decode_isSome_iff.mp ⟨q, decoded⟩
    have nonzero := ((curve.decode_eq_some _ _).mp decoded).1
    have range : ¬ (p.1 < 0 ∨ curve.fieldSize ≤ p.1 ∨ p.2 < 0 ∨ curve.fieldSize ≤ p.2) := by
      simp only [natPair] at xSmall ySmall
      omega
    unfold point
    rw [require_of range, ok_bind, decoded]
    dsimp only
    rw [require_of nonzero, ok_bind]
    rfl

theorem candidate_square (x : ℕ) : (x * x * x + 7) % curve.fieldSize = curve.ySquared x := by
  rw [Curve.ySquared, ← pow_two, ← pow_succ]

theorem candidate_root (value : ℕ) :
    value ^ ((curve.fieldSize + 1) / 4) % curve.fieldSize = curve.squareRoot value := rfl

/-- One round of the loop, by whether the abscissa has a point. -/
theorem candidates_succ {rounds x : ℕ} (small : x < curve.fieldSize) :
    candidates curve keccak256 fuel (rounds + 1) x =
      match curve.lift x 0 with
      | some q => .ok q
      | none => hashBelow curve keccak256 fuel (packed [x]) >>= fun next =>
          candidates curve keccak256 fuel rounds next := by
  rw [candidates]
  simp only [candidate_square, candidate_root, ← curve.ordinate_zero_eq]
  split
  · rename_i square
    rw [← pow_two] at square
    obtain ⟨q, lifted⟩ := (curve.exists_lift_iff small).mpr square
    rw [lifted]
    exact point_eq_ok.mpr ⟨Int.natCast_nonneg _, Int.natCast_nonneg _, lifted⟩
  · rename_i notSquare
    rw [← pow_two] at notSquare
    rw [curve.lift_eq_none small notSquare]
    rfl

theorem candidates_sound {rounds : ℕ} {data : Bytes} {x : ℕ}
    (hashed : FieldHash curve keccak256 data x)
    (found : candidates curve keccak256 fuel rounds x = .ok q) :
    PointHash curve keccak256 data q := by
  induction rounds generalizing data x with
  | zero => cases found
  | succ rounds inductionHypothesis =>
    rw [candidates_succ hashed.lt] at found
    split at found
    · rename_i lifted
      cases found
      exact .found hashed lifted
    · rename_i failed
      obtain ⟨next, rehashed, found⟩ := ok_of_bind found
      exact .missed hashed failed (inductionHypothesis (hashBelow_sound rehashed) found)

theorem candidates_ends {data : Bytes} (hashed : PointHash curve keccak256 data q) :
    ∃ enough, ∀ fuel rounds, enough ≤ fuel → enough ≤ rounds →
      (hashBelow curve keccak256 fuel data >>= fun x =>
        candidates curve keccak256 fuel rounds x) = .ok q := by
  induction hashed with
  | found hashed lifted =>
    obtain ⟨bound, ends⟩ := hashBelow_ends hashed
    refine ⟨bound + 1, fun fuel rounds fuelEnough roundsEnough => ?_⟩
    obtain ⟨rounds, rfl⟩ := Nat.exists_eq_add_of_le' (Nat.le_of_add_left_le roundsEnough)
    have hashedHere : hashBelow curve keccak256 fuel _ = .ok _ := ends fuel (by omega)
    rw [hashedHere, ok_bind, candidates_succ hashed.lt, lifted]
  | missed hashed failed _ inductionHypothesis =>
    obtain ⟨bound, ends⟩ := hashBelow_ends hashed
    obtain ⟨later, endsLater⟩ := inductionHypothesis
    refine ⟨bound + later + 1, fun fuel rounds fuelEnough roundsEnough => ?_⟩
    obtain ⟨rounds, rfl⟩ := Nat.exists_eq_add_of_le' (Nat.le_of_add_left_le roundsEnough)
    have hashedHere : hashBelow curve keccak256 fuel _ = .ok _ := ends fuel (by omega)
    rw [hashedHere, ok_bind, candidates_succ hashed.lt, failed]
    exact endsLater fuel rounds (by omega) (by omega)

theorem hashToCurve_sound {pk : ℤ × ℤ} {input : ℤ}
    (found : hashToCurve curve keccak256 fuel pk input = .ok q) :
    HashToCurve curve keccak256 (natPair pk) input.toNat q := by
  obtain ⟨x, hashed, found⟩ := ok_of_bind found
  exact candidates_sound (hashBelow_sound hashed) found

theorem hashToCurve_ends {pk : ℤ × ℤ} {input : ℤ}
    (hashed : HashToCurve curve keccak256 (natPair pk) input.toNat q) :
    Ends (fun fuel => hashToCurve curve keccak256 fuel pk input) q := by
  obtain ⟨enough, ends⟩ := candidates_ends hashed
  exact ⟨enough, fun fuel bound => ends fuel fuel bound bound⟩

/-- The denominator is the one of the sum in projective coordinates. -/
theorem denominator_natCast {x₁ : ℕ} (x₂ : ℕ) (small : x₁ < curve.fieldSize) :
    denominator curve x₁ x₂ = sumDenominator curve x₁ x₂ := by
  have gap : ((x₂ : ℤ) - x₁) % curve.fieldSize =
      ((x₂ + (curve.fieldSize - x₁) : ℕ) : ℤ) % curve.fieldSize := by
    rw [Nat.cast_add, Nat.cast_sub small.le, ← Int.add_emod_right]
    congr 1
    ring
  have square (value : ℕ) : (value : ℤ) * value % curve.fieldSize =
      (value ^ 2 % curve.fieldSize : ℕ) := by
    rw [← Nat.cast_mul, ← Int.natCast_mod, pow_two]
  have cube (value : ℕ) : (value : ℤ) * value * value % curve.fieldSize =
      (value ^ 3 % curve.fieldSize : ℕ) := by
    rw [← Nat.cast_mul, ← Nat.cast_mul, ← Int.natCast_mod, pow_succ, pow_two]
  simp only [denominator, sumDenominator, gap, ← Int.natCast_mod]
  simp only [square, cube, Nat.cast_inj]
  split
  · rfl
  · rw [← Nat.cast_mul, ← Int.natCast_mod]

/-! ### The check and the meaning of a proof -/

theorem toNat_emod {value : ℤ} (nonneg : 0 ≤ value) (modulus : ℕ) :
    (value % modulus).toNat = value.toNat % modulus := by
  rw [Int.toNat_emod nonneg (Int.natCast_nonneg _), Int.toNat_natCast]

theorem computeAddress_eq_ok {u : curve.Point} {address : Address} :
    computeAddress curve keccak256 u = .ok address ↔
      u ≠ 0 ∧ address = addressOf curve keccak256 u := by
  constructor
  · intro computed
    obtain ⟨_, required, computed⟩ := ok_of_bind computed
    have nonzero := require_eq_ok.mp required
    rw [addressOf_eq nonzero]
    exact ⟨nonzero, (Except.ok.inj computed).symm⟩
  · rintro ⟨nonzero, rfl⟩
    unfold computeAddress
    rw [require_of nonzero, ok_bind, addressOf_eq nonzero]
    rfl

end Replay

/-- The words of a proof of the replay. -/
def VRFProof.toContract (proof : VRFProof) : Proof where
  pk := natPair proof.pk
  gamma := natPair proof.gamma
  c := proof.c.toNat
  s := proof.s.toNat
  seed := proof.seed.toNat
  uWitness := proof.uWitness
  cGammaWitness := natPair proof.cGammaWitness
  sHashWitness := natPair proof.sHashWitness
  zInv := proof.zInv.toNat

/-- Two words as bigints. -/
def intPair (pair : ℕ × ℕ) : ℤ × ℤ := (pair.1, pair.2)

/-- A proof of the contract as the replay reads it. -/
def VRFProof.ofContract (proof : Proof) : VRFProof where
  pk := intPair proof.pk
  gamma := intPair proof.gamma
  c := proof.c
  s := proof.s
  seed := proof.seed
  uWitness := proof.uWitness
  cGammaWitness := intPair proof.cGammaWitness
  sHashWitness := intPair proof.sHashWitness
  zInv := proof.zInv

namespace Replay

variable {curve : Curve} {keccak256 : Bytes → Bytes32}

/-- A proof that passes is for the expected key and seed, and valid. -/
theorem verify_sound {fuel : ℕ} {proof : VRFProof} {expectedKey : ℤ × ℤ} {expectedSeed : ℤ}
    {randomness : Bytes32}
    (verified : verify curve keccak256 fuel proof expectedKey expectedSeed = .ok randomness) :
    proof.pk = expectedKey ∧ proof.seed = expectedSeed ∧
      randomness = output keccak256 proof.toContract.gamma ∧
      ∃ key gamma hash,
        Valid curve keccak256 proof.toContract expectedSeed.toNat key gamma hash := by
  obtain ⟨_, keyRequired, verified⟩ := ok_of_bind verified
  obtain ⟨_, seedRequired, verified⟩ := ok_of_bind verified
  obtain ⟨_, rangeRequired, verified⟩ := ok_of_bind verified
  obtain ⟨key, keyPoint, verified⟩ := ok_of_bind verified
  obtain ⟨gamma, gammaPoint, verified⟩ := ok_of_bind verified
  obtain ⟨cg, cgPoint, verified⟩ := ok_of_bind verified
  obtain ⟨sh, shPoint, verified⟩ := ok_of_bind verified
  obtain ⟨_, scalarsRequired, verified⟩ := ok_of_bind verified
  obtain ⟨h, hashed, verified⟩ := ok_of_bind verified
  obtain ⟨_, productsRequired, verified⟩ := ok_of_bind verified
  obtain ⟨_, distinctRequired, verified⟩ := ok_of_bind verified
  obtain ⟨_, inverseRequired, verified⟩ := ok_of_bind verified
  obtain ⟨uAddress, computed, verified⟩ := ok_of_bind verified
  obtain ⟨_, witnessRequired, verified⟩ := ok_of_bind verified
  obtain ⟨_, challengeRequired, returned⟩ := ok_of_bind verified
  obtain ⟨keyX, keyY⟩ := require_eq_ok.mp keyRequired
  have range := require_eq_ok.mp rangeRequired
  simp only [List.forall_mem_cons, List.not_mem_nil, false_implies, implies_true, and_true,
    not_or, not_lt] at range
  obtain ⟨⟨cNonneg, -⟩, ⟨sNonneg, -⟩, -, zNonneg, -⟩ := range
  obtain ⟨-, -, keyDecodes⟩ := point_eq_ok.mp keyPoint
  obtain ⟨-, -, gammaDecodes⟩ := point_eq_ok.mp gammaPoint
  obtain ⟨cgNonneg, -, cgDecodes⟩ := point_eq_ok.mp cgPoint
  obtain ⟨shNonneg, -, shDecodes⟩ := point_eq_ok.mp shPoint
  have scalars := require_eq_ok.mp scalarsRequired
  have products := require_eq_ok.mp productsRequired
  have inverse := require_eq_ok.mp inverseRequired
  obtain ⟨combinationNonzero, rfl⟩ := computeAddress_eq_ok.mp computed
  have witness := require_eq_ok.mp witnessRequired
  have challenged := require_eq_ok.mp challengeRequired
  simp only [toNat_emod cNonneg, toNat_emod sNonneg, Curve.mod_nsmul, not_or, ne_eq, not_not]
    at scalars products combinationNonzero witness challenged
  obtain ⟨rfl, rfl⟩ := products
  have cgPair := ((curve.decode_eq_some _ _).mp cgDecodes).2
  have shPair := ((curve.decode_eq_some _ _).mp shDecodes).2
  have cgX : proof.cGammaWitness.1 = ((natPair proof.cGammaWitness).1 : ℕ) :=
    (Int.toNat_of_nonneg cgNonneg).symm
  have shX : proof.sHashWitness.1 = ((natPair proof.sHashWitness).1 : ℕ) :=
    (Int.toNat_of_nonneg shNonneg).symm
  refine ⟨Prod.ext keyX keyY, require_eq_ok.mp seedRequired, ?_, key, gamma, h, keyDecodes,
    gammaDecodes, hashToCurve_sound hashed, scalars.1, scalars.2, cgPair.symm, shPair.symm, ?_, ?_,
    combinationNonzero, ?_, ?_⟩
  · rw [Solidity.encode_output] at returned
    exact (Except.ok.inj returned).symm
  · intro same
    exact require_eq_ok.mp distinctRequired (by rw [cgX, shX]; exact congrArg Nat.cast same)
  · have cgSmall := (Curve.decode_isSome_iff.mp ⟨_, cgDecodes⟩).1
    rw [cgX, shX, denominator_natCast _ cgSmall, ← Int.toNat_of_nonneg zNonneg, ← Nat.cast_mul,
      ← Int.natCast_mod] at inverse
    exact Nat.cast_injective inverse
  · exact witness.symm
  · rw [witness] at challenged
    exact (congrArg Int.toNat challenged).symm

theorem point_intPair {pair : ℕ × ℕ} {q : curve.Point} (decoded : curve.decode pair = some q) :
    point curve (intPair pair) = .ok q :=
  point_eq_ok.mpr ⟨Int.natCast_nonneg _, Int.natCast_nonneg _, decoded⟩

/-- A valid proof of words passes for its key and seed. -/
theorem verify_ends {proof : Proof} {key gamma hash : curve.Point}
    (valid : Valid curve keccak256 proof proof.seed key gamma hash)
    (words : ∀ word ∈ proof.words, word < 2 ^ 256) :
    Ends (fun fuel => verify curve keccak256 fuel (.ofContract proof) (intPair proof.pk) proof.seed)
      (output keccak256 proof.gamma) := by
  have range : ∀ scalar ∈ [(proof.c : ℤ), proof.s, proof.seed, proof.zInv],
      ¬ (scalar < 0 ∨ 2 ^ 256 - 1 < scalar) := by
    simp only [Proof.words, List.forall_mem_cons, List.not_mem_nil, false_implies, implies_true,
      and_true] at words ⊢
    omega
  have cReduced : ((proof.c : ℤ) % curve.groupOrder).toNat = proof.c % curve.groupOrder :=
    toNat_emod (Int.natCast_nonneg _) _
  have sReduced : ((proof.s : ℤ) % curve.groupOrder).toNat = proof.s % curve.groupOrder :=
    toNat_emod (Int.natCast_nonneg _) _
  have scalars : ¬ (((proof.c : ℤ) % curve.groupOrder).toNat = 0 ∨
      ((proof.s : ℤ) % curve.groupOrder).toNat = 0) := by
    rw [cReduced, sReduced]
    exact not_or.mpr ⟨valid.c_ne_zero, valid.s_ne_zero⟩
  have products : ¬ (((proof.c : ℤ) % curve.groupOrder).toNat • gamma ≠ proof.c • gamma ∨
      ((proof.s : ℤ) % curve.groupOrder).toNat • hash ≠ proof.s • hash) := by
    rw [cReduced, sReduced, Curve.mod_nsmul, Curve.mod_nsmul]
    exact not_or.mpr ⟨not_not.mpr rfl, not_not.mpr rfl⟩
  have computed : computeAddress curve keccak256 (((proof.c : ℤ) % curve.groupOrder).toNat • key +
      ((proof.s : ℤ) % curve.groupOrder).toNat • curve.generator) = .ok proof.uWitness := by
    rw [cReduced, sReduced, Curve.mod_nsmul, Curve.mod_nsmul]
    exact computeAddress_eq_ok.mpr ⟨valid.witness_ne_zero, valid.witness_eq⟩
  have inverse : denominator curve (intPair proof.cGammaWitness).1 (intPair proof.sHashWitness).1 *
      proof.zInv % curve.fieldSize = 1 := by
    have small := (Curve.decode_isSome_iff.mp ⟨_, valid.cGamma_decodes⟩).1
    unfold intPair
    rw [denominator_natCast _ small, ← Nat.cast_mul, ← Int.natCast_mod, valid.inverse]
    rfl
  have distinct : (intPair proof.cGammaWitness).1 ≠ (intPair proof.sHashWitness).1 := fun same =>
    valid.distinct (Nat.cast_injective same)
  obtain ⟨enough, ends⟩ : Ends (fun fuel =>
      hashToCurve curve keccak256 fuel (intPair proof.pk) proof.seed) hash :=
    hashToCurve_ends valid.hash_eq
  refine ⟨enough, fun fuel bound => ?_⟩
  have hashed : hashToCurve curve keccak256 fuel (intPair proof.pk) proof.seed = .ok hash :=
    ends fuel bound
  refine bind_of_ok (require_of ⟨rfl, rfl⟩) (bind_of_ok (require_of rfl)
    (bind_of_ok (require_of range) (bind_of_ok (point_intPair valid.key_eq)
    (bind_of_ok (point_intPair valid.gamma_eq) (bind_of_ok (point_intPair valid.cGamma_decodes)
    (bind_of_ok (point_intPair valid.sHash_decodes) (bind_of_ok (require_of scalars)
    (bind_of_ok hashed (bind_of_ok (require_of products) (bind_of_ok (require_of distinct)
    (bind_of_ok (require_of inverse) (bind_of_ok computed (bind_of_ok (require_of rfl)
    (bind_of_ok (require_of (congrArg Nat.cast valid.challenge_eq.symm)) ?_))))))))))))))
  exact congrArg (fun data => Except.ok (keccak256 data)) (Solidity.encode_output _)

theorem verifyVRFProof_eq_valid {fuel : ℕ} {proof : VRFProof} {expectedKey : ℤ × ℤ}
    {expectedSeed : ℤ} {randomness : Bytes32} :
    verifyVRFProof curve keccak256 fuel proof expectedKey expectedSeed =
        some (.valid randomness) ↔
      verify curve keccak256 fuel proof expectedKey expectedSeed = .ok randomness := by
  unfold verifyVRFProof
  split
  · rename_i value verified
    rw [verified]
    simp
  · rename_i message failed
    rw [failed]
    simp
  · rename_i failed
    rw [failed]
    simp

end Replay

/-! ### The replay and the contract -/

/-- A proof for the contract with the witnesses filled in as they are defined: the address of the
combination with the generator, the two products, and the inverse of the denominator of their
sum. -/
def VRFProof.filled (curve : Curve) (keccak256 : Bytes → Bytes32) (proof : VRFProof)
    (key gamma hash : curve.Point) : Proof :=
  let cGamma := curve.coordinates (proof.c.toNat • gamma)
  let sHash := curve.coordinates (proof.s.toNat • hash)
  { proof.toContract with
    uWitness := addressOf curve keccak256
      (proof.c.toNat • key + proof.s.toNat • curve.generator)
    cGammaWitness := cGamma
    sHashWitness := sHash
    zInv := sumInverse curve cGamma.1 sHash.1 }

/-- Filling in the witnesses of a valid proof keeps it valid. -/
theorem Valid.filled {curve : Curve} {keccak256 : Bytes → Bytes32} {proof : VRFProof} {seed : ℕ}
    {key gamma hash : curve.Point}
    (valid : Valid curve keccak256 proof.toContract seed key gamma hash) :
    Valid curve keccak256 (proof.filled curve keccak256 key gamma hash) seed key gamma hash := by
  have distinct := valid.distinct
  have inverse := valid.inverse
  rw [valid.cGamma_eq, valid.sHash_eq] at distinct inverse
  have nonzero : sumDenominator curve (curve.coordinates (proof.toContract.c • gamma)).1
      (curve.coordinates (proof.toContract.s • hash)).1 ≠ 0 := by
    intro zero
    rw [zero, zero_mul, Nat.zero_mod] at inverse
    exact absurd inverse zero_ne_one
  have challenged := valid.challenge_eq
  rw [valid.witness_eq] at challenged
  exact ⟨valid.key_eq, valid.gamma_eq, valid.hash_eq, valid.c_ne_zero, valid.s_ne_zero, rfl, rfl,
    distinct, sumDenominator_mul_inverse curve nonzero, valid.witness_ne_zero, rfl, challenged⟩

/-- For every key, proof and seed: what the contract accepts, the replay reports valid with the
same randomness; and what the replay reports valid, the contract accepts once the witnesses are
filled in, when the abscissas of the key, of gamma and of the hash point are below the group
order. -/
theorem replay_agrees_with_contract (curve : Curve) (keccak256 : Bytes → Bytes32) :
    (∀ (key : ℕ × ℕ) (seed : ℕ) (proof : Proof) (gas value : ℕ),
      proof.pk = key → proof.seed = seed → (∀ word ∈ proof.words, word < 2 ^ 256) →
      DistinctAddresses curve keccak256 proof seed →
      Solidity.randomValueFromVRFProof curve keccak256 gas proof seed = .ok value →
      ∃ randomness : Bytes32, randomness.toNat = value ∧ ∃ enough, ∀ fuel, enough ≤ fuel →
        Replay.verifyVRFProof curve keccak256 fuel (.ofContract proof) (intPair key) seed =
          some (.valid randomness)) ∧
    (∀ (expectedKey : ℤ × ℤ) (expectedSeed : ℤ) (proof : VRFProof) (fuel : ℕ)
      (randomness : Bytes32),
      Replay.verifyVRFProof curve keccak256 fuel proof expectedKey expectedSeed =
        some (.valid randomness) →
      proof.pk = expectedKey ∧ proof.seed = expectedSeed ∧
      ∃ key gamma hash, curve.decode (natPair proof.pk) = some key ∧
        curve.decode (natPair proof.gamma) = some gamma ∧
        HashToCurve curve keccak256 (natPair proof.pk) expectedSeed.toNat hash ∧
        ((curve.coordinates key).1 < curve.groupOrder →
          (curve.coordinates gamma).1 < curve.groupOrder →
          (curve.coordinates hash).1 < curve.groupOrder →
          DistinctAddresses curve keccak256 (proof.filled curve keccak256 key gamma hash)
            expectedSeed.toNat →
          Ends (fun gas => Solidity.randomValueFromVRFProof curve keccak256 gas
            (proof.filled curve keccak256 key gamma hash) expectedSeed.toNat)
            randomness.toNat)) := by
  constructor
  · rintro key seed proof gas value rfl rfl words separate accepted
    obtain ⟨_, _, _, valid⟩ := Solidity.valid_of_randomValue accepted separate
    obtain ⟨enough, ends⟩ := Replay.verify_ends valid words
    exact ⟨_, (Solidity.randomValue_eq accepted).symm, enough, fun fuel bound =>
      Replay.verifyVRFProof_eq_valid.mpr (ends fuel bound)⟩
  · intro expectedKey expectedSeed proof fuel randomness reported
    obtain ⟨keySame, seedSame, rfl, key, gamma, hash, valid⟩ :=
      Replay.verify_sound (Replay.verifyVRFProof_eq_valid.mp reported)
    refine ⟨keySame, seedSame, key, gamma, hash, valid.key_eq, valid.gamma_eq, valid.hash_eq, ?_⟩
    intro keyBelow gammaBelow hashBelow separate
    refine Solidity.randomValue_of_valid valid.filled keyBelow gammaBelow hashBelow fun zero => ?_
    have same : addressOf curve keccak256 (proof.c.toNat • key +
        proof.s.toNat • curve.generator) = addressOf curve keccak256 0 := by
      rw [addressOf_zero]
      exact zero
    exact valid.witness_ne_zero (separate (.combination valid.key_eq) .infinity same)

/-- On the small curve, with a hash that keeps the coordinates of a point and is constant
otherwise, a proof of the key two passes on both sides. -/
theorem replay_agrees_with_contract_small :
    let keccak256 : Bytes → Bytes32 := fun data =>
      if data.length = 64 then
        BitVec.ofNat 256 ((data.getD 31 0).toNat * 64 + (data.getD 63 0).toNat)
      else 2
    let proof : Proof := {
      pk := (7, 7)
      gamma := (7, 7)
      c := 2
      s := 1
      seed := 9
      uWitness := lowAddress 780
      cGammaWitness := (21, 18)
      sHashWitness := (2, 12)
      zInv := 10 }
    Solidity.randomValueFromVRFProof Curve.small keccak256 1 proof 9 = .ok 2 ∧
      (∃ enough, ∀ fuel, enough ≤ fuel →
        Replay.verifyVRFProof Curve.small keccak256 fuel (.ofContract proof) (7, 7) 9 =
          some (.valid 2)) ∧
      Ends (fun gas => Solidity.randomValueFromVRFProof Curve.small keccak256 gas proof 9) 2 := by
  intro keccak256 proof
  have injective : ∀ first second : Curve.small.Point, addressOf Curve.small keccak256 first =
      addressOf Curve.small keccak256 second → first = second := by
    decide +kernel
  have accepted : Solidity.randomValueFromVRFProof Curve.small keccak256 1 proof 9 = .ok 2 := by
    decide +kernel
  obtain ⟨accepts, reports⟩ := replay_agrees_with_contract Curve.small keccak256
  obtain ⟨randomness, same, enough, valid⟩ := accepts (7, 7) 9 proof 1 2 rfl rfl
    (by decide) (fun _ _ _ _ => injective _ _) accepted
  obtain rfl : randomness = 2 := BitVec.eq_of_toNat_eq same
  obtain ⟨-, -, key, gamma, hash, keyDecodes, gammaDecodes, hashed, filled⟩ :=
    reports (7, 7) 9 (.ofContract proof) enough 2 (valid enough le_rfl)
  have generator : HashToCurve Curve.small keccak256 proof.pk 9 Curve.small.generator :=
    .found (.small (by decide +kernel)) (by decide +kernel)
  obtain rfl : Curve.small.generator = hash := PointHash.unique generator hashed
  have two : Curve.small.decode (7, 7) = some (2 • Curve.small.generator) := by
    decide +kernel
  obtain rfl : 2 • Curve.small.generator = key := Option.some.inj (two.symm.trans keyDecodes)
  obtain rfl : 2 • Curve.small.generator = gamma := Option.some.inj (two.symm.trans gammaDecodes)
  have same : (VRFProof.ofContract proof).filled Curve.small keccak256
      (2 • Curve.small.generator) (2 • Curve.small.generator) Curve.small.generator = proof := by
    decide +kernel
  rw [same] at filled
  exact ⟨accepted, ⟨enough, valid⟩, filled (by decide +kernel) (by decide +kernel)
    (by decide +kernel) fun _ _ _ _ => injective _ _⟩

/-- A proof that the prover returns passes the replay for the prover's key and seed, whichever nonces
were drawn and wherever the abscissas of its points lie. -/
theorem prove_passes_replay (curve : Curve) (keccak256 : Bytes → Bytes32) (key : SecretKey curve)
    (seed fuel : ℕ) (draws : ℕ → SecretKey curve) (proof : Proof) (small : seed < 2 ^ 256)
    (proved : Rust.prove curve keccak256 fuel seed key draws = .ok proof) :
    Rust.publicKey curve key = .ok proof.pk ∧ ∃ enough, ∀ fuel, enough ≤ fuel →
      Replay.verifyVRFProof curve keccak256 fuel (.ofContract proof) (intPair proof.pk) seed =
        some (.valid (output keccak256 proof.gamma)) := by
  obtain ⟨h, proves, -⟩ := Rust.prove_sound proved
  obtain rfl := proves.seed_eq
  obtain ⟨enough, ends⟩ := Replay.verify_ends proves.valid (proves.words_lt small)
  exact ⟨proves.publicKey_eq, enough, fun fuel bound =>
    Replay.verifyVRFProof_eq_valid.mpr (ends fuel bound)⟩

theorem prove_passes_replay_small : ∃ proof enough, ∀ fuel, enough ≤ fuel →
    Replay.verifyVRFProof Curve.small (fun _ => 2) fuel (.ofContract proof) (7, 7) 9 =
      some (.valid 2) := by
  have proved : Rust.prove Curve.small (fun _ => 2) 1 9 ⟨2, by decide, by decide⟩
      (fun _ => ⟨5, by decide, by decide⟩) =
      .ok ⟨(7, 7), (7, 7), 2, 1, 9, lowAddress 2, (21, 18), (2, 12), 10⟩ := by
    decide +kernel
  exact ⟨_, (prove_passes_replay Curve.small _ _ 9 1 _ _ (by decide) proved).2⟩

end D20.Vrf
