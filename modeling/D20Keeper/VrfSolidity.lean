/-
This file is the vendored proof check of the contracts, `VRF.sol`. It never
multiplies a point: it has the precompile recover the address of the product and
compares it with the address of a point that the proof supplies, and it adds two
points in projective coordinates with a supplied inverse.

The main results compare it with the meaning of a proof. A valid proof passes
when the abscissas that go through the precompile are below the group order, and
a proof that passes is valid as long as no two of the points compared by address
share one.
-/

import D20Keeper.VrfScheme

namespace D20.Vrf

open Evm

/-! ### The contract -/

namespace Solidity

/-- Multiplication modulo a number. -/
def mulmod (first second modulus : ℕ) : ℕ := first * second % modulus

/-- Addition modulo a number. -/
def addmod (first second modulus : ℕ) : ℕ := (first + second) % modulus

/-- Subtraction of words in an unchecked block. -/
def uncheckedSub (first second : ℕ) : ℕ := (first + 2 ^ 256 - second) % 2 ^ 256

variable (curve : Curve) (keccak256 : Bytes → Bytes32)

/-- `_bigModExp`. -/
def bigModExp (base exponent : ℕ) : ℕ := base ^ exponent % curve.fieldSize

/-- `SQRT_POWER`. -/
def sqrtPower : ℕ := (curve.fieldSize + 1) >>> 2

/-- `_squareRoot`. -/
def squareRoot (x : ℕ) : ℕ := bigModExp curve x (sqrtPower curve)

/-- `_ySquared`. -/
def ySquared (x : ℕ) : ℕ :=
  let xCubed := mulmod x (mulmod x x curve.fieldSize) curve.fieldSize
  addmod xCubed 7 curve.fieldSize

/-- `_isOnCurve`. -/
def isOnCurve (p : ℕ × ℕ) : Except Halt Bool := do
  require (p.1 < curve.fieldSize) "invalid x-ordinate"
  require (p.2 < curve.fieldSize) "invalid y-ordinate"
  return ySquared curve p.1 = mulmod p.2 p.2 curve.fieldSize

variable (fuel : ℕ)

/-- `_fieldHash`. -/
def fieldHash (b : Bytes) : Except Halt ℕ := hashBelow curve keccak256 fuel b

/-- `_newCandidateSecp256k1Point`. -/
def newCandidateSecp256k1Point (b : Bytes) : Except Halt (ℕ × ℕ) := do
  let x ← fieldHash curve keccak256 fuel b
  let y := squareRoot curve (ySquared curve x)
  return (x, if y % 2 = 1 then uncheckedSub curve.fieldSize y else y)

/-- The loop of `_hashToCurve`. -/
def retryCandidates (fuel : ℕ) : ℕ → ℕ × ℕ → Except Halt (ℕ × ℕ)
  | 0, _ => .error .unfinished
  | rounds + 1, rv => do
    if ← isOnCurve curve rv then return rv
    else
      let next ← newCandidateSecp256k1Point curve keccak256 fuel (packed [rv.1])
      retryCandidates fuel rounds next

/-- `_hashToCurve`. -/
def hashToCurve (pk : ℕ × ℕ) (input : ℕ) : Except Halt (ℕ × ℕ) := do
  let rv ← newCandidateSecp256k1Point curve keccak256 fuel (packed [1, pk.1, pk.2, input])
  retryCandidates curve keccak256 fuel fuel rv

/-- `_ecmulVerify`. -/
def ecmulVerify (multiplicand : ℕ × ℕ) (scalar : ℕ) (product : ℕ × ℕ) : Except Halt Bool := do
  require (scalar ≠ 0) "zero scalar"
  let x := multiplicand.1
  let v := parityByte multiplicand.2
  let scalarTimesX := mulmod scalar x curve.groupOrder
  let actual := ecrecover curve keccak256 0 v x scalarTimesX
  let expected := pairAddress keccak256 product
  return actual = expected

/-- `_projectiveSub`. -/
def projectiveSub (x₁ z₁ x₂ z₂ : ℕ) : ℕ × ℕ :=
  let num₁ := mulmod z₂ x₁ curve.fieldSize
  let num₂ := mulmod (uncheckedSub curve.fieldSize x₂) z₁ curve.fieldSize
  (addmod num₁ num₂ curve.fieldSize, mulmod z₁ z₂ curve.fieldSize)

/-- `_projectiveMul`. -/
def projectiveMul (x₁ z₁ x₂ z₂ : ℕ) : ℕ × ℕ :=
  (mulmod x₁ x₂ curve.fieldSize, mulmod z₁ z₂ curve.fieldSize)

/-- `_projectiveECAdd`. -/
def projectiveECAdd (px py qx qy : ℕ) : ℕ × ℕ × ℕ :=
  let lx := addmod qy (uncheckedSub curve.fieldSize py) curve.fieldSize
  let lz := addmod qx (uncheckedSub curve.fieldSize px) curve.fieldSize
  let s := projectiveMul curve lx lz lx lz
  let s := projectiveSub curve s.1 s.2 px 1
  let (sx, dx) := projectiveSub curve s.1 s.2 qx 1
  let s := projectiveSub curve px 1 sx dx
  let s := projectiveMul curve s.1 s.2 lx lz
  let (sy, dy) := projectiveSub curve s.1 s.2 py 1
  if dx ≠ dy then
    (mulmod sx dy curve.fieldSize, mulmod sy dx curve.fieldSize, mulmod dx dy curve.fieldSize)
  else (sx, sy, dx)

/-- `_affineECAdd`. -/
def affineECAdd (p₁ p₂ : ℕ × ℕ) (invZ : ℕ) : Except Halt (ℕ × ℕ) := do
  let sum := projectiveECAdd curve p₁.1 p₁.2 p₂.1 p₂.2
  require (mulmod sum.2.2 invZ curve.fieldSize = 1) "invZ must be inverse of z"
  return (mulmod sum.1 invZ curve.fieldSize, mulmod sum.2.1 invZ curve.fieldSize)

/-- `_verifyLinearCombinationWithGenerator`. -/
def verifyLinearCombinationWithGenerator (c : ℕ) (p : ℕ × ℕ) (s : ℕ) (lcWitness : Address) :
    Except Halt Bool := do
  require (lcWitness ≠ 0) "bad witness"
  let v := parityByte p.2
  let pseudoHash := uncheckedSub curve.groupOrder (mulmod p.1 s curve.groupOrder)
  let pseudoSignature := mulmod c p.1 curve.groupOrder
  let computed := ecrecover curve keccak256 pseudoHash v p.1 pseudoSignature
  return computed = lcWitness

/-- `_linearCombination`. -/
def linearCombination (c : ℕ) (p₁ cp₁Witness : ℕ × ℕ) (s : ℕ) (p₂ sp₂Witness : ℕ × ℕ)
    (zInv : ℕ) : Except Halt (ℕ × ℕ) := do
  require (cp₁Witness.1 % curve.fieldSize ≠ sp₂Witness.1 % curve.fieldSize)
    "points in sum must be distinct"
  demand (ecmulVerify curve keccak256 p₁ c cp₁Witness) "First mul check failed"
  demand (ecmulVerify curve keccak256 p₂ s sp₂Witness) "Second mul check failed"
  affineECAdd curve cp₁Witness sp₂Witness zInv

/-- `_scalarFromCurvePoints`. -/
def scalarFromCurvePoints (hash pk gamma : ℕ × ℕ) (uWitness : Address) (v : ℕ × ℕ) : ℕ :=
  (keccak256 (packed [2, hash.1, hash.2, pk.1, pk.2, gamma.1, gamma.2, v.1, v.2] ++
    addressBytes uWitness)).toNat

/-- `_verifyVRFProof`. -/
def verifyVRFProof (pk gamma : ℕ × ℕ) (c s seed : ℕ) (uWitness : Address)
    (cGammaWitness sHashWitness : ℕ × ℕ) (zInv : ℕ) : Except Halt Unit := do
  demand (isOnCurve curve pk) "public key is not on curve"
  demand (isOnCurve curve gamma) "gamma is not on curve"
  demand (isOnCurve curve cGammaWitness) "cGammaWitness is not on curve"
  demand (isOnCurve curve sHashWitness) "sHashWitness is not on curve"
  demand (verifyLinearCombinationWithGenerator curve keccak256 c pk s uWitness)
    "addr(c*pk+s*g)!=_uWitness"
  let hash ← hashToCurve curve keccak256 fuel pk seed
  let v ← linearCombination curve keccak256 c gamma cGammaWitness s hash sHashWitness zInv
  let derivedC := scalarFromCurvePoints keccak256 hash pk gamma uWitness v
  require (c = derivedC) "invalid proof"

/-- `_randomValueFromVRFProof`. -/
def randomValueFromVRFProof (proof : Proof) (seed : ℕ) : Except Halt ℕ := do
  verifyVRFProof curve keccak256 fuel proof.pk proof.gamma proof.c proof.s seed proof.uWitness
    proof.cGammaWitness proof.sHashWitness proof.zInv
  return (keccak256 (Abi.encode [.uint 3, .static [proof.gamma.1, proof.gamma.2]])).toNat

/-! ### The curve -/

variable {curve keccak256}

theorem uncheckedSub_eq {first second : ℕ} (le : second ≤ first) (small : first < 2 ^ 256) :
    uncheckedSub first second = first - second := by
  unfold uncheckedSub
  omega

theorem squareRoot_eq (x : ℕ) : squareRoot curve x = curve.squareRoot x := by
  rw [squareRoot, bigModExp, sqrtPower, Nat.shiftRight_eq_div_pow]
  rfl

theorem ySquared_eq (x : ℕ) : ySquared curve x = curve.ySquared x := by
  unfold ySquared addmod mulmod Curve.ySquared
  rw [Nat.mul_mod_mod, Nat.mod_add_mod, ← pow_two, ← pow_succ']

/-- A pair passes the check exactly when it has a point. -/
theorem isOnCurve_iff {pair : ℕ × ℕ} :
    isOnCurve curve pair = .ok true ↔ ∃ point, curve.decode pair = some point := by
  have decides : (ySquared curve pair.1 = mulmod pair.2 pair.2 curve.fieldSize) ↔
      pair.2 ^ 2 ≡ pair.1 ^ 3 + 7 [MOD curve.fieldSize] := by
    rw [ySquared_eq, mulmod, ← pow_two]
    exact eq_comm
  rw [Curve.decode_isSome_iff, ← decides]
  constructor
  · intro passed
    obtain ⟨_, xSmall, passed⟩ := ok_of_bind passed
    obtain ⟨_, ySmall, passed⟩ := ok_of_bind passed
    exact ⟨require_eq_ok.mp xSmall, require_eq_ok.mp ySmall,
      of_decide_eq_true (Except.ok.inj passed)⟩
  · rintro ⟨xSmall, ySmall, equal⟩
    unfold isOnCurve
    rw [require_of xSmall, require_of ySmall, ok_bind, ok_bind, decide_eq_true equal]
    rfl

/-- The check of a pair in range only fails to hold. -/
theorem isOnCurve_of_none {pair : ℕ × ℕ} (xSmall : pair.1 < curve.fieldSize)
    (ySmall : pair.2 < curve.fieldSize) (failed : curve.decode pair = none) :
    isOnCurve curve pair = .ok false := by
  have answered : isOnCurve curve pair =
      .ok (decide (ySquared curve pair.1 = mulmod pair.2 pair.2 curve.fieldSize)) := by
    unfold isOnCurve
    rw [require_of xSmall, require_of ySmall]
    rfl
  rw [answered]
  by_contra passes
  have passed : isOnCurve curve pair = .ok true := by
    rw [answered, Bool.eq_true_of_not_eq_false fun no => passes (congrArg _ no)]
  obtain ⟨point, decoded⟩ := isOnCurve_iff.mp passed
  rw [failed] at decoded
  cases decoded

/-! ### Hashing to the curve -/

theorem newCandidate_eq (data : Bytes) :
    newCandidateSecp256k1Point curve keccak256 fuel data =
      (fieldHash curve keccak256 fuel data >>= fun x => .ok (x, curve.ordinate x 0)) := by
  unfold newCandidateSecp256k1Point
  refine congrArg _ (funext fun x => ?_)
  have small := curve.squareRoot_lt (curve.ySquared x)
  have fits := curve.fieldSize_lt
  have root : squareRoot curve (ySquared curve x) = curve.squareRoot (curve.ySquared x) := by
    rw [ySquared_eq, squareRoot_eq]
  simp only [root, uncheckedSub_eq small.le fits, curve.ordinate_zero_eq]
  rfl

theorem retryCandidates_sound {fuel rounds : ℕ} {data : Bytes} {rv result : ℕ × ℕ}
    (candidate : newCandidateSecp256k1Point curve keccak256 fuel data = .ok rv)
    (found : retryCandidates curve keccak256 fuel rounds rv = .ok result) :
    ∃ point, PointHash curve keccak256 data point ∧ result = curve.coordinates point := by
  induction rounds generalizing data rv with
  | zero => cases found
  | succ rounds inductionHypothesis =>
    rw [newCandidate_eq] at candidate
    obtain ⟨x, hashed, same⟩ := ok_of_bind candidate
    cases same
    have hashes := hashBelow_sound hashed
    obtain ⟨on, checked, found⟩ := ok_of_bind found
    cases on with
    | true =>
      cases found
      obtain ⟨point, decoded⟩ := isOnCurve_iff.mp checked
      exact ⟨point, .found hashes decoded, ((curve.decode_eq_some _ _).mp decoded).2.symm⟩
    | false =>
      have failed : curve.lift x 0 = none := by
        rw [Option.eq_none_iff_forall_ne_some]
        intro point decoded
        have passed := isOnCurve_iff.mpr ⟨point, decoded⟩
        rw [checked] at passed
        cases passed
      obtain ⟨next, candidate, found⟩ := ok_of_bind found
      obtain ⟨point, hashed, same⟩ := inductionHypothesis candidate found
      exact ⟨point, .missed hashes failed hashed, same⟩

theorem hashToCurve_sound {fuel : ℕ} {pk result : ℕ × ℕ} {input : ℕ}
    (found : hashToCurve curve keccak256 fuel pk input = .ok result) :
    ∃ point, HashToCurve curve keccak256 pk input point ∧ result = curve.coordinates point := by
  obtain ⟨rv, candidate, found⟩ := ok_of_bind found
  exact retryCandidates_sound candidate found

variable {point : curve.Point}

theorem retryCandidates_ends {data : Bytes} (hashed : PointHash curve keccak256 data point) :
    ∃ enough, ∀ fuel rounds, enough ≤ fuel → enough ≤ rounds →
      (newCandidateSecp256k1Point curve keccak256 fuel data >>= fun rv =>
        retryCandidates curve keccak256 fuel rounds rv) = .ok (curve.coordinates point) := by
  induction hashed with
  | found hashed lifted =>
    obtain ⟨bound, ends⟩ := hashBelow_ends hashed
    refine ⟨bound + 1, fun fuel rounds fuelEnough roundsEnough => ?_⟩
    obtain ⟨rounds, rfl⟩ := Nat.exists_eq_add_of_le' (Nat.le_of_add_left_le roundsEnough)
    have hashedHere : fieldHash curve keccak256 fuel _ = .ok _ := ends fuel (by omega)
    rw [newCandidate_eq, hashedHere, ok_bind, ok_bind, retryCandidates,
      isOnCurve_iff.mpr ⟨_, lifted⟩, ok_bind, ((curve.decode_eq_some _ _).mp lifted).2]
    rfl
  | missed hashed failed _ inductionHypothesis =>
    obtain ⟨bound, ends⟩ := hashBelow_ends hashed
    obtain ⟨later, endsLater⟩ := inductionHypothesis
    refine ⟨bound + later + 1, fun fuel rounds fuelEnough roundsEnough => ?_⟩
    obtain ⟨rounds, rfl⟩ := Nat.exists_eq_add_of_le' (Nat.le_of_add_left_le roundsEnough)
    have hashedHere : fieldHash curve keccak256 fuel _ = .ok _ := ends fuel (by omega)
    rw [newCandidate_eq, hashedHere, ok_bind, ok_bind, retryCandidates,
      isOnCurve_of_none hashed.lt (curve.ordinate_zero_lt _) failed, ok_bind]
    exact endsLater fuel rounds (by omega) (by omega)

theorem hashToCurve_ends {pk : ℕ × ℕ} {input : ℕ}
    (hashed : HashToCurve curve keccak256 pk input point) :
    Ends (fun fuel => hashToCurve curve keccak256 fuel pk input) (curve.coordinates point) := by
  obtain ⟨enough, ends⟩ := retryCandidates_ends hashed
  exact ⟨enough, fun fuel bound => ends fuel fuel bound bound⟩

/-! ### Products by recovery -/

/-- What the precompile answers for a product: its address, when the abscissa is below the group
order. -/
theorem ecrecover_product (nonzero : point ≠ 0) (scalar : ℕ) :
    ecrecover curve keccak256 0 (parityByte (curve.coordinates point).2)
        (curve.coordinates point).1
        (mulmod scalar (curve.coordinates point).1 curve.groupOrder) =
      if (curve.coordinates point).1 < curve.groupOrder then
        addressOf curve keccak256 (scalar • point)
      else 0 := by
  split
  · rename_i below
    have invertible : (curve.coordinates point).1 % curve.groupOrder ≠ 0 := by
      rw [Nat.mod_eq_of_lt below]
      exact Curve.x_ne_zero nonzero
    by_cases zero : scalar * (curve.coordinates point).1 % curve.groupOrder = 0
    · have multiple : scalar % curve.groupOrder = 0 :=
        Nat.mod_eq_zero_of_dvd ((curve.groupOrder_prime.dvd_mul.mp
          (Nat.dvd_of_mod_eq_zero zero)).resolve_right fun divides =>
            invertible (Nat.mod_eq_zero_of_dvd divides))
      rw [mulmod, zero, ecrecover_of_zero, ← Curve.mod_nsmul, multiple, zero_nsmul, addressOf_zero]
    · rw [mulmod, ecrecover_eq nonzero below 0 zero (Nat.mod_lt _ curve.groupOrder_prime.pos),
        curve.recover_multiple invertible]
  · rename_i above
    exact ecrecover_of_le (Nat.not_lt.mp above)

/-- What the precompile answers for a combination with the generator. -/
theorem ecrecover_combination (nonzero : point ≠ 0) (c s : ℕ) :
    ecrecover curve keccak256
        (uncheckedSub curve.groupOrder (mulmod (curve.coordinates point).1 s curve.groupOrder))
        (parityByte (curve.coordinates point).2) (curve.coordinates point).1
        (mulmod c (curve.coordinates point).1 curve.groupOrder) =
      if (curve.coordinates point).1 < curve.groupOrder ∧ c % curve.groupOrder ≠ 0 then
        addressOf curve keccak256 (c • point + s • curve.generator)
      else 0 := by
  by_cases below : (curve.coordinates point).1 < curve.groupOrder
  · have invertible : (curve.coordinates point).1 % curve.groupOrder ≠ 0 := by
      rw [Nat.mod_eq_of_lt below]
      exact Curve.x_ne_zero nonzero
    by_cases zero : c % curve.groupOrder = 0
    · rw [if_neg fun both => both.2 zero, mulmod, mulmod, Nat.mul_mod c, zero, zero_mul,
        Nat.zero_mod, ecrecover_of_zero]
    · have nonzeroProduct : c * (curve.coordinates point).1 % curve.groupOrder ≠ 0 := by
        intro vanishes
        rcases curve.groupOrder_prime.dvd_mul.mp (Nat.dvd_of_mod_eq_zero vanishes) with
          divides | divides
        · exact zero (Nat.mod_eq_zero_of_dvd divides)
        · exact invertible (Nat.mod_eq_zero_of_dvd divides)
      rw [if_pos ⟨below, zero⟩, mulmod, mulmod,
        uncheckedSub_eq (Nat.mod_lt _ curve.groupOrder_prime.pos).le curve.groupOrder_lt,
        ecrecover_eq nonzero below _ nonzeroProduct (Nat.mod_lt _ curve.groupOrder_prime.pos),
        curve.recover_combination invertible]
  · rw [if_neg fun both => below both.1, ecrecover_of_le (Nat.not_lt.mp below)]

theorem ecmulVerify_iff (nonzero : point ≠ 0) {scalar : ℕ} {product : ℕ × ℕ} :
    ecmulVerify curve keccak256 (curve.coordinates point) scalar product = .ok true ↔
      scalar ≠ 0 ∧ (if (curve.coordinates point).1 < curve.groupOrder then
        addressOf curve keccak256 (scalar • point) else 0) = pairAddress keccak256 product := by
  rw [← ecrecover_product nonzero]
  constructor
  · intro verified
    obtain ⟨_, required, verified⟩ := ok_of_bind verified
    exact ⟨require_eq_ok.mp required, of_decide_eq_true (Except.ok.inj verified)⟩
  · rintro ⟨scalarNonzero, same⟩
    unfold ecmulVerify
    rw [require_of scalarNonzero, ok_bind]
    exact congrArg Except.ok (decide_eq_true same)

theorem verifyLinearCombinationWithGenerator_iff (nonzero : point ≠ 0) {c s : ℕ}
    {lcWitness : Address} :
    verifyLinearCombinationWithGenerator curve keccak256 c (curve.coordinates point) s lcWitness =
        .ok true ↔
      lcWitness ≠ 0 ∧ (if (curve.coordinates point).1 < curve.groupOrder ∧
          c % curve.groupOrder ≠ 0 then
        addressOf curve keccak256 (c • point + s • curve.generator) else 0) = lcWitness := by
  rw [← ecrecover_combination nonzero]
  constructor
  · intro verified
    obtain ⟨_, required, verified⟩ := ok_of_bind verified
    exact ⟨require_eq_ok.mp required, of_decide_eq_true (Except.ok.inj verified)⟩
  · rintro ⟨witnessNonzero, same⟩
    unfold verifyLinearCombinationWithGenerator
    rw [require_of witnessNonzero, ok_bind]
    exact congrArg Except.ok (decide_eq_true same)

/-! ### Sums with a supplied inverse -/

theorem mulmod_lt (first second : ℕ) : mulmod first second curve.fieldSize < curve.fieldSize :=
  Nat.mod_lt _ curve.fieldSize_prime.pos

theorem addmod_lt (first second : ℕ) : addmod first second curve.fieldSize < curve.fieldSize :=
  Nat.mod_lt _ curve.fieldSize_prime.pos

theorem natCast_mulmod (first second : ℕ) :
    ((mulmod first second curve.fieldSize : ℕ) : ZMod curve.fieldSize) = first * second := by
  rw [mulmod, ZMod.natCast_mod, Nat.cast_mul]

theorem natCast_addmod (first second : ℕ) :
    ((addmod first second curve.fieldSize : ℕ) : ZMod curve.fieldSize) = first + second := by
  rw [addmod, ZMod.natCast_mod, Nat.cast_add]

theorem natCast_uncheckedSub {value : ℕ} (small : value < curve.fieldSize) :
    ((uncheckedSub curve.fieldSize value : ℕ) : ZMod curve.fieldSize) = -value := by
  rw [uncheckedSub_eq small.le curve.fieldSize_lt, Nat.cast_sub small.le, ZMod.natCast_self,
    zero_sub]

/-- Reduced numbers are equal when they are in the field. -/
theorem eq_of_natCast_eq {first second : ℕ} (firstSmall : first < curve.fieldSize)
    (secondSmall : second < curve.fieldSize)
    (same : (first : ZMod curve.fieldSize) = second) : first = second := by
  rw [ZMod.natCast_eq_natCast_iff', Nat.mod_eq_of_lt firstSmall,
    Nat.mod_eq_of_lt secondSmall] at same
  exact same

/-- The parts of the projective sum, before they are brought over one denominator. -/
theorem projectiveECAdd_eq {px py qx : ℕ} (qy : ℕ) (pxSmall : px < curve.fieldSize)
    (pySmall : py < curve.fieldSize) (qxSmall : qx < curve.fieldSize) :
    ∃ sx dx sy dy : ℕ,
      projectiveECAdd curve px py qx qy =
        (if dx ≠ dy then (mulmod sx dy curve.fieldSize, mulmod sy dx curve.fieldSize,
          mulmod dx dy curve.fieldSize) else (sx, sy, dx)) ∧
      dx = ((qx + (curve.fieldSize - px)) % curve.fieldSize) ^ 2 % curve.fieldSize ∧
      dy = ((qx + (curve.fieldSize - px)) % curve.fieldSize) ^ 3 % curve.fieldSize ∧
      (sx : ZMod curve.fieldSize) = (qy - py) ^ 2 - (px + qx) * (qx - px) ^ 2 ∧
      (sy : ZMod curve.fieldSize) =
        (px * (qx - px) ^ 2 - sx) * (qy - py) - py * (qx - px) ^ 3 := by
  have gap : ((qx + (curve.fieldSize - px)) % curve.fieldSize) =
      addmod qx (uncheckedSub curve.fieldSize px) curve.fieldSize := by
    rw [addmod, uncheckedSub_eq pxSmall.le curve.fieldSize_lt]
  have reduced (value : ℕ) : value % curve.fieldSize < curve.fieldSize :=
    Nat.mod_lt _ curve.fieldSize_prime.pos
  refine ⟨_, _, _, _, rfl, ?_, ?_, ?_, ?_⟩
  · refine eq_of_natCast_eq (mulmod_lt _ _) (reduced _) ?_
    rw [gap, ZMod.natCast_mod, Nat.cast_pow]
    simp only [projectiveSub, projectiveMul, natCast_mulmod, Nat.cast_one, mul_one, pow_two]
  · refine eq_of_natCast_eq (mulmod_lt _ _) (reduced _) ?_
    rw [gap, ZMod.natCast_mod, Nat.cast_pow]
    simp only [projectiveSub, projectiveMul, natCast_mulmod, Nat.cast_one, mul_one, one_mul]
    ring
  · simp only [projectiveSub, projectiveMul, natCast_mulmod, natCast_addmod,
      natCast_uncheckedSub pxSmall, natCast_uncheckedSub pySmall, natCast_uncheckedSub qxSmall,
      Nat.cast_one]
    ring
  · simp only [projectiveSub, projectiveMul, natCast_mulmod, natCast_addmod,
      natCast_uncheckedSub pxSmall, natCast_uncheckedSub pySmall, natCast_uncheckedSub qxSmall,
      natCast_uncheckedSub (addmod_lt _ _), Nat.cast_one]
    ring

/-- The projective sum has the sum of the points over its last ordinate. -/
theorem projectiveECAdd_sum {first second : curve.Point} (firstNonzero : first ≠ 0)
    (secondNonzero : second ≠ 0)
    (distinct : (curve.coordinates first).1 ≠ (curve.coordinates second).1) :
    ∃ x y : ℕ,
      projectiveECAdd curve (curve.coordinates first).1 (curve.coordinates first).2
        (curve.coordinates second).1 (curve.coordinates second).2 =
        (x, y, sumDenominator curve (curve.coordinates first).1 (curve.coordinates second).1) ∧
      (x : ZMod curve.fieldSize) = (curve.coordinates (first + second)).1 *
        (sumDenominator curve (curve.coordinates first).1 (curve.coordinates second).1 : ℕ) ∧
      (y : ZMod curve.fieldSize) = (curve.coordinates (first + second)).2 *
        (sumDenominator curve (curve.coordinates first).1 (curve.coordinates second).1 : ℕ) := by
  obtain ⟨xSmall, ySmall⟩ := curve.coordinates_lt first firstNonzero
  obtain ⟨x₂Small, -⟩ := curve.coordinates_lt second secondNonzero
  obtain ⟨-, xChord, yChord⟩ := curve.chord first second firstNonzero secondNonzero distinct
  obtain ⟨sx, dx, sy, dy, added, dxEq, dyEq, sxEq, syEq⟩ :=
    projectiveECAdd_eq (curve.coordinates second).2 xSmall ySmall x₂Small
  have gap : (((curve.coordinates second).1 + (curve.fieldSize - (curve.coordinates first).1) : ℕ) :
      ZMod curve.fieldSize) = (curve.coordinates second).1 - (curve.coordinates first).1 := by
    rw [Nat.cast_add, Nat.cast_sub xSmall.le, ZMod.natCast_self, zero_sub, sub_eq_add_neg]
  have dxCast : (dx : ZMod curve.fieldSize) =
      ((curve.coordinates second).1 - (curve.coordinates first).1) ^ 2 := by
    rw [dxEq, ZMod.natCast_mod, Nat.cast_pow, ZMod.natCast_mod, gap]
  have dyCast : (dy : ZMod curve.fieldSize) =
      ((curve.coordinates second).1 - (curve.coordinates first).1) ^ 3 := by
    rw [dyEq, ZMod.natCast_mod, Nat.cast_pow, ZMod.natCast_mod, gap]
  have xOver : (sx : ZMod curve.fieldSize) = (curve.coordinates (first + second)).1 * dx := by
    rw [sxEq, dxCast]
    linear_combination -xChord
  have yOver : (sy : ZMod curve.fieldSize) = (curve.coordinates (first + second)).2 * dy := by
    rw [syEq, xOver, dxCast, dyCast]
    linear_combination
      -((curve.coordinates second).1 - (curve.coordinates first).1 : ZMod curve.fieldSize) ^ 2 *
        yChord
  have denominator : sumDenominator curve (curve.coordinates first).1 (curve.coordinates second).1 =
      if dx = dy then dx else dx * dy % curve.fieldSize := by
    rw [dxEq, dyEq]
    rfl
  rw [denominator, added]
  by_cases same : dx = dy
  · rw [if_neg (not_not.mpr same), if_pos same]
    exact ⟨sx, sy, rfl, xOver, by rw [yOver, same]⟩
  · rw [if_pos same, if_neg same]
    refine ⟨_, _, rfl, ?_, ?_⟩
    · rw [natCast_mulmod, ZMod.natCast_mod, Nat.cast_mul, xOver]
      ring
    · rw [natCast_mulmod, ZMod.natCast_mod, Nat.cast_mul, yOver]
      ring

/-- The affine sum succeeds exactly when the supplied number is the inverse, and is then the
sum. -/
theorem affineECAdd_iff {first second : curve.Point} (firstNonzero : first ≠ 0)
    (secondNonzero : second ≠ 0)
    (distinct : (curve.coordinates first).1 ≠ (curve.coordinates second).1) {invZ : ℕ}
    {sum : ℕ × ℕ} :
    affineECAdd curve (curve.coordinates first) (curve.coordinates second) invZ = .ok sum ↔
      sumDenominator curve (curve.coordinates first).1 (curve.coordinates second).1 * invZ %
        curve.fieldSize = 1 ∧ sum = curve.coordinates (first + second) := by
  obtain ⟨x, y, added, xOver, yOver⟩ := projectiveECAdd_sum firstNonzero secondNonzero distinct
  obtain ⟨sumNonzero, -⟩ := curve.chord first second firstNonzero secondNonzero distinct
  obtain ⟨xSmall, ySmall⟩ := curve.coordinates_lt _ sumNonzero
  have divides (inverse : sumDenominator curve (curve.coordinates first).1
      (curve.coordinates second).1 * invZ % curve.fieldSize = 1) {value coordinate : ℕ}
      (small : coordinate < curve.fieldSize)
      (quotient : (value : ZMod curve.fieldSize) = coordinate *
        (sumDenominator curve (curve.coordinates first).1 (curve.coordinates second).1 : ℕ)) :
      mulmod value invZ curve.fieldSize = coordinate := by
    have one := congrArg (Nat.cast : ℕ → ZMod curve.fieldSize) inverse
    rw [ZMod.natCast_mod, Nat.cast_mul, Nat.cast_one] at one
    refine eq_of_natCast_eq (mulmod_lt _ _) small ?_
    rw [natCast_mulmod, quotient, mul_assoc, one, mul_one]
  have checked : affineECAdd curve (curve.coordinates first) (curve.coordinates second) invZ =
      (require (mulmod (sumDenominator curve (curve.coordinates first).1
        (curve.coordinates second).1) invZ curve.fieldSize = 1) "invZ must be inverse of z" >>=
        fun _ => pure (mulmod x invZ curve.fieldSize, mulmod y invZ curve.fieldSize)) := by
    simp only [affineECAdd, added]
  rw [checked]
  constructor
  · intro summed
    obtain ⟨_, required, summed⟩ := ok_of_bind summed
    have inverse := require_eq_ok.mp required
    rw [mulmod] at inverse
    rw [divides inverse xSmall xOver, divides inverse ySmall yOver] at summed
    exact ⟨inverse, (Except.ok.inj summed).symm⟩
  · rintro ⟨inverse, rfl⟩
    rw [divides inverse xSmall xOver, divides inverse ySmall yOver]
    rw [← mulmod] at inverse
    rw [require_of inverse, ok_bind]
    rfl

/-! ### The check and the meaning of a proof -/

section Meaning

variable {proof : Proof} {seed : ℕ}

/-- A supplied point with the address of a product is the product; the abscissa then went through
the precompile, and the scalar is not zero modulo the group order. -/
theorem product_of_address {point product : curve.Point} {scalar : ℕ} (productNonzero : product ≠ 0)
    (separate : addressOf curve keccak256 (scalar • point) = addressOf curve keccak256 product →
      scalar • point = product)
    (notInfinity : addressOf curve keccak256 0 = addressOf curve keccak256 product →
      0 = product)
    (same : (if (curve.coordinates point).1 < curve.groupOrder then
      addressOf curve keccak256 (scalar • point) else 0) =
        pairAddress keccak256 (curve.coordinates product)) :
    scalar % curve.groupOrder ≠ 0 ∧ scalar • point = product := by
  rw [← addressOf_eq productNonzero] at same
  split at same
  · have equal := separate same
    refine ⟨fun zero => productNonzero ?_, equal⟩
    rw [← equal, ← Curve.mod_nsmul, zero, zero_nsmul]
  · exact absurd (notInfinity (addressOf_zero.trans same)).symm productNonzero

theorem encode_output (gamma : ℕ × ℕ) :
    Abi.encode [.uint 3, .static [gamma.1, gamma.2]] = packed [3, gamma.1, gamma.2] := by
  simp [Abi.encode, Abi.layout, Abi.uint, packed]

/-- The random value is the output of the proof. -/
theorem randomValue_eq {fuel value : ℕ}
    (accepted : randomValueFromVRFProof curve keccak256 fuel proof seed = .ok value) :
    value = (output keccak256 proof.gamma).toNat := by
  obtain ⟨_, _, returned⟩ := ok_of_bind accepted
  rw [encode_output] at returned
  exact (Except.ok.inj returned).symm

/-- The combination that the check takes of a valid proof is the point its challenge hashes. -/
theorem linearCombination_of_valid {key gamma hash : curve.Point}
    (valid : Valid curve keccak256 proof seed key gamma hash)
    (gammaBelow : (curve.coordinates gamma).1 < curve.groupOrder)
    (hashBelow : (curve.coordinates hash).1 < curve.groupOrder) :
    linearCombination curve keccak256 proof.c proof.gamma proof.cGammaWitness proof.s
        (curve.coordinates hash) proof.sHashWitness proof.zInv =
      .ok (curve.coordinates (proof.c • gamma + proof.s • hash)) := by
  have gammaPair := ((curve.decode_eq_some _ _).mp valid.gamma_eq).2
  have cGammaSmall := (Curve.decode_isSome_iff.mp ⟨_, valid.cGamma_decodes⟩).1
  have sHashSmall := (Curve.decode_isSome_iff.mp ⟨_, valid.sHash_decodes⟩).1
  have firstProduct : ecmulVerify curve keccak256 proof.gamma proof.c proof.cGammaWitness =
      .ok true := by
    rw [← gammaPair, ecmulVerify_iff valid.gamma_ne_zero, if_pos gammaBelow, valid.cGamma_eq,
      addressOf_eq valid.cGamma_ne_zero]
    exact ⟨valid.c_pos, rfl⟩
  have secondProduct : ecmulVerify curve keccak256 (curve.coordinates hash) proof.s
      proof.sHashWitness = .ok true := by
    rw [ecmulVerify_iff valid.hash_ne_zero, if_pos hashBelow, valid.sHash_eq,
      addressOf_eq valid.sHash_ne_zero]
    exact ⟨valid.s_pos, rfl⟩
  have sum : affineECAdd curve proof.cGammaWitness proof.sHashWitness proof.zInv =
      .ok (curve.coordinates (proof.c • gamma + proof.s • hash)) := by
    have distinct := valid.distinct
    have inverse := valid.inverse
    rw [valid.cGamma_eq, valid.sHash_eq] at distinct inverse ⊢
    exact (affineECAdd_iff valid.cGamma_ne_zero valid.sHash_ne_zero distinct).mpr ⟨inverse, rfl⟩
  unfold linearCombination
  rw [Nat.mod_eq_of_lt cGammaSmall, Nat.mod_eq_of_lt sHashSmall, require_of valid.distinct,
    demand_of firstProduct, demand_of secondProduct, ok_bind, ok_bind, ok_bind, sum]

/-- A valid proof passes, with its output as the random value. -/
theorem randomValue_of_valid {key gamma hash : curve.Point}
    (valid : Valid curve keccak256 proof seed key gamma hash)
    (keyBelow : (curve.coordinates key).1 < curve.groupOrder)
    (gammaBelow : (curve.coordinates gamma).1 < curve.groupOrder)
    (hashBelow : (curve.coordinates hash).1 < curve.groupOrder)
    (witnessNonzero : proof.uWitness ≠ 0) :
    Ends (fun fuel => randomValueFromVRFProof curve keccak256 fuel proof seed)
      (output keccak256 proof.gamma).toNat := by
  have keyPair := ((curve.decode_eq_some _ _).mp valid.key_eq).2
  have combines : verifyLinearCombinationWithGenerator curve keccak256 proof.c proof.pk proof.s
      proof.uWitness = .ok true := by
    rw [← keyPair, verifyLinearCombinationWithGenerator_iff valid.key_ne_zero,
      if_pos ⟨keyBelow, valid.c_ne_zero⟩]
    exact ⟨witnessNonzero, valid.witness_eq.symm⟩
  obtain ⟨enough, ends⟩ := hashToCurve_ends valid.hash_eq
  refine ⟨enough, fun fuel bound => ?_⟩
  have hashed : hashToCurve curve keccak256 fuel proof.pk seed = .ok (curve.coordinates hash) :=
    ends fuel bound
  have verified : verifyVRFProof curve keccak256 fuel proof.pk proof.gamma proof.c proof.s seed
      proof.uWitness proof.cGammaWitness proof.sHashWitness proof.zInv = .ok () := by
    unfold verifyVRFProof
    rw [demand_of (isOnCurve_iff.mpr ⟨_, valid.key_eq⟩),
      demand_of (isOnCurve_iff.mpr ⟨_, valid.gamma_eq⟩),
      demand_of (isOnCurve_iff.mpr ⟨_, valid.cGamma_decodes⟩),
      demand_of (isOnCurve_iff.mpr ⟨_, valid.sHash_decodes⟩), demand_of combines, hashed]
    simp only [ok_bind]
    rw [linearCombination_of_valid valid gammaBelow hashBelow, ok_bind]
    exact require_of valid.challenge_eq
  show (verifyVRFProof curve keccak256 fuel _ _ _ _ _ _ _ _ _ >>= _) = _
  rw [verified, ok_bind, encode_output]
  rfl

/-- A proof that passes is valid. -/
theorem valid_of_randomValue {fuel value : ℕ}
    (accepted : randomValueFromVRFProof curve keccak256 fuel proof seed = .ok value)
    (separate : DistinctAddresses curve keccak256 proof seed) :
    ∃ key gamma hash, Valid curve keccak256 proof seed key gamma hash := by
  obtain ⟨_, verified, _⟩ := ok_of_bind accepted
  obtain ⟨_, keyOn, verified⟩ := ok_of_bind verified
  obtain ⟨_, gammaOn, verified⟩ := ok_of_bind verified
  obtain ⟨_, cGammaOn, verified⟩ := ok_of_bind verified
  obtain ⟨_, sHashOn, verified⟩ := ok_of_bind verified
  obtain ⟨_, combines, verified⟩ := ok_of_bind verified
  obtain ⟨_, hashed, verified⟩ := ok_of_bind verified
  obtain ⟨v, combined, required⟩ := ok_of_bind verified
  obtain ⟨key, keyDecodes⟩ := isOnCurve_iff.mp (demand_eq_ok.mp keyOn)
  obtain ⟨gamma, gammaDecodes⟩ := isOnCurve_iff.mp (demand_eq_ok.mp gammaOn)
  obtain ⟨cGamma, cGammaDecodes⟩ := isOnCurve_iff.mp (demand_eq_ok.mp cGammaOn)
  obtain ⟨sHash, sHashDecodes⟩ := isOnCurve_iff.mp (demand_eq_ok.mp sHashOn)
  obtain ⟨hash, hashes, rfl⟩ := hashToCurve_sound hashed
  obtain ⟨keyNonzero, keyPair⟩ := (curve.decode_eq_some _ _).mp keyDecodes
  obtain ⟨gammaNonzero, gammaPair⟩ := (curve.decode_eq_some _ _).mp gammaDecodes
  obtain ⟨cGammaNonzero, cGammaPair⟩ := (curve.decode_eq_some _ _).mp cGammaDecodes
  obtain ⟨sHashNonzero, sHashPair⟩ := (curve.decode_eq_some _ _).mp sHashDecodes
  obtain ⟨_, apart, combined⟩ := ok_of_bind combined
  obtain ⟨_, firstProduct, combined⟩ := ok_of_bind combined
  obtain ⟨_, secondProduct, combined⟩ := ok_of_bind combined
  have distinct : proof.cGammaWitness.1 ≠ proof.sHashWitness.1 := fun same =>
    require_eq_ok.mp apart (congrArg (· % curve.fieldSize) same)
  have combines := demand_eq_ok.mp combines
  have firstProduct := demand_eq_ok.mp firstProduct
  have secondProduct := demand_eq_ok.mp secondProduct
  rw [← keyPair, verifyLinearCombinationWithGenerator_iff keyNonzero] at combines
  rw [← gammaPair, ← cGammaPair, ecmulVerify_iff gammaNonzero] at firstProduct
  rw [← sHashPair, ecmulVerify_iff hashes.ne_zero] at secondProduct
  obtain ⟨witnessNonzero, witness⟩ := combines
  obtain ⟨cNonzero, firstSame⟩ := product_of_address cGammaNonzero
    (separate (.gammaProduct gammaDecodes) (.cGammaWitness cGammaDecodes))
    (separate .infinity (.cGammaWitness cGammaDecodes)) firstProduct.2
  obtain ⟨sNonzero, secondSame⟩ := product_of_address sHashNonzero
    (separate (.hashProduct hashes) (.sHashWitness sHashDecodes))
    (separate .infinity (.sHashWitness sHashDecodes)) secondProduct.2
  have witnessEq : proof.uWitness =
      addressOf curve keccak256 (proof.c • key + proof.s • curve.generator) := by
    split at witness
    · exact witness.symm
    · exact absurd witness.symm witnessNonzero
  have combinationNonzero : proof.c • key + proof.s • curve.generator ≠ 0 := by
    intro zero
    rw [zero, addressOf_zero] at witnessEq
    exact witnessNonzero witnessEq
  rw [← cGammaPair, ← sHashPair] at combined distinct
  obtain ⟨inverse, rfl⟩ := (affineECAdd_iff cGammaNonzero sHashNonzero distinct).mp combined
  refine ⟨key, gamma, hash, keyDecodes, gammaDecodes, hashes, cNonzero, sNonzero, ?_, ?_, ?_, ?_,
    combinationNonzero, witnessEq, ?_⟩
  · rw [firstSame, cGammaPair]
  · rw [secondSame, sHashPair]
  · rw [← cGammaPair, ← sHashPair]
    exact distinct
  · rw [← cGammaPair, ← sHashPair]
    exact inverse
  · rw [firstSame, secondSame]
    exact require_eq_ok.mp required

end Meaning

end Solidity

end D20.Vrf
