/-
This file is a small library about curves `y² = x³ + 7` over a prime field whose
points form a group of prime order, as secp256k1 is. A curve is given by its
points with their coordinates and by the laws that tie the two together: the
curve equation, the chord rule for sums, and the order of the group.

On top of these it says what programs use of such a curve: square roots by one
exponentiation, the point of an abscissa and a parity, scalars modulo the order,
and the point that a signature recovers.
-/

import Mathlib.Algebra.Module.ZMod
import Mathlib.NumberTheory.LegendreSymbol.Basic
import Mathlib.Tactic.NormNum.Prime

/-- A curve `y² = x³ + 7` over the field of `fieldSize` elements, whose points with the point at
infinity, zero, form a group of the prime order `groupOrder`. For secp256k1 the two numbers are
`2 ^ 256 - 2 ^ 32 - 977` and
`0xFFFFFFFFFFFFFFFFFFFFFFFFFFFFFFFEBAAEDCE6AF48A03BBFD25E8CD0364141`. -/
structure Curve where
  Point : Type
  [group : AddCommGroup Point]
  [decidableEq : DecidableEq Point]
  fieldSize : ℕ
  groupOrder : ℕ
  generator : Point
  coordinates : Point → ℕ × ℕ
  decode : ℕ × ℕ → Option Point
  fieldSize_prime : fieldSize.Prime
  fieldSize_mod : fieldSize % 4 = 3
  fieldSize_lt : fieldSize < 2 ^ 256
  groupOrder_prime : groupOrder.Prime
  groupOrder_lt : groupOrder < 2 ^ 256
  groupOrder_nsmul : ∀ point : Point, groupOrder • point = 0
  generator_ne_zero : generator ≠ 0
  coordinates_lt : ∀ point, point ≠ 0 →
    (coordinates point).1 < fieldSize ∧ (coordinates point).2 < fieldSize
  equation : ∀ point, point ≠ 0 →
    (coordinates point).2 ^ 2 ≡ (coordinates point).1 ^ 3 + 7 [MOD fieldSize]
  seven_nonsquare : ∀ root, ¬ root ^ 2 ≡ 7 [MOD fieldSize]
  decode_eq_some : ∀ pair point, decode pair = some point ↔ point ≠ 0 ∧ coordinates point = pair
  exists_point : ∀ pair : ℕ × ℕ, pair.1 < fieldSize → pair.2 < fieldSize →
    pair.2 ^ 2 ≡ pair.1 ^ 3 + 7 [MOD fieldSize] → ∃ point, point ≠ 0 ∧ coordinates point = pair
  chord : ∀ first second, first ≠ 0 → second ≠ 0 →
    (coordinates first).1 ≠ (coordinates second).1 → first + second ≠ 0 ∧
      let x₁ : ZMod fieldSize := (coordinates first).1
      let y₁ : ZMod fieldSize := (coordinates first).2
      let x₂ : ZMod fieldSize := (coordinates second).1
      let y₂ : ZMod fieldSize := (coordinates second).2
      let x₃ : ZMod fieldSize := (coordinates (first + second)).1
      let y₃ : ZMod fieldSize := (coordinates (first + second)).2
      (x₂ - x₁) ^ 2 * (x₃ + x₁ + x₂) = (y₂ - y₁) ^ 2 ∧
        (x₂ - x₁) * (y₃ + y₁) = (y₂ - y₁) * (x₁ - x₃)

namespace Curve

variable (curve : Curve)

instance : AddCommGroup curve.Point := curve.group

instance : DecidableEq curve.Point := curve.decidableEq

instance : Fact curve.fieldSize.Prime := ⟨curve.fieldSize_prime⟩

instance : Fact curve.groupOrder.Prime := ⟨curve.groupOrder_prime⟩

/-! ### Coordinates -/

section Coordinates

variable {curve}

theorem decode_coordinates {point : curve.Point} (nonzero : point ≠ 0) :
    curve.decode (curve.coordinates point) = some point :=
  (curve.decode_eq_some _ _).mpr ⟨nonzero, rfl⟩

/-- The pairs that decode are the reduced solutions of the curve equation. -/
theorem decode_isSome_iff {pair : ℕ × ℕ} :
    (∃ point, curve.decode pair = some point) ↔
      pair.1 < curve.fieldSize ∧ pair.2 < curve.fieldSize ∧
        pair.2 ^ 2 ≡ pair.1 ^ 3 + 7 [MOD curve.fieldSize] := by
  constructor
  · rintro ⟨point, decoded⟩
    obtain ⟨nonzero, rfl⟩ := (curve.decode_eq_some _ _).mp decoded
    exact ⟨(curve.coordinates_lt point nonzero).1, (curve.coordinates_lt point nonzero).2,
      curve.equation point nonzero⟩
  · rintro ⟨xSmall, ySmall, onCurve⟩
    obtain ⟨point, nonzero, same⟩ := curve.exists_point pair xSmall ySmall onCurve
    exact ⟨point, (curve.decode_eq_some _ _).mpr ⟨nonzero, same⟩⟩

/-- No point has abscissa zero, because seven is not a square. -/
theorem x_ne_zero {point : curve.Point} (nonzero : point ≠ 0) :
    (curve.coordinates point).1 ≠ 0 := by
  intro zero
  have onCurve := curve.equation point nonzero
  rw [zero] at onCurve
  exact curve.seven_nonsquare _ (by simpa using onCurve)

theorem two_lt_fieldSize (curve : Curve) : 2 < curve.fieldSize := by
  have := curve.fieldSize_mod
  omega

end Coordinates

/-! ### Square roots -/

/-- The candidate for a square root: one power, since the field size is three modulo four. -/
def squareRoot (value : ℕ) : ℕ :=
  value ^ ((curve.fieldSize + 1) / 4) % curve.fieldSize

theorem squareRoot_lt (value : ℕ) : curve.squareRoot value < curve.fieldSize :=
  Nat.mod_lt _ curve.fieldSize_prime.pos

/-- In the field, the power of a square is its root up to sign. -/
theorem pow_sq_eq_or (root : ZMod curve.fieldSize) :
    (root ^ 2) ^ ((curve.fieldSize + 1) / 4) = root ∨
      (root ^ 2) ^ ((curve.fieldSize + 1) / 4) = -root := by
  have quarter : 2 * ((curve.fieldSize + 1) / 4) = curve.fieldSize / 2 + 1 := by
    have := curve.fieldSize_mod
    omega
  rw [← pow_mul, quarter, pow_succ]
  by_cases zero : root = 0
  · left
    rw [zero, mul_zero]
  · rcases ZMod.pow_div_two_eq_neg_one_or_one curve.fieldSize zero with one | negative
    · exact Or.inl (by rw [one, one_mul])
    · exact Or.inr (by rw [negative, neg_one_mul])

theorem squareRoot_sq {root : ℕ} (small : root < curve.fieldSize) :
    curve.squareRoot (root ^ 2 % curve.fieldSize) = root ∨
      root ≠ 0 ∧ curve.squareRoot (root ^ 2 % curve.fieldSize) = curve.fieldSize - root := by
  have candidate : ((curve.squareRoot (root ^ 2 % curve.fieldSize) : ℕ) : ZMod curve.fieldSize) =
      ((root : ZMod curve.fieldSize) ^ 2) ^ ((curve.fieldSize + 1) / 4) := by
    rw [squareRoot]
    push_cast [ZMod.natCast_mod]
    rfl
  have candidateSmall := curve.squareRoot_lt (root ^ 2 % curve.fieldSize)
  rcases curve.pow_sq_eq_or (root : ZMod curve.fieldSize) with same | opposite
  · left
    rw [same, ZMod.natCast_eq_natCast_iff'] at candidate
    rwa [Nat.mod_eq_of_lt candidateSmall, Nat.mod_eq_of_lt small] at candidate
  · by_cases zero : root = 0
    · left
      subst zero
      rw [opposite, Nat.cast_zero, neg_zero, ZMod.natCast_eq_zero_iff] at candidate
      exact Nat.eq_zero_of_dvd_of_lt candidate candidateSmall
    · right
      refine ⟨zero, ?_⟩
      have negated : (-(root : ZMod curve.fieldSize)) =
          ((curve.fieldSize - root : ℕ) : ZMod curve.fieldSize) := by
        rw [Nat.cast_sub small.le, ZMod.natCast_self, zero_sub]
      have reduced : (curve.fieldSize - root) % curve.fieldSize = curve.fieldSize - root :=
        Nat.mod_eq_of_lt (by omega)
      rw [opposite, negated, ZMod.natCast_eq_natCast_iff'] at candidate
      rwa [Nat.mod_eq_of_lt candidateSmall, reduced] at candidate

/-! ### Points by abscissa and parity -/

/-- The right-hand side of the curve equation. -/
def ySquared (x : ℕ) : ℕ := (x ^ 3 + 7) % curve.fieldSize

/-- The ordinate of a given parity that an abscissa would have. -/
def ordinate (x parity : ℕ) : ℕ :=
  if curve.squareRoot (curve.ySquared x) % 2 = parity then curve.squareRoot (curve.ySquared x)
  else curve.fieldSize - curve.squareRoot (curve.ySquared x)

/-- The point with a given abscissa and a given parity of its ordinate. -/
def lift (x parity : ℕ) : Option curve.Point := curve.decode (x, curve.ordinate x parity)

/-- A point is the one of its abscissa and parity. -/
theorem lift_coordinates {point : curve.Point} (nonzero : point ≠ 0) :
    curve.lift (curve.coordinates point).1 ((curve.coordinates point).2 % 2) = some point := by
  have small := (curve.coordinates_lt point nonzero).2
  have odd := curve.fieldSize_mod
  have found : curve.ordinate (curve.coordinates point).1 ((curve.coordinates point).2 % 2) =
      (curve.coordinates point).2 := by
    unfold ordinate
    rw [show curve.ySquared _ = _ from (curve.equation point nonzero).symm]
    rcases curve.squareRoot_sq small with same | ⟨positive, opposite⟩
    · rw [same, if_pos rfl]
    · rw [opposite, if_neg (by omega)]
      omega
  rw [lift, found]
  exact decode_coordinates nonzero

variable {x : ℕ}

/-- The ordinate found for an abscissa solves the equation when the root is one. -/
theorem ordinate_sq {parity : ℕ} :
    curve.ordinate x parity ^ 2 ≡ curve.squareRoot (curve.ySquared x) ^ 2 [MOD curve.fieldSize] := by
  unfold ordinate
  split
  · rfl
  · have small := curve.squareRoot_lt (curve.ySquared x)
    rw [← ZMod.natCast_eq_natCast_iff]
    push_cast [Nat.cast_sub small.le]
    ring_nf
    simp

theorem ordinate_zero_lt (x : ℕ) : curve.ordinate x 0 < curve.fieldSize := by
  have small := curve.squareRoot_lt (curve.ySquared x)
  unfold ordinate
  split <;> omega

/-- The even ordinate, as programs pick it. -/
theorem ordinate_zero_eq (x : ℕ) : curve.ordinate x 0 =
    if curve.squareRoot (curve.ySquared x) % 2 = 1 then
      curve.fieldSize - curve.squareRoot (curve.ySquared x)
    else curve.squareRoot (curve.ySquared x) := by
  unfold ordinate
  by_cases even : curve.squareRoot (curve.ySquared x) % 2 = 0
  · rw [if_pos even, if_neg (by omega)]
  · rw [if_neg even, if_pos (by omega)]

/-- An abscissa has a point with an even ordinate exactly when the candidate root is one. -/
theorem exists_lift_iff (small : x < curve.fieldSize) :
    (∃ point, curve.lift x 0 = some point) ↔
      curve.squareRoot (curve.ySquared x) ^ 2 % curve.fieldSize = curve.ySquared x := by
  have root : curve.ordinate x 0 ^ 2 ≡ x ^ 3 + 7 [MOD curve.fieldSize] ↔
      curve.squareRoot (curve.ySquared x) ^ 2 % curve.fieldSize = curve.ySquared x :=
    ⟨fun onCurve => curve.ordinate_sq.symm.trans onCurve,
      fun square => curve.ordinate_sq.trans square⟩
  rw [← root]
  exact decode_isSome_iff.trans
    ⟨fun onCurve => onCurve.2.2, fun onCurve => ⟨small, curve.ordinate_zero_lt x, onCurve⟩⟩

theorem lift_eq_none (small : x < curve.fieldSize)
    (notSquare : curve.squareRoot (curve.ySquared x) ^ 2 % curve.fieldSize ≠ curve.ySquared x) :
    curve.lift x 0 = none := by
  rw [Option.eq_none_iff_forall_ne_some]
  intro point lifted
  exact notSquare ((curve.exists_lift_iff small).mp ⟨point, lifted⟩)

/-! ### Scalars -/

instance : Module (ZMod curve.groupOrder) curve.Point :=
  AddCommGroup.zmodModule curve.groupOrder_nsmul

section Scalars

variable {curve}

theorem natCast_smul (scalar : ℕ) (point : curve.Point) :
    (scalar : ZMod curve.groupOrder) • point = scalar • point :=
  Nat.cast_smul_eq_nsmul _ _ _

/-- Scalars count modulo the group order. -/
theorem mod_nsmul (scalar : ℕ) (point : curve.Point) :
    (scalar % curve.groupOrder) • point = scalar • point := by
  rw [← natCast_smul, ← natCast_smul, ZMod.natCast_mod]

theorem natCast_ne_zero {scalar : ℕ} (nonzero : scalar % curve.groupOrder ≠ 0) :
    (scalar : ZMod curve.groupOrder) ≠ 0 := by
  intro zero
  rw [ZMod.natCast_eq_zero_iff] at zero
  exact nonzero (Nat.mod_eq_zero_of_dvd zero)

/-- A scalar that is not a multiple of the order moves no point to zero. -/
theorem nsmul_ne_zero {scalar : ℕ} {point : curve.Point}
    (scalarNonzero : scalar % curve.groupOrder ≠ 0) (nonzero : point ≠ 0) :
    scalar • point ≠ 0 := by
  rw [← natCast_smul]
  exact smul_ne_zero (natCast_ne_zero scalarNonzero) nonzero

end Scalars

/-! ### Recovery -/

/-- The point that a signature over `hash` recovers when its nonce point is `nonce`:
`r⁻¹ (s R - h G)`. -/
def recover (hash r s : ℕ) (nonce : curve.Point) : curve.Point :=
  (r ^ (curve.groupOrder - 2) % curve.groupOrder) • (s • nonce - hash • curve.generator)

theorem natCast_inverse {r : ℕ} (invertible : r % curve.groupOrder ≠ 0) :
    ((r ^ (curve.groupOrder - 2) % curve.groupOrder : ℕ) : ZMod curve.groupOrder) =
      (r : ZMod curve.groupOrder)⁻¹ := by
  have fermat := ZMod.pow_card_sub_one_eq_one (natCast_ne_zero invertible)
  have exponent : curve.groupOrder - 1 = curve.groupOrder - 2 + 1 := by
    have := curve.groupOrder_prime.two_le
    omega
  rw [exponent, pow_succ] at fermat
  rw [ZMod.natCast_mod, Nat.cast_pow, eq_inv_of_mul_eq_one_left fermat]

/-- The recovery trick: a signature whose parts carry the abscissa of its nonce point as a factor
recovers a linear combination of that point and the generator. -/
theorem recover_combination (invertible : x % curve.groupOrder ≠ 0) (c s : ℕ)
    (point : curve.Point) :
    curve.recover (curve.groupOrder - x * s % curve.groupOrder) x (c * x % curve.groupOrder) point =
      c • point + s • curve.generator := by
  have nonzero := natCast_ne_zero invertible
  have below : x * s % curve.groupOrder ≤ curve.groupOrder :=
    (Nat.mod_lt _ curve.groupOrder_prime.pos).le
  unfold recover
  simp only [← natCast_smul]
  rw [curve.natCast_inverse invertible, Nat.cast_sub below]
  push_cast [ZMod.natCast_mod, ZMod.natCast_self]
  rw [smul_sub, smul_smul, smul_smul, zero_sub, mul_neg, neg_smul, sub_neg_eq_add]
  congr 2
  · field_simp
  · field_simp

/-- With hash zero the generator drops out. -/
theorem recover_multiple (invertible : x % curve.groupOrder ≠ 0) (c : ℕ) (point : curve.Point) :
    curve.recover 0 x (c * x % curve.groupOrder) point = c • point := by
  have nonzero := natCast_ne_zero invertible
  unfold recover
  simp only [← natCast_smul]
  rw [curve.natCast_inverse invertible]
  push_cast [ZMod.natCast_mod]
  rw [zero_smul, sub_zero, smul_smul]
  congr 1
  field_simp

/-! ### A small curve -/

/-- The multiples of `(2, 12)` on the curve over the field of 43 elements, from zero on. -/
def smallMultiples : List (ℕ × ℕ) :=
  [(0, 0), (2, 12), (7, 7), (35, 21), (21, 18), (12, 12), (29, 31), (25, 18), (32, 40), (20, 40),
    (42, 7), (40, 25), (37, 36), (13, 21), (34, 40), (38, 21), (38, 22), (34, 3), (13, 22),
    (37, 7), (40, 18), (42, 36), (20, 3), (32, 3), (25, 25), (29, 12), (12, 31), (21, 25),
    (35, 22), (7, 36), (2, 31)]

/-- The coordinates of a multiple. -/
def smallCoordinates (point : ZMod 31) : ℕ × ℕ := smallMultiples.getD point.val (0, 0)

/-- The multiple with given coordinates. -/
def smallDecode (pair : ℕ × ℕ) : Option (ZMod 31) :=
  ((List.range 31).map Nat.cast).find? fun point => point ≠ 0 ∧ smallCoordinates point = pair

theorem smallCoordinates_inj : ∀ first second : ZMod 31, first ≠ 0 → second ≠ 0 →
    smallCoordinates first = smallCoordinates second → first = second := by
  decide +kernel

theorem smallDecode_eq_some (pair : ℕ × ℕ) (point : ZMod 31) :
    smallDecode pair = some point ↔ point ≠ 0 ∧ smallCoordinates point = pair := by
  have sound {other : ZMod 31} (found : smallDecode pair = some other) :
      other ≠ 0 ∧ smallCoordinates other = pair := by
    have holds := List.find?_some found
    exact of_decide_eq_true holds
  refine ⟨sound, ?_⟩
  rintro ⟨nonzero, same⟩
  have listed : point ∈ (List.range 31).map (Nat.cast : ℕ → ZMod 31) :=
    List.mem_map.mpr ⟨point.val, List.mem_range.mpr point.val_lt, ZMod.natCast_zmod_val point⟩
  have someFound : (smallDecode pair).isSome :=
    List.find?_isSome.mpr ⟨point, listed, decide_eq_true ⟨nonzero, same⟩⟩
  obtain ⟨other, found⟩ := Option.isSome_iff_exists.mp someFound
  obtain ⟨otherNonzero, otherSame⟩ := sound found
  rw [found, smallCoordinates_inj other point otherNonzero nonzero (otherSame.trans same.symm)]

theorem smallChord : ∀ first second : ZMod 31, first ≠ 0 → second ≠ 0 →
    (smallCoordinates first).1 ≠ (smallCoordinates second).1 → first + second ≠ 0 ∧
      let x₁ : ZMod 43 := (smallCoordinates first).1
      let y₁ : ZMod 43 := (smallCoordinates first).2
      let x₂ : ZMod 43 := (smallCoordinates second).1
      let y₂ : ZMod 43 := (smallCoordinates second).2
      let x₃ : ZMod 43 := (smallCoordinates (first + second)).1
      let y₃ : ZMod 43 := (smallCoordinates (first + second)).2
      (x₂ - x₁) ^ 2 * (x₃ + x₁ + x₂) = (y₂ - y₁) ^ 2 ∧
        (x₂ - x₁) * (y₃ + y₁) = (y₂ - y₁) * (x₁ - x₃) := by
  decide +kernel

theorem smallPoint : ∀ x y : Fin 43, (y : ℕ) ^ 2 ≡ (x : ℕ) ^ 3 + 7 [MOD 43] →
    ∃ point : ZMod 31, point ≠ 0 ∧ smallCoordinates point = ((x : ℕ), (y : ℕ)) := by
  decide +kernel

theorem seven_not_square_small : ∀ root : Fin 43, ¬ (root : ℕ) ^ 2 ≡ 7 [MOD 43] := by
  decide +kernel

/-- The curve over the field of 43 elements, of order 31. -/
def small : Curve where
  Point := ZMod 31
  fieldSize := 43
  groupOrder := 31
  generator := 1
  coordinates := smallCoordinates
  decode := smallDecode
  fieldSize_prime := by norm_num
  fieldSize_mod := rfl
  fieldSize_lt := by norm_num
  groupOrder_prime := by norm_num
  groupOrder_lt := by norm_num
  groupOrder_nsmul := by decide +kernel
  generator_ne_zero := by decide
  coordinates_lt := by decide +kernel
  equation := by decide +kernel
  seven_nonsquare := fun root square =>
    seven_not_square_small ⟨root % 43, Nat.mod_lt _ (by norm_num)⟩
      (((Nat.mod_modEq root 43).pow 2).trans square)
  decode_eq_some := smallDecode_eq_some
  exists_point := fun pair xSmall ySmall onCurve => smallPoint ⟨_, xSmall⟩ ⟨_, ySmall⟩ onCurve
  chord := smallChord

instance : Fintype small.Point := inferInstanceAs (Fintype (ZMod 31))

end Curve
