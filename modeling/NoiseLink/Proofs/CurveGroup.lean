import Mathlib.AlgebraicGeometry.EllipticCurve.Affine.Point
import Mathlib.GroupTheory.OrderOfElement
import NoiseLink.Proofs.Coordinates

namespace NoiseLink.Secp256k1

open WeierstrassCurve.Affine

def curve : WeierstrassCurve.Affine Element := ⟨0, 0, 0, 0, 7⟩

abbrev Group : Type := curve.Point

theorem negY_curve (x y : Element) : curve.negY x y = -y := by
  simp [negY, curve]

theorem equation_curve (x y : Element) : curve.Equation x y ↔ y ^ 2 = x ^ 3 + 7 := by
  simp [equation_iff, curve]

theorem addX_curve (x₁ x₂ l : Element) : curve.addX x₁ x₂ l = l ^ 2 - x₁ - x₂ := by
  simp [addX, curve]

theorem addY_curve (x₁ x₂ y₁ l : Element) : curve.addY x₁ x₂ y₁ l = l * (x₁ - (l ^ 2 - x₁ - x₂)) - y₁ := by
  rw [addY, negY_curve, negAddY, addX_curve]
  ring

theorem nonsingular_curve {x y : Element} (h : curve.Equation x y) : curve.Nonsingular x y := by
  refine (equation_iff_nonsingular_of_Δ_ne_zero ?_).1 h
  have discriminant : curve.Δ = -((21168 : ℕ) : Element) := by
    simp only [WeierstrassCurve.Δ, WeierstrassCurve.b₂, WeierstrassCurve.b₄, WeierstrassCurve.b₆, WeierstrassCurve.b₈,
      curve]
    norm_num
  rw [discriminant, neg_ne_zero]
  exact natCast_ne_zero (by decide) (by decide)

theorem slope_self {x y : Element} (hy : y ≠ curve.negY x y) : curve.slope x x y y * (2 * y) = 3 * x ^ 2 := by
  have two : y - curve.negY x y ≠ 0 := sub_ne_zero.2 hy
  rw [slope_of_Y_ne rfl hy]
  rw [negY_curve, sub_neg_eq_add, ← two_mul] at two ⊢
  rw [div_mul_cancel₀ _ two]
  simp [curve]

theorem slope_other {x₁ x₂ : Element} (y₁ y₂ : Element) (hx : x₁ ≠ x₂) :
    curve.slope x₁ x₂ y₁ y₂ * (x₂ - x₁) = y₂ - y₁ := by
  have apart : x₁ - x₂ ≠ 0 := sub_ne_zero.2 hx
  rw [slope_of_X_ne hx, ← neg_sub x₁, ← neg_sub y₁, mul_neg, div_mul_cancel₀ _ apart]

namespace Jacobian

open Coordinate

/-- The coordinates stand for a point of the group. -/
inductive Holds (p : Jacobian) : Group → Prop
  | neutral (hz : (p.z : Element) = 0) : p.Holds 0
  | affine {x y : Element} (h : curve.Nonsingular x y) (hz : (p.z : Element) ≠ 0) (hx : (p.x : Element) = x * p.z ^ 2)
      (hy : (p.y : Element) = y * p.z ^ 3) : p.Holds (.some x y h)

theorem Holds.eq_zero_iff {p : Jacobian} {P : Group} (h : p.Holds P) : P = 0 ↔ (p.z : Element) = 0 := by
  cases h with
  | neutral hz => simp [hz]
  | affine h hz => simp [hz, Point.some_ne_zero]

structure Reduced (p : Jacobian) : Prop where
  x : p.x < prime
  y : p.y < prime
  z : p.z < prime

theorem reduced_double (p : Jacobian) : p.double.Reduced := ⟨sub_lt _ _, sub_lt _ _, mul_lt _ _⟩

variable {p : Jacobian} {P : Group}

theorem Holds.double (h : p.Holds P) : p.double.Holds (P + P) := by
  cases h with
  | neutral hz =>
      rw [add_zero]
      exact .neutral (by simp [Jacobian.double, hz])
  | @affine x y h hz hx hy =>
      -- where the tangent is vertical, `y` is zero and the double is the neutral point
      by_cases flat : y = curve.negY x y
      · rw [Point.add_self_of_Y_eq flat]
        have zero : y = 0 := by
          rw [negY_curve, eq_neg_iff_add_eq_zero, ← two_mul] at flat
          exact (mul_eq_zero.1 flat).resolve_left two_ne_zero_element
        exact .neutral (by simp [Jacobian.double, hy, zero])
      · rw [Point.add_self_of_Y_ne flat]
        have tangent := slope_self flat
        have nonzero : y ≠ 0 := by
          rintro rfl
          exact flat (by rw [negY_curve, neg_zero])
        refine .affine _ ?_ ?_ ?_
        · simp [Jacobian.double, hy, hz, nonzero, two_ne_zero_element]
        · rw [addX_curve]
          simp only [Jacobian.double, cast_mul, cast_add, cast_square, cast_sub, mul_lt, square_lt, hx, hy,
            Nat.cast_ofNat]
          linear_combination (-(curve.slope x x y y * (2 * y) + 3 * x ^ 2) * p.z ^ 8) * tangent
        · rw [addY_curve]
          simp only [Jacobian.double, cast_mul, cast_add, cast_square, cast_sub, sub_lt, mul_lt, square_lt, hx, hy,
            Nat.cast_ofNat]
          linear_combination (-p.z ^ 12 * (12 * x * y ^ 2 - ((3 * x ^ 2) ^ 2 +
            3 * x ^ 2 * (curve.slope x x y y * (2 * y)) + (curve.slope x x y y * (2 * y)) ^ 2))) * tangent

end Jacobian

/-- The coordinates of a point of the group, where the neutral point is at `(0, 0)`, which is not on the curve. -/
def Group.plane : Group → Point
  | .zero => ⟨0, 0⟩
  | .some x y _ => ⟨x.val, y.val⟩

namespace Jacobian

open Coordinate

variable {p : Jacobian} {P : Group}

theorem holds_ofPoint {Q : Group} (hQ : Q ≠ 0) : (ofPoint Q.plane).Holds Q := by
  cases Q with
  | zero => exact absurd rfl hQ
  | some x y h => exact .affine h (by simp [ofPoint]) (by simp [ofPoint, Group.plane]) (by simp [ofPoint, Group.plane])

theorem scaled_x {x₁ x₂ : Element} (hp : p.x < prime) (hz : (p.z : Element) ≠ 0) (hx : (p.x : Element) = x₁ * p.z ^ 2) :
    mul x₂.val (square p.z) = p.x ↔ x₂ = x₁ := by
  rw [← cast_inj (mul_lt _ _) hp, hx, cast_mul, cast_square, ZMod.natCast_zmod_val]
  exact mul_left_inj' (pow_ne_zero 2 hz)

theorem scaled_y {y₁ y₂ : Element} (hp : p.y < prime) (hz : (p.z : Element) ≠ 0) (hy : (p.y : Element) = y₁ * p.z ^ 3) :
    mul y₂.val (mul (square p.z) p.z) = p.y ↔ y₂ = y₁ := by
  rw [← cast_inj (mul_lt _ _) hp, hy, cast_mul, cast_mul, cast_square, ZMod.natCast_zmod_val, ← pow_succ]
  exact mul_left_inj' (pow_ne_zero 3 hz)

theorem Holds.addPoint (hp : p.Reduced) (h : p.Holds P) {Q : Group} (hQ : Q ≠ 0) :
    (p.addPoint Q.plane).Holds (P + Q) := by
  cases Q with
  | zero => exact absurd rfl hQ
  | some x₂ y₂ h₂ =>
      cases h with
      | neutral hz =>
          rw [zero_add, Jacobian.addPoint, if_pos ((cast_eq_zero hp.z).1 hz)]
          exact holds_ofPoint hQ
      | @affine x₁ y₁ h₁ hz hx hy =>
          simp only [Jacobian.addPoint, if_neg (mt (cast_eq_zero hp.z).2 hz), Group.plane, scaled_x hp.x hz hx,
            scaled_y hp.y hz hy]
          by_cases ex : x₂ = x₁
          · subst x₂
            by_cases ey : y₂ = y₁
            · subst y₂
              rw [if_pos rfl, if_pos rfl]
              exact (Holds.affine h₁ hz hx hy).double
            · rw [if_pos rfl, if_neg ey, Point.add_of_Y_eq rfl]
              · exact .neutral Nat.cast_zero
              · exact (Y_eq_of_X_eq h₁.1 h₂.1 rfl).resolve_left (Ne.symm ey)
          · rw [if_neg ex, Point.add_of_X_ne (Ne.symm ex)]
            have chord := slope_other y₁ y₂ (Ne.symm ex)
            have apart : x₂ - x₁ ≠ 0 := sub_ne_zero.2 ex
            refine .affine _ ?_ ?_ ?_
            · have scale : (p.z : Element) * (x₂ * p.z ^ 2 - x₁ * p.z ^ 2) = (x₂ - x₁) * p.z ^ 3 := by ring
              simp only [cast_mul, cast_square, cast_sub, hp.x, hx, ZMod.natCast_zmod_val, scale]
              exact mul_ne_zero apart (pow_ne_zero 3 hz)
            · rw [addX_curve]
              simp only [cast_mul, cast_square, cast_sub, mul_lt, hp.x, hp.y, hx, hy, Nat.cast_ofNat,
                ZMod.natCast_zmod_val]
              linear_combination (-(curve.slope x₁ x₂ y₁ y₂ * (x₂ - x₁) + (y₂ - y₁)) * p.z ^ 6) * chord
            · rw [addY_curve]
              simp only [cast_mul, cast_square, cast_sub, mul_lt, sub_lt, hp.x, hp.y, hx, hy, Nat.cast_ofNat,
                ZMod.natCast_zmod_val]
              linear_combination (-p.z ^ 9 * ((x₂ - x₁) ^ 2 * (2 * x₁ + x₂) - ((y₂ - y₁) ^ 2 + (y₂ - y₁) *
                (curve.slope x₁ x₂ y₁ y₂ * (x₂ - x₁)) + (curve.slope x₁ x₂ y₁ y₂ * (x₂ - x₁)) ^ 2))) * chord

theorem reduced_ofPoint (Q : Group) : (ofPoint Q.plane).Reduced := by
  cases Q with
  | zero => exact ⟨prime_prime.pos, prime_prime.pos, prime_prime.one_lt⟩
  | some x y h => exact ⟨ZMod.val_lt x, ZMod.val_lt y, prime_prime.one_lt⟩

theorem reduced_addPoint (Q : Group) : (p.addPoint Q.plane).Reduced := by
  simp only [Jacobian.addPoint]
  split
  · exact reduced_ofPoint Q
  · split
    · split
      · exact reduced_double p
      · exact ⟨prime_prime.one_lt, prime_prime.one_lt, prime_prime.pos⟩
    · exact ⟨sub_lt _ _, sub_lt _ _, mul_lt _ _⟩

/-- What is accumulated is doubled `n` times, and the multiple for the low `n` bits of `k` is added. -/
theorem Holds.mulBits (hp : p.Reduced) (h : p.Holds P) {Q : Group} (hQ : Q ≠ 0) (k n : ℕ) :
    (mulBits k Q.plane n p).Holds (2 ^ n • P + (k % 2 ^ n) • Q) := by
  induction n generalizing p P with
  | zero => simpa [Jacobian.mulBits, Nat.mod_one] using h
  | succ n ih =>
      rw [Jacobian.mulBits, mod_two_pow_succ, pow_succ, mul_nsmul, two_nsmul, ← nsmul_add]
      by_cases bit : k.testBit n
      · rw [if_pos bit, if_pos bit, add_nsmul, ← add_assoc, ← nsmul_add]
        exact ih (reduced_addPoint Q) (h.double.addPoint (reduced_double p) hQ)
      · rw [if_neg bit, if_neg bit, zero_add]
        exact ih (reduced_double p) h.double

theorem toPoint_eq {q : Point} (hx : q.x < prime) (hy : q.y < prime)
    (ex : (p.x : Element) * (p.z : Element)⁻¹ ^ 2 = q.x)
    (ey : (p.y : Element) * (p.z : Element)⁻¹ ^ 3 = q.y) : p.toPoint = q := by
  have x : p.toPoint.x = q.x := by
    refine eq_of_cast (mul_lt _ _) hx ?_
    rw [← ex, toPoint, cast_mul, cast_square, cast_inv]
  have y : p.toPoint.y = q.y := by
    refine eq_of_cast (mul_lt _ _) hy ?_
    rw [← ey, toPoint, cast_mul, cast_mul, cast_square, cast_inv, ← pow_succ]
  exact congrArg₂ Point.mk x y

theorem Holds.toPoint (h : p.Holds P) : p.toPoint = P.plane := by
  cases h with
  | neutral hz =>
      refine toPoint_eq prime_prime.pos prime_prime.pos ?_ ?_ <;>
        simp [Group.plane, hz]
  | @affine x y h hz hx hy =>
      refine toPoint_eq (ZMod.val_lt x) (ZMod.val_lt y) ?_ ?_
      · rw [hx, Group.plane, ZMod.natCast_zmod_val, inv_pow, mul_inv_cancel_right₀ (pow_ne_zero 2 hz)]
      · rw [hy, Group.plane, ZMod.natCast_zmod_val, inv_pow, mul_inv_cancel_right₀ (pow_ne_zero 3 hz)]

end Jacobian

theorem Group.holds_mulBits {Q : Group} (hQ : Q ≠ 0) {k : ℕ} (h : k < 2 ^ 256) :
    (Jacobian.mulBits k Q.plane 256 .neutral).Holds (k • Q) := by
  have reduced : Jacobian.neutral.Reduced := ⟨prime_prime.one_lt, prime_prime.one_lt, prime_prime.pos⟩
  have holds : Jacobian.neutral.Holds 0 := .neutral Nat.cast_zero
  have multiple := holds.mulBits reduced hQ k 256
  rw [nsmul_zero, zero_add, Nat.mod_eq_of_lt h] at multiple
  exact multiple

theorem Group.mul_plane {Q : Group} (hQ : Q ≠ 0) {k : ℕ} (h : k < 2 ^ 256) : Q.plane.mul k = (k • Q).plane :=
  (holds_mulBits hQ h).toPoint

end NoiseLink.Secp256k1
