import NoiseLink.Proofs.CurveGroup

namespace NoiseLink.Secp256k1

open Bytes Coordinate WeierstrassCurve.Affine

theorem equation_generator : curve.Equation (generator.x : Element) (generator.y : Element) := by
  have h : square generator.y = add (mul (square generator.x) generator.x) 7 := by decide +kernel
  rw [equation_curve, ← cast_square, h]
  simp [pow_succ]

def base : Group := .some _ _ (nonsingular_curve equation_generator)

theorem plane_base : base.plane = generator := by
  have x : (generator.x : Element).val = generator.x := ZMod.val_natCast_of_lt (by decide)
  have y : (generator.y : Element).val = generator.y := ZMod.val_natCast_of_lt (by decide)
  exact congrArg₂ Point.mk x y

theorem base_ne_zero : base ≠ 0 := Point.some_ne_zero _

theorem addOrderOf_base : addOrderOf base = order := by
  have prime_order := Fact.mk prime_order
  have zero : (Jacobian.mulBits order generator 256 .neutral).z = 0 := by decide +kernel
  have multiple := Group.holds_mulBits base_ne_zero (k := order) (by decide)
  rw [plane_base] at multiple
  refine addOrderOf_eq_prime ?_ base_ne_zero
  rw [multiple.eq_zero_iff, zero, Nat.cast_zero]

def Secret.multiple (s : Secret) : Group := s.scalar • base

variable (s : Secret)

theorem Secret.scalar_lt : s.scalar < 2 ^ 256 := s.lt.trans (by decide)

theorem Secret.multiple_ne_zero : s.multiple ≠ 0 := by
  intro h
  have dvd := addOrderOf_dvd_of_nsmul_eq_zero h
  rw [addOrderOf_base] at dvd
  exact Nat.not_dvd_of_pos_of_lt s.pos s.lt dvd

theorem Secret.publicPoint_eq : s.publicPoint = s.multiple.plane := by
  rw [publicPoint, ← plane_base, Group.mul_plane base_ne_zero s.scalar_lt]
  rfl

theorem Secret.mul_publicPoint (t : Secret) : t.publicPoint.mul s.scalar = ((s.scalar * t.scalar) • base).plane := by
  rw [publicPoint_eq, Group.mul_plane t.multiple_ne_zero s.scalar_lt, multiple, ← mul_nsmul']

theorem Secret.mul_publicPoint_comm (t : Secret) : t.publicPoint.mul s.scalar = s.publicPoint.mul t.scalar := by
  rw [mul_publicPoint, mul_publicPoint, Nat.mul_comm]

theorem odd_prime : prime % 2 = 1 := by decide

/-- Of two roots, the sign byte tells the one that it was made from. -/
theorem root_of_parity {r : ℕ} (hr : r < prime) {y : Element} (h : (r : Element) ^ 2 = y ^ 2) :
    (if r % 2 + 2 = 2 + y.val % 2 then r else prime - r) = y.val := by
  have odd := odd_prime
  have lt := ZMod.val_lt y
  obtain same | opposite := sq_eq_sq_iff_eq_or_eq_neg.1 h
  · have eq : r = y.val := eq_of_cast hr lt (by rw [same, ZMod.natCast_zmod_val])
    rw [if_pos (by omega), eq]
  · -- the two roots add up to `prime`, which is odd, or both are zero
    have sum : ((r + y.val : ℕ) : Element) = 0 := by
      rw [Nat.cast_add, opposite, ZMod.natCast_zmod_val, neg_add_cancel]
    obtain ⟨k, hk⟩ := (ZMod.natCast_eq_zero_iff _ _).1 sum
    obtain rfl | rfl : k = 0 ∨ k = 1 := by
      have : k < 2 := by
        by_contra two
        have := Nat.mul_le_mul_left prime (Nat.le_of_not_lt two)
        omega
      omega
    · rw [if_pos (by omega)]
      omega
    · rw [if_neg (by omega)]
      omega

theorem ofBytes?_toBytes_plane {Q : Group} (hQ : Q ≠ 0) : Point.ofBytes? Q.plane.toBytes = some Q.plane := by
  cases Q with
  | zero => exact absurd rfl hQ
  | some x y h =>
      have onCurve : y ^ 2 = (add (mul (square x.val) x.val) 7 : ℕ) := by
        rw [(equation_curve x y).1 h.1]
        simp [pow_succ]
      obtain ⟨r, root⟩ := exists_sqrt (add_lt _ _) onCurve
      obtain ⟨hr, square⟩ := sqrt_eq_some root
      have read : toNatBE (ofNatBE 32 x.val) = x.val := by
        rw [toNatBE_ofNatBE]
        exact Nat.mod_eq_of_lt ((ZMod.val_lt x).trans (by decide))
      have sign : (UInt8.ofNat (2 + y.val % 2)).toNat = 2 + y.val % 2 := by
        rw [UInt8.toNat_ofNat']
        omega
      have even : UInt8.ofNat (2 + y.val % 2) = 2 ∨ UInt8.ofNat (2 + y.val % 2) = 3 := by
        obtain h | h := Nat.mod_two_eq_zero_or_one y.val <;> simp [h]
      have parity := root_of_parity hr (y := y) (by rw [onCurve, ← square, cast_square])
      simp only [Group.plane, Point.toBytes, Point.ofBytes?, length_ofNatBE, read]
      rw [if_pos ⟨trivial, even, ZMod.val_lt x⟩, root, Option.map_some, sign, parity]

theorem ofBytes?_toBytes_publicPoint : Point.ofBytes? s.publicPoint.toBytes = some s.publicPoint := by
  rw [s.publicPoint_eq]
  exact ofBytes?_toBytes_plane s.multiple_ne_zero

theorem toBytes_of_ofBytes? {b : Bytes} {p : Point} (h : Point.ofBytes? b = some p) : p.toBytes = b := by
  cases b with
  | nil => exact absurd h (by simp [Point.ofBytes?])
  | cons sign rest =>
      simp only [Point.ofBytes?] at h
      split at h
      · next cond =>
          obtain ⟨size, even, -⟩ := cond
          obtain ⟨r, root, rfl⟩ := Option.map_eq_some_iff.1 h
          have odd := odd_prime
          have lt := (sqrt_eq_some root).1
          have value : sign.toNat = 2 ∨ sign.toNat = 3 := by
            obtain rfl | rfl := even
            · exact .inl rfl
            · exact .inr rfl
          have parity : 2 + (if r % 2 + 2 = sign.toNat then r else prime - r) % 2 = sign.toNat := by
            split <;> omega
          rw [Point.toBytes]
          simp only
          rw [parity, UInt8.ofNat_toNat, ← size, ofNatBE_toNatBE]
      · exact absurd h (by simp)

end NoiseLink.Secp256k1
