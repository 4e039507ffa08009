import NoiseLink.Proofs.StandardSuite

namespace NoiseLink.Secp256k1

open Bytes Coordinate

structure Point.OnCurve (p : Point) : Prop where
  x_lt : p.x < prime
  y_lt : p.y < prime
  equation : p.y ^ 2 % prime = (p.x ^ 3 + 7) % prime

theorem Point.OnCurve.exists_plane {p : Point} (h : p.OnCurve) : ∃ Q : Group, Q ≠ 0 ∧ Q.plane = p := by
  have equation : (p.y : Element) ^ 2 = (p.x : Element) ^ 3 + 7 := by
    have same := (ZMod.natCast_eq_natCast_iff' _ _ prime).2 h.equation
    push_cast at same
    exact same
  refine ⟨.some _ _ (nonsingular_curve ((equation_curve _ _).2 equation)), WeierstrassCurve.Affine.Point.some_ne_zero _, ?_⟩
  exact congrArg₂ Point.mk (ZMod.val_natCast_of_lt h.x_lt) (ZMod.val_natCast_of_lt h.y_lt)

/-- There is no point with `y = 0`: minus seven is no cube. -/
theorem cube_add_seven_ne_zero (x : Element) : x ^ 3 + 7 ≠ 0 := by
  intro zero
  have seven : ((prime - 7 : ℕ) : Element) = x ^ 3 := by
    rw [Nat.cast_sub (by decide), ZMod.natCast_self, zero_sub, eq_comm, eq_neg_iff_add_eq_zero]
    exact_mod_cast zero
  have nonzero : x ≠ 0 := by
    rintro rfl
    rw [zero_pow three_ne_zero] at seven
    exact natCast_ne_zero (by decide) (by decide) seven
  have power : ((pow (prime - 7) ((prime - 1) / 3) : ℕ) : Element) = ((1 : ℕ) : Element) := by
    rw [cast_pow _ (by decide), seven, ← pow_mul, show 3 * ((prime - 1) / 3) = prime - 1 by decide, Nat.cast_one]
    exact ZMod.pow_card_sub_one_eq_one nonzero
  have other : pow (prime - 7) ((prime - 1) / 3) ≠ 1 := by decide +kernel
  exact other (eq_of_cast (pow_lt _ _) (by decide) power)

theorem Point.onCurve_of_ofBytes? {b : Bytes} {p : Point} (h : Point.ofBytes? b = some p) : p.OnCurve := by
  cases b with
  | nil => cases h
  | cons sign rest =>
      simp only [Point.ofBytes?] at h
      split at h
      · next cond =>
          obtain ⟨r, root, rfl⟩ := Option.map_eq_some_iff.1 h
          obtain ⟨lt, squared⟩ := sqrt_eq_some root
          have equation : (r : Element) ^ 2 = (toNatBE rest : Element) ^ 3 + 7 := by
            rw [← cast_square, squared]
            simp [pow_succ]
          have positive : 0 < r := by
            by_contra none
            obtain rfl : r = 0 := Nat.eq_zero_of_not_pos none
            rw [Nat.cast_zero, zero_pow two_ne_zero] at equation
            exact cube_add_seven_ne_zero _ equation.symm
          refine ⟨cond.2.2, ?_, ?_⟩
          · simp only
            split <;> omega
          · apply (ZMod.natCast_eq_natCast_iff' _ _ prime).1
            push_cast
            rw [← equation]
            split
            · rfl
            · rw [Nat.cast_sub lt.le, ZMod.natCast_self, zero_sub, neg_sq]
      · cases h

theorem Point.ofBytes?_eq_some_iff {b : Bytes} {p : Point} : Point.ofBytes? b = some p ↔ p.OnCurve ∧ p.toBytes = b := by
  constructor
  · exact fun h => ⟨onCurve_of_ofBytes? h, toBytes_of_ofBytes? h⟩
  · rintro ⟨onCurve, rfl⟩
    obtain ⟨Q, nonzero, rfl⟩ := onCurve.exists_plane
    exact ofBytes?_toBytes_plane nonzero

theorem Secret.ofBytes?_eq_some_iff {b : Bytes} {s : Secret} : Secret.ofBytes? b = some s ↔ s.toBytes = b := by
  constructor
  · intro h
    rw [Secret.ofBytes?] at h
    split at h
    · next cond =>
        cases h
        rw [Secret.toBytes, ← cond.1]
        exact ofNatBE_toNatBE b
    · cases h
  · rintro rfl
    exact s.ofBytes?_toBytes

end NoiseLink.Secp256k1
