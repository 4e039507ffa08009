import Mathlib.FieldTheory.Finite.Basic
import NoiseLink.Proofs.Primality

namespace NoiseLink.Secp256k1

instance : Fact prime.Prime := ⟨prime_prime⟩

abbrev Element : Type := ZMod prime

theorem natCast_ne_zero {n : ℕ} (pos : 0 < n) (lt : n < prime) : (n : Element) ≠ 0 := by
  rw [ne_eq, ZMod.natCast_eq_zero_iff]
  exact Nat.not_dvd_of_pos_of_lt pos lt

theorem two_ne_zero_element : (2 : Element) ≠ 0 := natCast_ne_zero (n := 2) (by decide) (by decide)

namespace Coordinate

theorem eq_of_cast {a b : ℕ} (ha : a < prime) (hb : b < prime) (h : (a : Element) = b) : a = b := by
  rw [ZMod.natCast_eq_natCast_iff', Nat.mod_eq_of_lt ha, Nat.mod_eq_of_lt hb] at h
  exact h

theorem cast_inj {a b : ℕ} (ha : a < prime) (hb : b < prime) : (a : Element) = b ↔ a = b :=
  ⟨eq_of_cast ha hb, congrArg _⟩

theorem cast_eq_zero {a : ℕ} (ha : a < prime) : (a : Element) = 0 ↔ a = 0 := by
  rw [← cast_inj ha prime_prime.pos, Nat.cast_zero]

variable (a b : ℕ)

@[simp] theorem add_lt : add a b < prime := Nat.mod_lt _ prime_prime.pos

@[simp] theorem sub_lt : sub a b < prime := Nat.mod_lt _ prime_prime.pos

@[simp] theorem mul_lt : mul a b < prime := Nat.mod_lt _ prime_prime.pos

@[simp] theorem square_lt : square a < prime := Nat.mod_lt _ prime_prime.pos

@[simp] theorem cast_add : (add a b : Element) = a + b := by
  rw [add, ZMod.natCast_mod, Nat.cast_add]

@[simp] theorem cast_mul : (mul a b : Element) = a * b := by
  rw [mul, ZMod.natCast_mod, Nat.cast_mul]

@[simp] theorem cast_square : (square a : Element) = a ^ 2 := by
  rw [square, ZMod.natCast_mod, Nat.cast_mul, pow_two]

variable {b} in
@[simp] theorem cast_sub (h : b < prime) : (sub a b : Element) = a - b := by
  rw [sub, ZMod.natCast_mod, Nat.cast_add, Nat.cast_sub h.le, ZMod.natCast_self, zero_sub, sub_eq_add_neg]

theorem powBits_eq (e n acc : ℕ) : powBits a e n acc = powMod prime a e n acc := by
  induction n generalizing acc with
  | zero => rfl
  | succ n ih => exact ih _

theorem powBits_lt {e n acc : ℕ} (h : acc < prime) : powBits a e n acc < prime := by
  induction n generalizing acc with
  | zero => exact h
  | succ n ih =>
      rw [powBits]
      by_cases bit : e.testBit n
      · rw [if_pos bit]
        exact ih (mul_lt _ _)
      · rw [if_neg bit]
        exact ih (square_lt _)

@[simp] theorem pow_lt (e : ℕ) : pow a e < prime := powBits_lt a prime_prime.one_lt

theorem cast_pow {e : ℕ} (h : e < 2 ^ 256) : (pow a e : Element) = a ^ e := by
  rw [pow, powBits_eq, cast_powMod, Nat.mod_eq_of_lt h, Nat.cast_one, one_pow, one_mul]

/-- By Fermat's little theorem, and zero is its own inverse. -/
@[simp] theorem cast_inv : (inv a : Element) = (a : Element)⁻¹ := by
  rw [inv, cast_pow a (by decide)]
  by_cases h : (a : Element) = 0
  · rw [h, inv_zero, zero_pow (by decide)]
  · refine eq_inv_of_mul_eq_one_left ?_
    rw [← pow_succ]
    exact ZMod.pow_card_sub_one_eq_one h

theorem sqrt_eq_some {a r : ℕ} (h : sqrt a = some r) : r < prime ∧ square r = a := by
  simp only [sqrt] at h
  split at h
  · next hr =>
      obtain rfl := Option.some.inj h
      exact ⟨pow_lt _ _, hr⟩
  · exact absurd h (by simp)

/-- A square has a root because `prime` is three modulo four. -/
theorem exists_sqrt {a : ℕ} (ha : a < prime) {y : Element} (hy : y ^ 2 = a) : ∃ r, sqrt a = some r := by
  have root : square (pow a ((prime + 1) / 4)) = a := by
    refine eq_of_cast (square_lt _) ha ?_
    rw [cast_square, cast_pow a (by decide), ← hy, ← pow_mul, ← pow_mul]
    by_cases h : y = 0
    · rw [h, zero_pow (by decide), zero_pow (by decide)]
    · rw [show 2 * ((prime + 1) / 4 * 2) = (prime - 1) + 2 by decide, pow_add, ZMod.pow_card_sub_one_eq_one h, one_mul]
  exact ⟨_, if_pos root⟩

end Coordinate
end NoiseLink.Secp256k1
