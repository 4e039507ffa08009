import Mathlib.Data.List.Prime
import Mathlib.NumberTheory.LucasPrimality
import Mathlib.Tactic.NormNum.Prime
import NoiseLink.Crypto.Secp256k1

namespace NoiseLink.Secp256k1

def powMod (m a e : ℕ) : (n acc : ℕ) → ℕ
  | 0, acc => acc
  | n + 1, acc => powMod m a e n (if e.testBit n then acc * acc % m * a % m else acc * acc % m)

theorem mod_two_pow_succ (e n : ℕ) : e % 2 ^ (n + 1) = (if e.testBit n then 2 ^ n else 0) + e % 2 ^ n := by
  rw [Nat.mod_pow_succ, Nat.add_comm, Nat.testBit_eq_decide_div_mod_eq]
  obtain h | h := Nat.mod_two_eq_zero_or_one (e / 2 ^ n) <;> simp [h]

theorem cast_powMod (m a e n acc : ℕ) : (powMod m a e n acc : ZMod m) = acc ^ 2 ^ n * a ^ (e % 2 ^ n) := by
  induction n generalizing acc with
  | zero => simp [powMod, Nat.mod_one]
  | succ n ih =>
      rw [powMod, ih, mod_two_pow_succ]
      by_cases h : e.testBit n
      · rw [if_pos h, if_pos h]
        simp only [ZMod.natCast_mod, Nat.cast_mul]
        ring
      · rw [if_neg h, if_neg h]
        simp only [ZMod.natCast_mod, Nat.cast_mul]
        ring

def power (m a e : ℕ) : ℕ := powMod m a e (e.log2 + 1) 1 % m

theorem cast_power (m a e : ℕ) : (power m a e : ZMod m) = a ^ e := by
  rw [power, ZMod.natCast_mod, cast_powMod, Nat.mod_eq_of_lt Nat.lt_log2_self, Nat.cast_one, one_pow, one_mul]

/-- The order of `a` modulo `p` is `p - 1`, the product of the factors. -/
def Generates (p a : ℕ) (factors : List ℕ) : Prop :=
  1 < p ∧ factors.prod = p - 1 ∧ power p a (p - 1) = 1 ∧ ∀ q ∈ factors, power p a ((p - 1) / q) ≠ 1

instance (p a : ℕ) (factors : List ℕ) : Decidable (Generates p a factors) :=
  inferInstanceAs (Decidable (_ ∧ _ ∧ _ ∧ _))

theorem Generates.prime {p a : ℕ} {factors : List ℕ} (h : Generates p a factors) (hp : ∀ q ∈ factors, q.Prime) :
    p.Prime := by
  obtain ⟨lt, hprod, hone, hne⟩ := h
  have cast (e : ℕ) : (a : ZMod p) ^ e = 1 ↔ power p a e = 1 := by
    rw [← cast_power, ← Nat.cast_one, ZMod.natCast_eq_natCast_iff', power, Nat.mod_mod, Nat.mod_eq_of_lt lt]
  refine lucas_primality p (a : ZMod p) ((cast _).2 hone) fun q hq hdvd => ?_
  rw [← hprod] at hdvd
  obtain ⟨r, hr, hqr⟩ := hq.prime.dvd_prod_iff.1 hdvd
  obtain rfl := (Nat.prime_dvd_prime_iff_eq hq (hp r hr)).1 hqr
  exact fun h => hne q hr ((cast _).1 h)

structure Certificate where
  value : ℕ
  generator : ℕ
  factors : List ℕ

/-- Each certificate rests on known primes and on those before it. -/
def Certified (known : List ℕ) : List Certificate → Prop
  | [] => True
  | c :: cs => Generates c.value c.generator c.factors ∧ (∀ q ∈ c.factors, q ∈ known) ∧ Certified (c.value :: known) cs

instance decidableCertified (known : List ℕ) : (cs : List Certificate) → Decidable (Certified known cs)
  | [] => inferInstanceAs (Decidable True)
  | c :: cs =>
    have := decidableCertified (c.value :: known) cs
    inferInstanceAs (Decidable (_ ∧ _ ∧ _))

theorem Certified.prime {known : List ℕ} {cs : List Certificate} (h : Certified known cs)
    (hk : ∀ q ∈ known, q.Prime) : ∀ p ∈ cs.map (·.value), p.Prime := by
  induction cs generalizing known with
  | nil => simp
  | cons c cs ih =>
      obtain ⟨generates, factors, rest⟩ := h
      have hc : c.value.Prime := generates.prime fun q hq => hk q (factors q hq)
      exact List.forall_mem_cons.2 ⟨hc, ih rest (List.forall_mem_cons.2 ⟨hc, hk⟩)⟩

def smallPrimes : List ℕ :=
  [2, 3, 5, 7, 11, 17, 29, 31, 41, 59, 109, 149, 293, 461, 631, 1627, 2621, 2657, 4051, 4423, 5323, 7723, 13441,
   16699, 24809, 28181, 41201, 85831, 96557, 120233, 305873, 1627771, 4681609, 7240687, 13331831, 44706919, 107590001]

theorem prime_of_mem_smallPrimes : ∀ q ∈ smallPrimes, q.Prime := by
  norm_num [smallPrimes]

def certificates : List Certificate :=
  [⟨173378833005251801, 6, [2, 2, 2, 5, 5, 2621, 24809, 13331831]⟩,
   ⟨22149492674086928081353, 5, [2, 2, 2, 3, 5323, 173378833005251801]⟩,
   ⟨132896956044521568488119, 6, [2, 3, 22149492674086928081353]⟩,
   ⟨255515944373312847190720520512484175977, 3,
     [2, 2, 2, 7, 7, 11, 1627, 2657, 4423, 41201, 96557, 7240687, 107590001]⟩,
   ⟨205115282021455665897114700593932402728804164701536103180137503955397371, 10,
     [2, 3, 5, 29, 29, 31, 7723, 132896956044521568488119, 255515944373312847190720520512484175977]⟩,
   ⟨prime, 3, [2, 3, 7, 13441, 205115282021455665897114700593932402728804164701536103180137503955397371]⟩,
   ⟨107361793816595537, 3, [2, 2, 2, 2, 16699, 85831, 4681609]⟩,
   ⟨174723607534414371449, 3, [2, 2, 2, 17, 59, 4051, 120233, 44706919]⟩,
   ⟨545358713, 5, [2, 2, 2, 41, 59, 28181]⟩,
   ⟨297159362677, 2, [2, 2, 3, 3, 11, 461, 1627771]⟩,
   ⟨29047611873442575647497758179, 2, [2, 293, 305873, 545358713, 297159362677]⟩,
   ⟨341948486974166000522343609283189, 2, [2, 2, 3, 3, 3, 109, 29047611873442575647497758179]⟩,
   ⟨order, 7,
     [2, 2, 2, 2, 2, 2, 3, 149, 631, 107361793816595537, 174723607534414371449, 341948486974166000522343609283189]⟩]

theorem certified_certificates : Certified smallPrimes certificates := by decide +kernel

theorem prime_prime : prime.Prime :=
  certified_certificates.prime prime_of_mem_smallPrimes _ (by simp [certificates])

theorem prime_order : order.Prime :=
  certified_certificates.prime prime_of_mem_smallPrimes _ (by simp [certificates])

end NoiseLink.Secp256k1
