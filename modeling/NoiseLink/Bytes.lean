namespace NoiseLink

abbrev Bytes := List UInt8

namespace Bytes

def zeros (n : Nat) : Bytes := List.replicate n 0

def ofNatLE : (size n : Nat) → Bytes
  | 0, _ => []
  | size + 1, n => UInt8.ofNat n :: ofNatLE size (n / 256)

def ofNatBE (size n : Nat) : Bytes := (ofNatLE size n).reverse

def toNatLE (b : Bytes) : Nat := b.foldr (fun x n => x.toNat + 256 * n) 0

def toNatBE (b : Bytes) : Nat := b.foldl (fun n x => 256 * n + x.toNat) 0

def count : (size : Nat) → Nat
  | 0 => 1
  | size + 1 => 256 * count size

def mask (a b : Bytes) : Bytes := List.zipWith (· ^^^ ·) a b

/-- Consecutive pieces of `n` elements; the last one may be shorter. -/
def chunks {α : Type} (n : Nat) (l : List α) : List (List α) :=
  if _h : n = 0 ∨ l = [] then [] else l.take n :: chunks n (l.drop n)
termination_by l.length
decreasing_by
  have := List.length_pos_iff.mpr fun e => _h (Or.inr e)
  simp only [List.length_drop]
  omega

@[simp] theorem length_zeros (n : Nat) : (zeros n).length = n := List.length_replicate

@[simp] theorem length_ofNatLE (size n : Nat) : (ofNatLE size n).length = size := by
  induction size generalizing n with
  | zero => rfl
  | succ size ih => simp [ofNatLE, ih]

@[simp] theorem length_ofNatBE (size n : Nat) : (ofNatBE size n).length = size := by
  simp [ofNatBE]

theorem toNatLE_ofNatLE (size n : Nat) : toNatLE (ofNatLE size n) = n % count size := by
  induction size generalizing n with
  | zero => simp [ofNatLE, toNatLE, count, Nat.mod_one]
  | succ size ih =>
    have step : toNatLE (ofNatLE (size + 1) n) = n % 256 + 256 * toNatLE (ofNatLE size (n / 256)) := by
      simp [ofNatLE, toNatLE]
    rw [step, ih, count, Nat.mod_mul]

theorem ofNatLE_toNatLE (b : Bytes) : ofNatLE b.length (toNatLE b) = b := by
  induction b with
  | nil => rfl
  | cons x b ih =>
    have split : toNatLE (x :: b) = x.toNat + 256 * toNatLE b := rfl
    have low : UInt8.ofNat (toNatLE (x :: b)) = x := by
      rw [split, ← UInt8.toNat_inj, UInt8.toNat_ofNat']
      have := x.toNat_lt
      omega
    have high : toNatLE (x :: b) / 256 = toNatLE b := by
      have := x.toNat_lt
      omega
    rw [List.length_cons, ofNatLE, low, high, ih]

theorem toNatBE_reverse (b : Bytes) : toNatBE b.reverse = toNatLE b := by
  simp only [toNatBE, toNatLE, List.foldl_reverse]
  congr 1
  funext x n
  omega

theorem toNatBE_ofNatBE (size n : Nat) : toNatBE (ofNatBE size n) = n % count size := by
  rw [ofNatBE, toNatBE_reverse, toNatLE_ofNatLE]

theorem ofNatBE_toNatBE (b : Bytes) : ofNatBE b.length (toNatBE b) = b := by
  have h := ofNatLE_toNatLE b.reverse
  rw [← toNatBE_reverse, List.reverse_reverse, List.length_reverse] at h
  rw [ofNatBE, h, List.reverse_reverse]

end Bytes
end NoiseLink
