import NoiseLink.Noise.Party

namespace NoiseLink

/-- Four zero bytes, and then a count in eight bytes, the lowest first. -/
def counter (n : Nat) : Bytes :=
  [0, 0, 0, 0, .ofNat n, .ofNat (n >>> 8), .ofNat (n >>> 16), .ofNat (n >>> 24), .ofNat (n >>> 32), .ofNat (n >>> 40),
    .ofNat (n >>> 48), .ofNat (n >>> 56)]

theorem nonceBytes_eq (n : Nat) : nonceBytes n = counter n := by
  simp [nonceBytes, counter, Bytes.zeros, Bytes.ofNatLE, Nat.shiftRight_eq_div_pow, Nat.div_div_eq_div_mul]

namespace Suite

variable (S : Suite)

def firstOutput (salt material : Bytes) : Bytes := S.mac (S.mac salt material) [1]

def secondOutput (salt material : Bytes) : Bytes :=
  S.mac (S.mac salt material) (S.mac (S.mac salt material) [1] ++ [2])

def sealed (key : Bytes) (n : Nat) (ad text : Bytes) : Bytes := S.encrypt (S.cipher key) (counter n) ad text

def unsealed (key : Bytes) (n : Nat) (ad sealed : Bytes) : Option Bytes :=
  S.decrypt (S.cipher key) (counter n) ad sealed

def Opens : Prop :=
  ∀ (c : S.Cipher) (nonce ad text : Bytes), S.decrypt c nonce ad (S.encrypt c nonce ad text) = some text

structure Sealing : Prop where
  opens : S.Opens
  length_encrypt : ∀ (c : S.Cipher) (nonce ad text : Bytes), (S.encrypt c nonce ad text).length = text.length + macSize

/-- What opens is its sealed text without the tag, as far as the sizes tell. -/
def Strips : Prop :=
  ∀ {c : S.Cipher} {nonce ad sealed text : Bytes},
    S.decrypt c nonce ad sealed = some text → sealed.length = text.length + macSize

/-- Nothing opens but what was sealed. -/
structure Authentic : Prop extends Sealing S where
  eq_encrypt_of_decrypt : ∀ {c : S.Cipher} {nonce ad sealed text : Bytes},
    S.decrypt c nonce ad sealed = some text → sealed = S.encrypt c nonce ad text

/-- What honest sides rely on: they compute the same secrets, and the points they send read back. -/
structure Lawful : Prop extends Sealing S where
  agree_comm : ∀ a b : S.Secret, S.agree a (S.publicKey b) = S.agree b (S.publicKey a)
  decode_publicKey : ∀ s : S.Secret, S.point.decode (S.point.encode (S.publicKey s)) = some (S.publicKey s)
  length_point : ∀ p : S.Point, (S.point.encode p).length = publicKeySize

/-- Nothing opens but what was sealed, and a point is read from its own byte form only. -/
structure Exact : Prop extends Sealing S where
  eq_encrypt_of_decrypt : ∀ {c : S.Cipher} {nonce ad sealed text : Bytes},
    S.decrypt c nonce ad sealed = some text → sealed = S.encrypt c nonce ad text
  encode_of_decode : ∀ {b : Bytes} {p : S.Point}, S.point.decode b = some p → S.point.encode p = b
  length_point : ∀ p : S.Point, (S.point.encode p).length = publicKeySize

variable {S}

theorem Opens.unsealed_sealed (opens : S.Opens) (key : Bytes) (n : Nat) (ad text : Bytes) :
    S.unsealed key n ad (S.sealed key n ad text) = some text :=
  opens _ _ _ _

theorem Sealing.length_sealed (sealing : S.Sealing) (key : Bytes) (n : Nat) (ad text : Bytes) :
    (S.sealed key n ad text).length = text.length + macSize :=
  sealing.length_encrypt _ _ _ _

theorem Exact.authentic (exact : S.Exact) : S.Authentic where
  toSealing := exact.toSealing
  eq_encrypt_of_decrypt := exact.eq_encrypt_of_decrypt

namespace Authentic

variable (authentic : S.Authentic)
include authentic

theorem decrypt_eq_some_iff {c : S.Cipher} {nonce ad sealed text : Bytes} :
    S.decrypt c nonce ad sealed = some text ↔ sealed = S.encrypt c nonce ad text := by
  constructor
  · exact authentic.eq_encrypt_of_decrypt
  · rintro rfl
    exact authentic.opens c nonce ad text

theorem strips : S.Strips := by
  intro c nonce ad sealed text opened
  rw [authentic.eq_encrypt_of_decrypt opened, authentic.length_encrypt]

variable {key : Bytes} {n : Nat} {ad : Bytes}

theorem unsealed_eq_some_iff {sealed text : Bytes} :
    S.unsealed key n ad sealed = some text ↔ sealed = S.sealed key n ad text :=
  authentic.decrypt_eq_some_iff

theorem unsealed_eq_none {sealed : Bytes} (h : ∀ text, sealed ≠ S.sealed key n ad text) :
    S.unsealed key n ad sealed = none := by
  cases hu : S.unsealed key n ad sealed with
  | none => rfl
  | some text => exact absurd (authentic.unsealed_eq_some_iff.1 hu) (h text)

/-- The size of what was sealed tells the size of what opens. -/
theorem unsealed_eq_none_of_ne {tag : Bytes} (ht : tag.length = macSize) (h : tag ≠ S.sealed key n ad []) :
    S.unsealed key n ad tag = none := by
  refine authentic.unsealed_eq_none fun text he => h ?_
  have empty : text = [] := by
    rw [he, authentic.toSealing.length_sealed] at ht
    exact List.eq_nil_of_length_eq_zero (Nat.add_eq_right.1 ht)
  rw [he, empty]

end Authentic

end Suite
end NoiseLink
