import NoiseLink.Crypto.ChaCha20
import NoiseLink.Crypto.Poly1305

namespace NoiseLink.Aead

open Bytes

abbrev Key := ChaCha20.Key

def tagSize : Nat := 16

def padding (b : Bytes) : Bytes := zeros ((16 - b.length % 16) % 16)

def tag (k : Key) (nonce ad body : Bytes) : Bytes :=
  Poly1305.tag ((ChaCha20.block k 0 nonce).take 32)
    (ad ++ (padding ad ++ (body ++ (padding body ++ (ofNatLE 8 ad.length ++ ofNatLE 8 body.length)))))

def encrypt (k : Key) (nonce ad text : Bytes) : Bytes :=
  let body := ChaCha20.apply k nonce 1 text
  body ++ tag k nonce ad body

def decrypt (k : Key) (nonce ad sealed : Bytes) : Option Bytes :=
  if sealed.length < tagSize then none
  else
    let body := sealed.take (sealed.length - tagSize)
    if sealed.drop (sealed.length - tagSize) = tag k nonce ad body then some (ChaCha20.apply k nonce 1 body) else none

@[simp] theorem length_tag (k : Key) (nonce ad body : Bytes) : (tag k nonce ad body).length = tagSize :=
  Poly1305.length_tag _ _

@[simp] theorem length_encrypt (k : Key) (nonce ad text : Bytes) :
    (encrypt k nonce ad text).length = text.length + tagSize := by
  simp [encrypt]

theorem decrypt_encrypt (k : Key) (nonce ad text : Bytes) : decrypt k nonce ad (encrypt k nonce ad text) = some text := by
  simp [decrypt, encrypt, ChaCha20.apply_apply]

theorem eq_encrypt_of_decrypt {k : Key} {nonce ad sealed text : Bytes} (h : decrypt k nonce ad sealed = some text) :
    sealed = encrypt k nonce ad text := by
  simp only [decrypt] at h
  split at h
  · simp at h
  · split at h
    · next ht =>
      cases h
      rw [encrypt, ChaCha20.apply_apply, ← ht, List.take_append_drop]
    · simp at h

theorem decrypt_eq_some_iff {k : Key} {nonce ad sealed text : Bytes} :
    decrypt k nonce ad sealed = some text ↔ sealed = encrypt k nonce ad text :=
  ⟨eq_encrypt_of_decrypt, fun h => h ▸ decrypt_encrypt k nonce ad text⟩

end NoiseLink.Aead
