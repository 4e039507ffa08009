import NoiseLink.Noise.Error
import NoiseLink.Suite

namespace NoiseLink

def macSize : Nat := 16

structure KeyState (S : Suite) where
  key : Option Bytes
  cipher : Option S.Cipher
  nonce : Nat

/-- Four zero bytes and the count. -/
def nonceBytes (n : Nat) : Bytes := Bytes.zeros 4 ++ Bytes.ofNatLE 8 n

/-- The count that is never used. -/
def lastNonce : Nat := UInt64.size - 1

namespace KeyState

variable {S : Suite}

def empty : KeyState S := ⟨none, none, 0⟩

def ofKey (key : Bytes) : KeyState S := ⟨some key, some (S.cipher key), 0⟩

def erase (k : KeyState S) : KeyState S := { k with key := none, cipher := none }

def encrypt (k : KeyState S) (ad text : Bytes) : Except NoiseError (Bytes × KeyState S) :=
  if k.nonce = lastNonce then .error .nonceExhausted
  else
    match k.cipher with
    | some c => .ok (S.encrypt c (nonceBytes k.nonce) ad text, { k with nonce := k.nonce + 1 })
    | none => .ok (text, k)

def decrypt (k : KeyState S) (ad sealed : Bytes) : Except NoiseError (Bytes × KeyState S) :=
  if k.nonce = lastNonce then .error .nonceExhausted
  else
    match k.cipher with
    | some c =>
      match S.decrypt c (nonceBytes k.nonce) ad sealed with
      | some text => .ok (text, { k with nonce := k.nonce + 1 })
      | none => .error .aead
    | none => .ok (sealed, k)

end KeyState
end NoiseLink
