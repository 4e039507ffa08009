import NoiseLink.Bytes

namespace NoiseLink

inductive KeyKind where
  | secret
  | point
  deriving DecidableEq, Repr

/-- A key with a byte form of a fixed size, which only some byte strings of that size are. -/
structure KeyCodec (K : Type) where
  kind : KeyKind
  size : Nat
  encode : K → Bytes
  decode : Bytes → Option K

structure Suite where
  Secret : Type
  Point : Type
  Cipher : Type
  secret : KeyCodec Secret
  point : KeyCodec Point
  publicKey : Secret → Point
  agree : Secret → Point → Bytes
  /-- What a secret that is given up is overwritten with. -/
  overwritten : Secret
  hash : Bytes → Bytes
  cipher : Bytes → Cipher
  encrypt : Cipher → (nonce ad text : Bytes) → Bytes
  decrypt : Cipher → (nonce ad sealed : Bytes) → Option Bytes

namespace Suite

variable (S : Suite)

def hashBlock : Nat := 64

def digestSize : Nat := 32

/-- The keyed hash of a text (RFC 2104), for keys of at most one block. -/
def mac (key text : Bytes) : Bytes :=
  let key := key ++ Bytes.zeros (hashBlock - key.length)
  S.hash (key.map (· ^^^ 0x5c) ++ S.hash (key.map (· ^^^ 0x36) ++ text))

/-- Two keys from a chaining key and new material (RFC 5869, with two outputs and no info). -/
def derive (chain material : Bytes) : Bytes × Bytes :=
  let temp := S.mac chain material
  let first := S.mac temp [1]
  (first, S.mac temp (first ++ [2]))

end Suite
end NoiseLink
