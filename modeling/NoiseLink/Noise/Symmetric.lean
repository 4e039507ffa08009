import NoiseLink.Noise.KeyState

namespace NoiseLink

def protocolName : Bytes := "Noise_XK_secp256k1_ChaChaPoly_SHA256".toList.map fun c => UInt8.ofNat c.toNat

def prologue : Bytes := "lightning".toList.map fun c => UInt8.ofNat c.toNat

structure Symmetric (S : Suite) where
  hash : Bytes
  chain : Bytes
  keys : KeyState S

namespace Symmetric

variable {S : Suite}

def mixHash (s : Symmetric S) (data : Bytes) : Symmetric S := { s with hash := S.hash (s.hash ++ data) }

def mixKey (s : Symmetric S) (material : Bytes) : Symmetric S :=
  let (chain, key) := S.derive s.chain material
  { s with chain, keys := .ofKey key }

/-- Both sides start from the protocol name, the prologue and the responder's static key. -/
def start (responder : S.Point) : Symmetric S :=
  let h := S.hash protocolName
  (({ hash := h, chain := h, keys := .empty : Symmetric S }.mixHash prologue).mixHash (S.point.encode responder))

/-- Encrypts under the transcript hash and mixes in what is sent; without a key the text is only hashed. -/
def encryptAndHash (s : Symmetric S) (text : Bytes) : Except NoiseError (Bytes × Symmetric S) := do
  if s.keys.key.isSome then
    let (sealed, keys) ← s.keys.encrypt s.hash text
    return (sealed, { s with keys }.mixHash sealed)
  else return (text, s.mixHash text)

def decryptAndHash (s : Symmetric S) (sealed : Bytes) : Except NoiseError (Bytes × Symmetric S) := do
  if s.keys.key.isSome then
    let (text, keys) ← s.keys.decrypt s.hash sealed
    return (text, { s with keys }.mixHash sealed)
  else return (sealed, s.mixHash sealed)

/-- `decryptAndHash`, where a text that does not open is reported for its stage. -/
def openIn (s : Symmetric S) (stage : Stage) (sealed : Bytes) : Except NoiseError (Bytes × Symmetric S) :=
  (s.decryptAndHash sealed).mapError (·.inStage stage)

/-- The two transport keys; the initiator sends with the first. -/
def split (s : Symmetric S) : Bytes × Bytes := S.derive s.chain []

def erase (s : Symmetric S) : Symmetric S :=
  { hash := Bytes.zeros Suite.digestSize, chain := Bytes.zeros Suite.digestSize, keys := s.keys.erase }

end Symmetric
end NoiseLink
