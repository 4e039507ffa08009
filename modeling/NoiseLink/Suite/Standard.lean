import NoiseLink.Suite
import NoiseLink.Crypto.Aead
import NoiseLink.Crypto.Secp256k1
import NoiseLink.Crypto.Sha256

namespace NoiseLink.Suite

/-- The shared secret is the hash of the product in its byte form. -/
def agreeStandard (s : Secp256k1.Secret) (p : Secp256k1.Point) : Bytes := Sha256.hash (p.mul s.scalar).toBytes

def standard : Suite where
  Secret := Secp256k1.Secret
  Point := Secp256k1.Point
  Cipher := Aead.Key
  secret := ⟨.secret, 32, Secp256k1.Secret.toBytes, Secp256k1.Secret.ofBytes?⟩
  point := ⟨.point, 33, Secp256k1.Point.toBytes, Secp256k1.Point.ofBytes?⟩
  publicKey := Secp256k1.Secret.publicPoint
  agree := agreeStandard
  overwritten := Secp256k1.Secret.overwritten
  hash := Sha256.hash
  cipher := ChaCha20.Key.ofBytes
  encrypt := Aead.encrypt
  decrypt := Aead.decrypt

end NoiseLink.Suite
