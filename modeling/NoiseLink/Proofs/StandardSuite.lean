import NoiseLink.Proofs.PublicKeys
import NoiseLink.Proofs.Primitives
import NoiseLink.Suite.Standard

namespace NoiseLink.Suite

theorem standard_opens : standard.Opens := Aead.decrypt_encrypt

theorem standard_sealing : standard.Sealing := ⟨standard_opens, Aead.length_encrypt⟩

theorem agreeStandard_comm (a b : Secp256k1.Secret) :
    agreeStandard a b.publicPoint = agreeStandard b a.publicPoint := by
  rw [agreeStandard, agreeStandard, a.mul_publicPoint_comm]

theorem decode_standard (b : Bytes) : standard.point.decode b = Secp256k1.Point.ofBytes? b := rfl

theorem standard_lawful : standard.Lawful where
  toSealing := standard_sealing
  agree_comm := agreeStandard_comm
  decode_publicKey s := by
    rw [decode_standard]
    exact Secp256k1.ofBytes?_toBytes_publicPoint s
  length_point := Secp256k1.Point.length_toBytes

theorem standard_exact : standard.Exact where
  toSealing := standard_sealing
  eq_encrypt_of_decrypt := Aead.eq_encrypt_of_decrypt
  encode_of_decode := Secp256k1.toBytes_of_ofBytes?
  length_point := Secp256k1.Point.length_toBytes

end NoiseLink.Suite
