import NoiseLink.Record.Cipher

namespace NoiseLink

def lengthSize : Nat := 2
def headerSize : Nat := lengthSize + macSize

structure Sealer (S : Suite) where
  cipher : RecordCipher S

namespace Sealer

variable {S : Suite}

def encrypt (s : Sealer S) (payload : Bytes) : Except NoiseError Bytes × Sealer S :=
  if payload.length > maxMessageSize then (.error (.messageTooLarge payload.length), s)
  else
    match s.cipher.encrypt (Bytes.ofNatBE lengthSize payload.length) with
    | (.error e, c) => (.error e, ⟨c⟩)
    | (.ok header, c) =>
      match c.encrypt payload with
      | (.error e, c) => (.error e, ⟨c⟩)
      | (.ok body, c) => (.ok (header ++ body), ⟨c⟩)

def nonce (s : Sealer S) : Nat := s.cipher.nonce

def erase (s : Sealer S) : Sealer S := ⟨s.cipher.erase⟩

def describe (s : Sealer S) : String := "Encryptor \x7b cipher: " ++ s.cipher.describe ++ " \x7d"

end Sealer
end NoiseLink
