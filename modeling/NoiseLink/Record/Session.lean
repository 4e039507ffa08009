import NoiseLink.Record.Opener

namespace NoiseLink

structure Session (S : Suite) where
  sealer : Sealer S
  opener : Opener S

namespace Session

variable {S : Suite}

/-- Both directions start from the last chaining key of the handshake. -/
def ofKeys (sending receiving chain : Bytes) : Session S :=
  ⟨⟨.ofKey sending chain⟩, ⟨.ofKey receiving chain⟩⟩

def encrypt (s : Session S) (payload : Bytes) : Except NoiseError Bytes × Session S :=
  let (r, sealer) := s.sealer.encrypt payload
  (r, { s with sealer })

def decryptLength (s : Session S) (header : Bytes) : Except NoiseError Nat × Session S :=
  let (r, opener) := s.opener.decryptLength header
  (r, { s with opener })

def decryptBody (s : Session S) (body : Bytes) : Except NoiseError Bytes × Session S :=
  let (r, opener) := s.opener.decryptBody body
  (r, { s with opener })

def decryptMessage (s : Session S) (record : Bytes) : Except NoiseError Bytes × Session S :=
  let (r, opener) := s.opener.decryptMessage record
  (r, { s with opener })

def erase (s : Session S) : Session S := ⟨s.sealer.erase, s.opener.erase⟩

def describe (_ : Session S) : String := "NoiseCodec"

end Session
end NoiseLink
