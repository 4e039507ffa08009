import NoiseLink.Link.Error
import NoiseLink.Record.Sealer

namespace NoiseLink

structure Encoder (S : Suite) where
  sealer : Sealer S
  limit : Nat

namespace Encoder

variable {S : Suite}

def new (sealer : Sealer S) : Encoder S := ⟨sealer, maxMessageSize⟩

/-- Limits above the largest payload of a record come down to it. -/
def setLimit (e : Encoder S) (size : Nat) : Encoder S := { e with limit := min size maxMessageSize }

def encode (e : Encoder S) (payload : Bytes) : Except LinkError Bytes × Encoder S :=
  if payload.length > e.limit then (.error (.messageTooLarge payload.length), e)
  else
    match e.sealer.encrypt payload with
    | (.ok record, sealer) => (.ok record, { e with sealer })
    | (.error err, sealer) => (.error (.noise err), { e with sealer })

def erase (e : Encoder S) : Encoder S := { e with sealer := e.sealer.erase }

def describe (e : Encoder S) : String :=
  "NoiseEncoder \x7b encryptor: " ++ e.sealer.describe ++ ", max_message_size: " ++ toString e.limit ++ " \x7d"

end Encoder
end NoiseLink
