import NoiseLink.Record.Sealer

namespace NoiseLink

structure Opener (S : Suite) where
  cipher : RecordCipher S

namespace Opener

variable {S : Suite}

def nonce (o : Opener S) : Nat := o.cipher.nonce

def erase (o : Opener S) : Opener S := ⟨o.cipher.erase⟩

def isErased (o : Opener S) : Bool := o.cipher.isErased

def decrypt (o : Opener S) (stage : Stage) (sealed : Bytes) : Except NoiseError Bytes × Opener S :=
  match o.cipher.decrypt stage sealed with
  | (.ok text, c) => (.ok text, ⟨c⟩)
  | (.error e, c) => (.error e, ⟨c.erase⟩)

def decryptLength (o : Opener S) (header : Bytes) : Except NoiseError Nat × Opener S :=
  if header.length ≠ headerSize then (.error (.invalidMessageLength headerSize header.length), o)
  else
    match o.decrypt .recordLength header with
    | (.ok text, o) => (.ok (Bytes.toNatBE text), o)
    | (.error e, o) => (.error e, o)

def decryptBody (o : Opener S) (body : Bytes) : Except NoiseError Bytes × Opener S :=
  if body.length < macSize then (.error (.invalidMessageLength macSize body.length), o)
  else o.decrypt .recordBody body

/-- Opens exactly one record. The header takes a nonce, so a body of another length ends the session. -/
def decryptMessage (o : Opener S) (record : Bytes) : Except NoiseError Bytes × Opener S :=
  if record.length < headerSize then (.error (.invalidMessageLength headerSize record.length), o)
  else
    match o.decryptLength (record.take headerSize) with
    | (.error e, o) => (.error e, o)
    | (.ok size, o) =>
      let body := record.drop headerSize
      if body.length ≠ size + macSize then
        (.error (.invalidMessageLength (headerSize + size + macSize) record.length), o.erase)
      else o.decryptBody body

def describe (o : Opener S) : String := "Decryptor \x7b cipher: " ++ o.cipher.describe ++ " \x7d"

end Opener
end NoiseLink
