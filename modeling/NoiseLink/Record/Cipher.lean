import NoiseLink.Noise.KeyState

namespace NoiseLink

def rekeyInterval : Nat := 1000

structure RecordCipher (S : Suite) where
  keys : KeyState S
  chain : Bytes

namespace RecordCipher

variable {S : Suite}

def ofKey (key chain : Bytes) : RecordCipher S := ⟨.ofKey key, chain⟩

def nonce (c : RecordCipher S) : Nat := c.keys.nonce

def isErased (c : RecordCipher S) : Bool := c.keys.cipher.isNone

def erase (c : RecordCipher S) : RecordCipher S := ⟨c.keys.erase, Bytes.zeros Suite.digestSize⟩

def rekey (c : RecordCipher S) : Except NoiseError (RecordCipher S) :=
  match c.keys.key with
  | some key =>
    let (chain, key) := S.derive c.chain key
    .ok (ofKey key chain)
  | none => .error .keyErased

/-- A cipher fit for one more operation; unlike a handshake, a record is never left in the clear. -/
def ready (c : RecordCipher S) : Except NoiseError (RecordCipher S) :=
  if c.isErased then .error .keyErased
  else if c.nonce = rekeyInterval then c.rekey
  else .ok c

def encrypt (c : RecordCipher S) (text : Bytes) : Except NoiseError Bytes × RecordCipher S :=
  match c.ready with
  | .error e => (.error e, c)
  | .ok c =>
    match c.keys.encrypt [] text with
    | .ok (sealed, keys) => (.ok sealed, { c with keys })
    | .error e => (.error e, c)

def decrypt (c : RecordCipher S) (stage : Stage) (sealed : Bytes) : Except NoiseError Bytes × RecordCipher S :=
  match c.ready with
  | .error e => (.error e, c)
  | .ok c =>
    match c.keys.decrypt [] sealed with
    | .ok (text, keys) => (.ok text, { c with keys })
    | .error e => (.error (e.inStage stage), c)

def describe (c : RecordCipher S) : String := "Cipher \x7b n: " ++ toString c.nonce ++ " \x7d"

end RecordCipher
end NoiseLink
