import NoiseLink.Noise.Party
import NoiseLink.Record.Session

namespace NoiseLink

structure Initiator (S : Suite) where
  party : Party S
  remote : S.Point

namespace Initiator

variable {S : Suite}

def new (static ephemeral : S.Secret) (remote : S.Point) : Initiator S :=
  ⟨⟨.start remote, static, ephemeral, .actOne⟩, remote⟩

def ofRaw (static remote : Bytes) (ephemeral : S.Secret) : Except NoiseError (Initiator S) := do
  let some s := S.secret.decode static | throw .invalidRawPrivateKey
  let some r := S.point.decode remote | throw .invalidRawPublicKey
  return new s ephemeral r

def expectedSize (i : Initiator S) : Option Nat :=
  match i.party.progress with
  | .actTwo => some actTwoSize
  | _ => none

def actOne (i : Initiator S) : Except NoiseError (Bytes × Symmetric S) := do
  let own := S.point.encode (S.publicKey i.party.ephemeral)
  let sym := (i.party.sym.mixHash own).mixKey (S.agree i.party.ephemeral i.remote)
  let (tag, sym) ← sym.encryptAndHash []
  return (version :: own ++ tag, sym)

def actThree (i : Initiator S) (actTwo : Bytes) : Except NoiseError ((Bytes × Session S) × Symmetric S) := do
  checkAct actTwo actTwoSize .two
  let key := slice actTwo 1 (1 + publicKeySize)
  let re ← Party.parsePoint S .two key
  let sym := (i.party.sym.mixHash key).mixKey (S.agree i.party.ephemeral re)
  let (_, sym) ← sym.openIn .actTwo (actTwo.drop (1 + publicKeySize))
  let (static, sym) ← sym.encryptAndHash (S.point.encode (S.publicKey i.party.static))
  let sym := sym.mixKey (S.agree i.party.static re)
  let (tag, sym) ← sym.encryptAndHash []
  let (sending, receiving) := sym.split
  return ((version :: static ++ tag, .ofKeys sending receiving sym.chain), sym)

def sendActOne (i : Initiator S) : Except NoiseError Bytes × Initiator S :=
  match i.party.progress.expect .actOne with
  | .error e => (.error e, i)
  | .ok () =>
    let (r, party) := i.party.settle .actTwo i.actOne
    (r, { i with party })

def receiveActTwo (i : Initiator S) (m : Bytes) : Except NoiseError (Bytes × Session S) × Initiator S :=
  match i.party.progress.expect .actTwo with
  | .error e => (.error e, i)
  | .ok () =>
    let (r, party) := i.party.settle .complete (i.actThree m)
    (r, { i with party })

def describe (i : Initiator S) : String := "Initiator \x7b progress: " ++ i.party.progress.label ++ " \x7d"

end Initiator
end NoiseLink
