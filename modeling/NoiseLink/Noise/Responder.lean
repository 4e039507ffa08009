import NoiseLink.Noise.Party
import NoiseLink.Record.Session

namespace NoiseLink

structure Responder (S : Suite) where
  party : Party S
  remote : Option S.Point

namespace Responder

variable {S : Suite}

def new (static ephemeral : S.Secret) : Responder S :=
  ⟨⟨.start (S.publicKey static), static, ephemeral, .actOne⟩, none⟩

def ofRaw (static : Bytes) (ephemeral : S.Secret) : Except NoiseError (Responder S) := do
  let some s := S.secret.decode static | throw .invalidRawPrivateKey
  return new s ephemeral

def expectedSize (r : Responder S) : Option Nat :=
  match r.party.progress with
  | .actOne => some actOneSize
  | .actThree => some actThreeSize
  | _ => none

def actTwo (r : Responder S) (actOne : Bytes) : Except NoiseError (Bytes × Symmetric S) := do
  checkAct actOne actOneSize .one
  let key := slice actOne 1 (1 + publicKeySize)
  let re ← Party.parsePoint S .one key
  let sym := (r.party.sym.mixHash key).mixKey (S.agree r.party.static re)
  let (_, sym) ← sym.openIn .actOne (actOne.drop (1 + publicKeySize))
  let own := S.point.encode (S.publicKey r.party.ephemeral)
  let sym := (sym.mixHash own).mixKey (S.agree r.party.ephemeral re)
  let (tag, sym) ← sym.encryptAndHash []
  return (version :: own ++ tag, sym)

def openActThree (r : Responder S) (actThree : Bytes) :
    Except NoiseError ((S.Point × Session S) × Symmetric S) := do
  checkAct actThree actThreeSize .three
  let staticEnd := 1 + publicKeySize + macSize
  let (key, sym) ← r.party.sym.openIn .actThreeStaticKey (slice actThree 1 staticEnd)
  let rs ← Party.parsePoint S .three key
  let sym := sym.mixKey (S.agree r.party.ephemeral rs)
  let (_, sym) ← sym.openIn .actThree (actThree.drop staticEnd)
  let (receiving, sending) := sym.split
  return ((rs, .ofKeys sending receiving sym.chain), sym)

def receiveActOne (r : Responder S) (m : Bytes) : Except NoiseError Bytes × Responder S :=
  match r.party.progress.expect .actOne with
  | .error e => (.error e, r)
  | .ok () =>
    let (res, party) := r.party.settle .actThree (r.actTwo m)
    (res, { r with party })

def receiveActThree (r : Responder S) (m : Bytes) : Except NoiseError (S.Point × Session S) × Responder S :=
  match r.party.progress.expect .actThree with
  | .error e => (.error e, r)
  | .ok () =>
    match r.party.settle .complete (r.openActThree m) with
    | (.ok (rs, session), party) => (.ok (rs, session), ⟨party, some rs⟩)
    | (.error e, party) => (.error e, { r with party })

def describe (r : Responder S) : String := "Responder \x7b progress: " ++ r.party.progress.label ++ " \x7d"

end Responder
end NoiseLink
