import NoiseLink.Proofs.Acts
import NoiseLink.Proofs.StandardSuite

namespace NoiseLink

structure Secrets (S : Suite) where
  initiator : S.Secret
  initiatorEphemeral : S.Secret
  responder : S.Secret
  responderEphemeral : S.Secret

namespace Secrets

variable {S : Suite} (k : Secrets S)

def initiatorSide : Initiator S := .new k.initiator k.initiatorEphemeral (S.publicKey k.responder)

def responderSide : Responder S := .new k.responder k.responderEphemeral

def transcript : Transcript S :=
  Initiator.transcript k.initiatorEphemeral (S.publicKey k.responder)
    (S.point.encode (S.publicKey k.responderEphemeral)) (S.publicKey k.responderEphemeral)

def se : Bytes := S.agree k.initiator (S.publicKey k.responderEphemeral)

def static : Bytes := S.point.encode (S.publicKey k.initiator)

def initiatorAwaiting : Initiator S :=
  .awaiting k.initiator k.initiatorEphemeral (S.publicKey k.responder) k.transcript

def responderAwaiting : Responder S := .awaiting k.responder k.responderEphemeral k.transcript

theorem sendActOne : k.initiatorSide.sendActOne = (.ok k.transcript.actOne, k.initiatorAwaiting) :=
  Initiator.sendActOne_new ..

variable (lawful : S.Lawful)
include lawful

/-- Each shared secret is computed from the other side's point, and comes out the same. -/
theorem responder_transcript :
    Responder.transcript k.responder k.responderEphemeral (S.point.encode (S.publicKey k.initiatorEphemeral))
      (S.publicKey k.initiatorEphemeral) = k.transcript := by
  rw [Responder.transcript, lawful.agree_comm k.responder, lawful.agree_comm k.responderEphemeral]
  rfl

theorem receiveActOne :
    k.responderSide.receiveActOne k.transcript.actOne = (.ok k.transcript.actTwo, k.responderAwaiting) := by
  have accepted := Responder.receiveActOne_actOne k.responder k.responderEphemeral lawful.toSealing
    (lawful.length_point _) (lawful.decode_publicKey k.initiatorEphemeral)
  rw [k.responder_transcript lawful] at accepted
  exact accepted

theorem receiveActTwo :
    k.initiatorAwaiting.receiveActTwo k.transcript.actTwo =
      (.ok (k.transcript.actThree k.static k.se, k.transcript.initiatorSession k.se),
        ⟨.spent S .complete 1, S.publicKey k.responder⟩) :=
  Initiator.receiveActTwo_awaiting _ _ _ lawful.toSealing (lawful.length_point _) (lawful.decode_publicKey _)

theorem receiveActThree :
    k.responderAwaiting.receiveActThree (k.transcript.actThree k.static k.se) =
      (.ok (S.publicKey k.initiator, k.transcript.responderSession k.se),
        ⟨.spent S .complete 1, some (S.publicKey k.initiator)⟩) :=
  Responder.receiveActThree_actThree _ _ _ lawful.toSealing (lawful.length_point _) (lawful.decode_publicKey _)
    (lawful.agree_comm _ _)

end Secrets

/-- Whatever the secrets, every act is accepted, the responder learns who the initiator is, and what either side
sends with is what the other receives with. -/
theorem sessions_mirror {S : Suite} (lawful : S.Lawful) (sI eI sR eR : S.Secret) :
    ∃ (actOne actTwo actThree : Bytes) (i i' : Initiator S) (r r' : Responder S) (mine theirs : Session S),
      (Initiator.new sI eI (S.publicKey sR)).sendActOne = (.ok actOne, i) ∧
      (Responder.new sR eR).receiveActOne actOne = (.ok actTwo, r) ∧
      i.receiveActTwo actTwo = (.ok (actThree, mine), i') ∧
      r.receiveActThree actThree = (.ok (S.publicKey sI, theirs), r') ∧
      r'.remote = some (S.publicKey sI) ∧
      mine.sealer.cipher = theirs.opener.cipher ∧
      mine.opener.cipher = theirs.sealer.cipher ∧
      ∃ there back chain,
        mine.sealer.cipher = ⟨⟨some there, some (S.cipher there), 0⟩, chain⟩ ∧
        theirs.opener.cipher = ⟨⟨some there, some (S.cipher there), 0⟩, chain⟩ ∧
        mine.opener.cipher = ⟨⟨some back, some (S.cipher back), 0⟩, chain⟩ ∧
        theirs.sealer.cipher = ⟨⟨some back, some (S.cipher back), 0⟩, chain⟩ := by
  let k : Secrets S := ⟨sI, eI, sR, eR⟩
  exact ⟨_, _, _, _, _, _, _, _, _, k.sendActOne, k.receiveActOne lawful, k.receiveActTwo lawful,
    k.receiveActThree lawful, rfl, rfl, rfl, _, _, _, rfl, rfl, rfl, rfl⟩

/-- The secrets of the BOLT 8 test vectors. -/
def Secrets.vectors : Secrets .standard where
  initiator := ⟨0x1111111111111111111111111111111111111111111111111111111111111111, by decide, by decide⟩
  initiatorEphemeral := ⟨0x1212121212121212121212121212121212121212121212121212121212121212, by decide, by decide⟩
  responder := ⟨0x2121212121212121212121212121212121212121212121212121212121212121, by decide, by decide⟩
  responderEphemeral := ⟨0x2222222222222222222222222222222222222222222222222222222222222222, by decide, by decide⟩

theorem sessions_mirror_vectors :
    Suite.standard.Lawful ∧
    ∃ (actOne actTwo actThree : Bytes) (i i' : Initiator .standard) (r r' : Responder .standard)
      (mine theirs : Session .standard),
      Secrets.vectors.initiatorSide.sendActOne = (.ok actOne, i) ∧
      Secrets.vectors.responderSide.receiveActOne actOne = (.ok actTwo, r) ∧
      i.receiveActTwo actTwo = (.ok (actThree, mine), i') ∧
      r.receiveActThree actThree = (.ok (Suite.standard.publicKey Secrets.vectors.initiator, theirs), r') ∧
      r'.remote = some (Suite.standard.publicKey Secrets.vectors.initiator) ∧
      mine.sealer.cipher = theirs.opener.cipher ∧
      mine.opener.cipher = theirs.sealer.cipher ∧
      ∃ there back chain,
        mine.sealer.cipher = ⟨⟨some there, some (Suite.standard.cipher there), 0⟩, chain⟩ ∧
        theirs.opener.cipher = ⟨⟨some there, some (Suite.standard.cipher there), 0⟩, chain⟩ ∧
        mine.opener.cipher = ⟨⟨some back, some (Suite.standard.cipher back), 0⟩, chain⟩ ∧
        theirs.sealer.cipher = ⟨⟨some back, some (Suite.standard.cipher back), 0⟩, chain⟩ :=
  ⟨Suite.standard_lawful, sessions_mirror Suite.standard_lawful _ _ _ _⟩

end NoiseLink
