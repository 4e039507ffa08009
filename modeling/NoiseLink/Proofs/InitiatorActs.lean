import NoiseLink.Proofs.KeyAgreement

namespace NoiseLink.Initiator

variable {S : Suite}

/-- The answer to act two of an initiator that has sent act one. -/
inductive ActTwoAnswer (static ephemeral : S.Secret) (remote : S.Point) :
    Bytes → Except NoiseError (Bytes × Session S) → Prop
  | length {m : Bytes} (hm : m.length ≠ 50) :
      ActTwoAnswer static ephemeral remote m (.error (.invalidMessageLength 50 m.length))
  | version {v : UInt8} {rest : Bytes} (hr : rest.length = 49) (hv : v ≠ 0) :
      ActTwoAnswer static ephemeral remote (v :: rest) (.error (.unsupportedVersion .two v))
  | point {key tag : Bytes} (hk : key.length = 33) (ht : tag.length = 16) (h : S.point.decode key = none) :
      ActTwoAnswer static ephemeral remote (0 :: key ++ tag) (.error (.invalidPublicKey .two))
  | tag {key tag : Bytes} {re : S.Point} (hk : key.length = 33) (ht : tag.length = 16)
      (hre : S.point.decode key = some re) (h : tag ≠ (transcript ephemeral remote key re).tag2) :
      ActTwoAnswer static ephemeral remote (0 :: key ++ tag) (.error (.authenticationFailed .actTwo))
  | accepted {key : Bytes} {re : S.Point} (hk : key.length = 33) (hre : S.point.decode key = some re) :
      ActTwoAnswer static ephemeral remote (transcript ephemeral remote key re).actTwo
        (.ok ((transcript ephemeral remote key re).actThree (S.point.encode (S.publicKey static)) (S.agree static re),
          (transcript ephemeral remote key re).initiatorSession (S.agree static re)))

variable (static ephemeral : S.Secret) (remote : S.Point)

/-- What an initiator holds once it has sent act one; act two has brought nothing yet. -/
def opened : Initiator S := awaiting static ephemeral remote (transcript ephemeral remote [] remote)

theorem receiveActTwo_fst (m : Bytes) :
    ((opened static ephemeral remote).receiveActTwo m).1 =
      ((opened static ephemeral remote).actThree m).map Prod.fst := by
  rw [receiveActTwo, show (opened static ephemeral remote).party.progress.expect .actTwo = .ok () from rfl]
  cases (opened static ephemeral remote).actThree m <;> rfl

variable {static ephemeral remote}

theorem ActTwoAnswer.actThree (authentic : S.Authentic) {m : Bytes} {a : Except NoiseError (Bytes × Session S)}
    (h : ActTwoAnswer static ephemeral remote m a) :
    ((opened static ephemeral remote).actThree m).map Prod.fst = a := by
  cases h with
  | length hm => rw [Initiator.actThree, checkAct_of_ne (by exact hm)]; rfl
  | version hr hv => rw [Initiator.actThree, checkAct_cons (by rw [hr]; rfl), if_neg hv]; rfl
  | point hk ht h => rw [opened, actThree_of_decode_eq_none _ _ _ hk ht _ _ h]; rfl
  | tag hk ht hre h =>
      rw [opened, actThree_of_unsealed_eq_none _ _ _ hk ht _ _ hre (authentic.unsealed_eq_none_of_ne ht h)]
      rfl
  | @accepted key re hk hre =>
      -- what is held so far is the same whatever act two brings
      rw [show opened static ephemeral remote = awaiting static ephemeral remote (transcript ephemeral remote key re)
          from rfl, actThree_actTwo _ _ _ authentic.toSealing hk hre]
      rfl

variable (static ephemeral remote)

theorem exists_actTwoAnswer (m : Bytes) : ∃ a, ActTwoAnswer static ephemeral remote m a := by
  cases pointAct S m with
  | length hm => exact ⟨_, .length hm⟩
  | version hr hv => exact ⟨_, .version hr hv⟩
  | point hk ht h => exact ⟨_, .point hk ht h⟩
  | @parsed key tag re hk ht hre =>
      by_cases h : tag = (transcript ephemeral remote key re).tag2
      · subst tag
        exact ⟨_, .accepted hk hre⟩
      · exact ⟨_, .tag hk ht hre h⟩

theorem receiveActTwo_iff (authentic : S.Authentic) (m : Bytes) (a : Except NoiseError (Bytes × Session S)) :
    ((opened static ephemeral remote).receiveActTwo m).1 = a ↔ ActTwoAnswer static ephemeral remote m a := by
  rw [receiveActTwo_fst]
  exact eq_iff_of_answered (exists_actTwoAnswer static ephemeral remote m) (fun _ h => h.actThree authentic) a

/-- An initiator sends act one of its transcript, and then answers every act two as the order of its checks has it. In
the bytes of an accepted handshake the second key seals twice, with nonce 0 the tag of act two and with nonce 1 the
static point. -/
theorem follows_transcript (authentic : S.Authentic) (static ephemeral : S.Secret) (remote : S.Point) (m2 : Bytes) :
    ∃ i : Initiator S,
      (∀ key re, (new static ephemeral remote).sendActOne = (.ok (transcript ephemeral remote key re).actOne, i)) ∧
      (∀ a, (i.receiveActTwo m2).1 = a ↔ ActTwoAnswer static ephemeral remote m2 a) ∧
      ∀ actThree session, (i.receiveActTwo m2).1 = .ok (actThree, session) →
        ∃ key re, key.length = 33 ∧ S.point.decode key = some re ∧
          let t := transcript ephemeral remote key re
          let own := S.point.encode (S.publicKey static)
          let se := S.agree static re
          let chain := t.chain3 se
          let sending := S.firstOutput chain []
          let receiving := S.secondOutput chain []
          m2 = 0 :: key ++ S.encrypt (S.cipher t.key2) [0, 0, 0, 0, 0, 0, 0, 0, 0, 0, 0, 0] t.hash2 [] ∧
          actThree = 0 :: S.encrypt (S.cipher t.key2) [0, 0, 0, 0, 1, 0, 0, 0, 0, 0, 0, 0] t.hash3 own ++
            S.encrypt (S.cipher (t.key3 se)) [0, 0, 0, 0, 0, 0, 0, 0, 0, 0, 0, 0] (t.hash4 own) [] ∧
          session.sealer.cipher = ⟨⟨some sending, some (S.cipher sending), 0⟩, chain⟩ ∧
          session.opener.cipher = ⟨⟨some receiving, some (S.cipher receiving), 0⟩, chain⟩ := by
  have answers := receiveActTwo_iff static ephemeral remote authentic m2
  refine ⟨opened static ephemeral remote, fun key re => sendActOne_new .., answers, fun actThree session h => ?_⟩
  cases (answers _).1 h with
  | @accepted key re hk hre => exact ⟨key, re, hk, hre, rfl, rfl, rfl, rfl⟩

theorem follows_transcript_vectors :
    Suite.standard.Authentic ∧
    ∃ i : Initiator .standard,
      Secrets.vectors.initiatorSide.sendActOne = (.ok Secrets.vectors.transcript.actOne, i) ∧
      (i.receiveActTwo Secrets.vectors.transcript.actTwo).1 =
        .ok (Secrets.vectors.transcript.actThree Secrets.vectors.static Secrets.vectors.se,
          Secrets.vectors.transcript.initiatorSession Secrets.vectors.se) := by
  obtain ⟨i, sent, answers, -⟩ := follows_transcript Suite.standard_exact.authentic Secrets.vectors.initiator
    Secrets.vectors.initiatorEphemeral (Suite.standard.publicKey Secrets.vectors.responder)
    Secrets.vectors.transcript.actTwo
  exact ⟨Suite.standard_exact.authentic, i, sent _ _,
    (answers _).2 (.accepted (Suite.standard_lawful.length_point _) (Suite.standard_lawful.decode_publicKey _))⟩

end NoiseLink.Initiator
