import NoiseLink.Proofs.KeyAgreement

namespace NoiseLink

namespace Responder

variable {S : Suite}

/-- The answer of a fresh responder to act one. -/
inductive ActOneAnswer (static ephemeral : S.Secret) : Bytes → Except NoiseError Bytes → Prop
  | length {m : Bytes} (hm : m.length ≠ 50) :
      ActOneAnswer static ephemeral m (.error (.invalidMessageLength 50 m.length))
  | version {v : UInt8} {rest : Bytes} (hr : rest.length = 49) (hv : v ≠ 0) :
      ActOneAnswer static ephemeral (v :: rest) (.error (.unsupportedVersion .one v))
  | point {key tag : Bytes} (hk : key.length = 33) (ht : tag.length = 16) (h : S.point.decode key = none) :
      ActOneAnswer static ephemeral (0 :: key ++ tag) (.error (.invalidPublicKey .one))
  | tag {key tag : Bytes} {re : S.Point} (hk : key.length = 33) (ht : tag.length = 16)
      (hre : S.point.decode key = some re) (h : tag ≠ (transcript static ephemeral key re).tag1) :
      ActOneAnswer static ephemeral (0 :: key ++ tag) (.error (.authenticationFailed .actOne))
  | accepted {key : Bytes} {re : S.Point} (hk : key.length = 33) (hre : S.point.decode key = some re) :
      ActOneAnswer static ephemeral (transcript static ephemeral key re).actOne
        (.ok (transcript static ephemeral key re).actTwo)

/-- The answer to act three of a responder that has run through the acts before it. A point is valid if its byte
form reads back. -/
inductive ActThreeAnswer (ephemeral : S.Secret) (t : Transcript S) :
    Bytes → Except NoiseError (S.Point × Session S) → Prop
  | length {m : Bytes} (hm : m.length ≠ 66) : ActThreeAnswer ephemeral t m (.error (.invalidMessageLength 66 m.length))
  | version {v : UInt8} {rest : Bytes} (hr : rest.length = 65) (hv : v ≠ 0) :
      ActThreeAnswer ephemeral t (v :: rest) (.error (.unsupportedVersion .three v))
  | sealed {field tag : Bytes} (hf : field.length = 49) (ht : tag.length = 16) (h : ∀ key, field ≠ t.sealedStatic key) :
      ActThreeAnswer ephemeral t (0 :: field ++ tag) (.error (.authenticationFailed .actThreeStaticKey))
  | point {key tag : Bytes} (hk : key.length = 33) (ht : tag.length = 16) (h : S.point.decode key = none) :
      ActThreeAnswer ephemeral t (0 :: t.sealedStatic key ++ tag) (.error (.invalidPublicKey .three))
  | tag {rs : S.Point} {tag : Bytes} (valid : S.point.decode (S.point.encode rs) = some rs) (ht : tag.length = 16)
      (h : tag ≠ t.tag3 (S.point.encode rs) (S.agree ephemeral rs)) :
      ActThreeAnswer ephemeral t (0 :: t.sealedStatic (S.point.encode rs) ++ tag)
        (.error (.authenticationFailed .actThree))
  | accepted {rs : S.Point} (valid : S.point.decode (S.point.encode rs) = some rs) :
      ActThreeAnswer ephemeral t (t.actThree (S.point.encode rs) (S.agree ephemeral rs))
        (.ok (rs, t.responderSession (S.agree ephemeral rs)))

theorem receiveActOne_fst (static ephemeral : S.Secret) (m : Bytes) :
    ((new static ephemeral).receiveActOne m).1 = ((new static ephemeral).actTwo m).map Prod.fst := by
  rw [receiveActOne_new]
  cases (new static ephemeral).actTwo m <;> rfl

theorem receiveActThree_fst (static ephemeral : S.Secret) (t : Transcript S) (m : Bytes) :
    ((awaiting static ephemeral t).receiveActThree m).1 =
      ((awaiting static ephemeral t).openActThree m).map Prod.fst := by
  rw [receiveActThree, show (awaiting static ephemeral t).party.progress.expect .actThree = .ok () from rfl]
  cases (awaiting static ephemeral t).openActThree m <;> rfl

section ActOne

variable (static ephemeral : S.Secret)

theorem ActOneAnswer.actTwo (exact : S.Exact) {m : Bytes} {a : Except NoiseError Bytes}
    (h : ActOneAnswer static ephemeral m a) : ((new static ephemeral).actTwo m).map Prod.fst = a := by
  cases h with
  | length hm => rw [Responder.actTwo, checkAct_of_ne (by exact hm)]; rfl
  | version hr hv => rw [Responder.actTwo, checkAct_cons (by rw [hr]; rfl), if_neg hv]; rfl
  | point hk ht h => rw [actTwo_of_decode_eq_none _ _ hk ht h]; rfl
  | tag hk ht hre h =>
      rw [actTwo_of_unsealed_eq_none _ _ hk ht hre (exact.authentic.unsealed_eq_none_of_ne ht h)]
      rfl
  | accepted hk hre => rw [actTwo_actOne _ _ exact.toSealing hk hre]; rfl

theorem exists_actOneAnswer (m : Bytes) : ∃ a, ActOneAnswer static ephemeral m a := by
  cases pointAct S m with
  | length hm => exact ⟨_, .length hm⟩
  | version hr hv => exact ⟨_, .version hr hv⟩
  | point hk ht h => exact ⟨_, .point hk ht h⟩
  | @parsed key tag re hk ht hre =>
      by_cases h : tag = (transcript static ephemeral key re).tag1
      · subst tag
        exact ⟨_, .accepted hk hre⟩
      · exact ⟨_, .tag hk ht hre h⟩

theorem receiveActOne_iff (exact : S.Exact) (m : Bytes) (a : Except NoiseError Bytes) :
    ((new static ephemeral).receiveActOne m).1 = a ↔ ActOneAnswer static ephemeral m a := by
  rw [receiveActOne_fst]
  exact eq_iff_of_answered (exists_actOneAnswer static ephemeral m) (fun _ h => h.actTwo _ _ exact) a

end ActOne

section ActThree

variable (static ephemeral : S.Secret) (t : Transcript S)

theorem ActThreeAnswer.openActThree (exact : S.Exact) {m : Bytes} {a : Except NoiseError (S.Point × Session S)}
    (h : ActThreeAnswer ephemeral t m a) : ((awaiting static ephemeral t).openActThree m).map Prod.fst = a := by
  cases h with
  | length hm => rw [Responder.openActThree, checkAct_of_ne (by exact hm)]; rfl
  | version hr hv => rw [Responder.openActThree, checkAct_cons (by rw [hr]; rfl), if_neg hv]; rfl
  | sealed hf ht h =>
      have closed : S.unsealed t.key2 1 t.hash3 _ = none := exact.authentic.unsealed_eq_none h
      rw [openActThree_cons _ _ _ hf ht, Transcript.afterTwo, Symmetric.openIn_keyed (by decide), closed]
      rfl
  | point hk ht h => rw [openActThree_of_decode_eq_none _ _ _ exact.toSealing hk ht h]; rfl
  | tag valid ht h =>
      rw [openActThree_of_decode _ _ _ exact.toSealing (exact.length_point _) ht valid rfl,
        exact.authentic.unsealed_eq_none_of_ne ht h]
      rfl
  | accepted valid =>
      rw [← receiveActThree_fst,
        receiveActThree_actThree _ _ _ exact.toSealing (exact.length_point _) valid rfl]

theorem exists_actThreeAnswer (exact : S.Exact) (m : Bytes) : ∃ a, ActThreeAnswer ephemeral t m a := by
  by_cases hm : m.length = 66
  · obtain ⟨v, rest, rfl⟩ := List.exists_cons_of_length_eq_add_one hm
    by_cases hv : v = 0
    · subst v
      obtain ⟨field, tag, rfl, hf, ht⟩ := exists_append_of_length (n := 49) (k := 16) (by simpa using hm)
      by_cases sealed : ∃ key, field = t.sealedStatic key
      · obtain ⟨key, rfl⟩ := sealed
        have hk : key.length = 33 := by
          rw [Transcript.sealedStatic, exact.toSealing.length_sealed] at hf
          exact Nat.add_right_cancel hf
        cases hrs : S.point.decode key with
        | none => exact ⟨_, .point hk ht hrs⟩
        | some rs =>
            obtain rfl := exact.encode_of_decode hrs
            by_cases h : tag = t.tag3 (S.point.encode rs) (S.agree ephemeral rs)
            · subst tag
              exact ⟨_, .accepted hrs⟩
            · exact ⟨_, .tag hrs ht h⟩
      · exact ⟨_, .sealed hf ht fun key h => sealed ⟨key, h⟩⟩
    · exact ⟨_, .version (by simpa using hm) hv⟩
  · exact ⟨_, .length hm⟩

theorem receiveActThree_iff (exact : S.Exact) (m : Bytes) (a : Except NoiseError (S.Point × Session S)) :
    ((awaiting static ephemeral t).receiveActThree m).1 = a ↔ ActThreeAnswer ephemeral t m a := by
  rw [receiveActThree_fst]
  exact eq_iff_of_answered (exists_actThreeAnswer ephemeral t exact m) (fun _ h => h.openActThree static _ _ exact) a

end ActThree

/-- A fresh responder answers every act one as the order of its checks has it, and after an act one that it
accepts, every act three. Of all bytes it accepts only those that continue its own transcript. -/
theorem accepts_exactly_transcript (exact : S.Exact) (static ephemeral : S.Secret) (m1 m3 : Bytes) :
    (∀ a, ((new static ephemeral).receiveActOne m1).1 = a ↔ ActOneAnswer static ephemeral m1 a) ∧
    ∀ reply r, (new static ephemeral).receiveActOne m1 = (.ok reply, r) →
      ∃ key re, key.length = 33 ∧ S.point.decode key = some re ∧
        let t := transcript static ephemeral key re
        m1 = 0 :: key ++ S.encrypt (S.cipher t.key1) [0, 0, 0, 0, 0, 0, 0, 0, 0, 0, 0, 0] t.hash1 [] ∧
        reply = 0 :: S.point.encode (S.publicKey ephemeral) ++
          S.encrypt (S.cipher t.key2) [0, 0, 0, 0, 0, 0, 0, 0, 0, 0, 0, 0] t.hash2 [] ∧
        (∀ a, (r.receiveActThree m3).1 = a ↔ ActThreeAnswer ephemeral t m3 a) ∧
        ∀ rs session, (r.receiveActThree m3).1 = .ok (rs, session) →
          let own := S.point.encode rs
          let se := S.agree ephemeral rs
          let chain := t.chain3 se
          let sending := S.secondOutput chain []
          let receiving := S.firstOutput chain []
          S.point.decode own = some rs ∧
          m3 = 0 :: S.encrypt (S.cipher t.key2) [0, 0, 0, 0, 1, 0, 0, 0, 0, 0, 0, 0] t.hash3 own ++
            S.encrypt (S.cipher (t.key3 se)) [0, 0, 0, 0, 0, 0, 0, 0, 0, 0, 0, 0] (t.hash4 own) [] ∧
          session.sealer.cipher = ⟨⟨some sending, some (S.cipher sending), 0⟩, chain⟩ ∧
          session.opener.cipher = ⟨⟨some receiving, some (S.cipher receiving), 0⟩, chain⟩ := by
  refine ⟨receiveActOne_iff static ephemeral exact m1, fun reply r h => ?_⟩
  have answer : ActOneAnswer static ephemeral m1 (.ok reply) :=
    (receiveActOne_iff static ephemeral exact m1 _).1 (congrArg Prod.fst h)
  cases answer with
  | @accepted key re hk hre =>
      rw [receiveActOne_actOne _ _ exact.toSealing hk hre] at h
      cases h
      have answers := receiveActThree_iff static ephemeral (transcript static ephemeral key re) exact m3
      refine ⟨key, re, hk, hre, rfl, rfl, answers, fun rs session h => ?_⟩
      cases (answers _).1 h with
      | accepted valid => exact ⟨valid, rfl, rfl, rfl⟩

theorem accepts_exactly_transcript_vectors :
    let k := Secrets.vectors
    let three := k.transcript.actThree k.static k.se
    let accepted : Except NoiseError (Suite.standard.Point × Session .standard) :=
      .ok (Suite.standard.publicKey k.initiator, k.transcript.responderSession k.se)
    Suite.standard.Exact ∧
    k.responderSide.receiveActOne k.transcript.actOne = (.ok k.transcript.actTwo, k.responderAwaiting) ∧
    (k.responderAwaiting.receiveActThree three).1 = accepted ∧
    ∃ key re, key.length = 33 ∧ Suite.standard.point.decode key = some re ∧
      ActThreeAnswer k.responderEphemeral (transcript k.responder k.responderEphemeral key re) three accepted := by
  intro k three accepted
  have first := k.receiveActOne Suite.standard_lawful
  have last : (k.responderAwaiting.receiveActThree three).1 = accepted :=
    congrArg Prod.fst (k.receiveActThree Suite.standard_lawful)
  have accepts := accepts_exactly_transcript Suite.standard_exact k.responder k.responderEphemeral k.transcript.actOne
    three
  obtain ⟨key, re, hk, hre, -, -, answers, -⟩ := accepts.2 _ _ first
  exact ⟨Suite.standard_exact, first, last, key, re, hk, hre, (answers _).1 last⟩

end Responder
end NoiseLink
