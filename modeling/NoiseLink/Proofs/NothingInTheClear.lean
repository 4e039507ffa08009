import NoiseLink.Proofs.ActOperations
import NoiseLink.Proofs.KeyAgreement
import NoiseLink.Proofs.KeysInStep
import NoiseLink.Proofs.RecordIntegrity

namespace NoiseLink

variable {S : Suite}

namespace RecordCipher

/-- The cipher that is ready for the operation has a key, and seals the text under it. -/
def Seals (c : RecordCipher S) (text sealed : Bytes) : Prop := ∃ c', c.ready = .ok c' ∧ c'.keys.Seals [] text sealed

def Unseals (c : RecordCipher S) (sealed text : Bytes) : Prop := ∃ c', c.ready = .ok c' ∧ c'.keys.Unseals [] sealed text

variable {c : RecordCipher S} {u : Use S} (h : c.keys.InStep) (used : c.use? = some u)
include h used

theorem exists_key_of_use? :
    ∃ c' key, c.ready = .ok c' ∧ c'.keys = ⟨some key, some (S.cipher key), c'.keys.nonce⟩ ∧
      u = ⟨S.cipher key, counter c'.keys.nonce⟩ := by
  obtain ⟨c', ready, use⟩ := exists_ready_of_use? used
  obtain ⟨-, there, nonce⟩ := KeyState.use?_eq_some_iff.1 use
  obtain ⟨key, keys⟩ := (inStep_ready h ready).exists_key there
  have cipher : u.cipher = S.cipher key := by
    rw [keys] at there
    exact (Option.some_inj.1 there).symm
  obtain ⟨_, _⟩ := u
  subst cipher nonce
  exact ⟨c', key, ready, keys, congrArg (Use.mk _) (nonceBytes_eq _)⟩

theorem seals_of_use? (sealing : S.Sealing) (text : Bytes) : c.Seals text (u.encrypt text) := by
  obtain ⟨c', key, ready, keys, rfl⟩ := exists_key_of_use? h used
  exact ⟨c', ready, key, keys, rfl, sealing.length_sealed key _ _ _⟩

theorem unseals_of_use? (strips : S.Strips) {sealed text : Bytes} (opened : u.decrypt sealed = some text) :
    c.Unseals sealed text := by
  obtain ⟨c', key, ready, keys, rfl⟩ := exists_key_of_use? h used
  exact ⟨c', ready, key, keys, opened, strips opened⟩

theorem inStep_advance : c.advance.keys.InStep := by
  have kept := inStep_encrypt h []
  rwa [encrypt_of_use? used] at kept

end RecordCipher

namespace Sealer

def Seals (s : Sealer S) (payload record : Bytes) : Prop :=
  ∃ header body, record = header ++ body ∧ s.cipher.Seals (Bytes.ofNatBE lengthSize payload.length) header ∧
    s.cipher.advance.Seals payload body

theorem seals_of_encrypt {s s' : Sealer S} (h : s.cipher.keys.InStep) (sealing : S.Sealing) {payload record : Bytes}
    (done : s.encrypt payload = (.ok record, s')) : s.Seals payload record := by
  obtain ⟨-, u, v, used, next, rfl, -⟩ := encrypt_eq_ok_iff.1 done
  exact ⟨_, _, rfl, RecordCipher.seals_of_use? h used sealing _,
    RecordCipher.seals_of_use? (RecordCipher.inStep_advance h used) next sealing _⟩

end Sealer

namespace Opener

inductive Unseals (o : Opener S) : Call → Answer → Prop
  | length {header text : Bytes} (opens : o.cipher.Unseals header text) :
      Unseals o (.length header) (.size (Bytes.toNatBE text))
  | body {body payload : Bytes} (opens : o.cipher.Unseals body payload) : Unseals o (.body body) (.payload payload)
  | message {header body text payload : Bytes} (length : o.cipher.Unseals header text)
      (opens : o.cipher.advance.Unseals body payload) : Unseals o (.message (header ++ body)) (.payload payload)

variable {o o' : Opener S} (h : o.cipher.keys.InStep) (strips : S.Strips)
include h strips

theorem unseals_of_decrypt {stage : Stage} {sealed text : Bytes} (done : o.decrypt stage sealed = (.ok text, o')) :
    o.cipher.Unseals sealed text ∧ o'.cipher = o.cipher.advance ∧ o'.cipher.keys.InStep := by
  obtain ⟨u, used, opened, rfl⟩ := decrypt_eq_ok_iff.1 done
  exact ⟨RecordCipher.unseals_of_use? h used strips opened, rfl, RecordCipher.inStep_advance h used⟩

theorem unseals_of_call {c : Call} {a : Answer} (done : (o.call c).1 = .ok a) : o.Unseals c a := by
  cases c with
  | length header =>
      rw [call] at done
      cases result : o.decryptLength header with
      | mk r o' =>
          rw [result] at done
          cases r with
          | error e => cases done
          | ok n =>
              cases done
              obtain ⟨-, text, opened, rfl⟩ := decryptLength_eq_ok_iff.1 result
              exact .length (unseals_of_decrypt h strips opened).1
  | body body =>
      rw [call] at done
      cases result : o.decryptBody body with
      | mk r o' =>
          rw [result] at done
          cases r with
          | error e => cases done
          | ok payload =>
              cases done
              exact .body (unseals_of_decrypt h strips (decryptBody_eq_ok_iff.1 result).2).1
  | message record =>
      rw [call] at done
      cases result : o.decryptMessage record with
      | mk r o' =>
          rw [result] at done
          cases r with
          | error e => cases done
          | ok payload =>
              cases done
              obtain ⟨header, body, n, o₁, rfl, -, length, opened⟩ := decryptMessage_eq_ok_iff.1 result
              obtain ⟨-, text, header', -⟩ := decryptLength_eq_ok_iff.1 length
              obtain ⟨opensHeader, next, kept⟩ := unseals_of_decrypt h strips header'
              have opensBody := (unseals_of_decrypt kept strips (decryptBody_eq_ok_iff.1 opened).2).1
              rw [next] at opensBody
              exact .message opensHeader opensBody

end Opener

structure Initiator.Ciphered (i : Initiator S) : Prop where
  inStep : i.party.sym.keys.InStep
  result : ∀ c, (i.perform c).result = (i.call c).1.mapError .refused
  sound : ∀ c, ∀ op ∈ (i.perform c).operations, op.Sound

structure Responder.Ciphered (r : Responder S) : Prop where
  inStep : r.party.sym.keys.InStep
  result : ∀ c, (r.perform c).result = (r.call c).1.mapError .refused
  sound : ∀ c, ∀ op ∈ (r.perform c).operations, op.Sound

structure Sealer.Ciphered (s : Sealer S) : Prop where
  inStep : s.cipher.keys.InStep
  seals : ∀ {payload record : Bytes} {s' : Sealer S}, s.encrypt payload = (.ok record, s') → s.Seals payload record

structure Opener.Ciphered (o : Opener S) : Prop where
  inStep : o.cipher.keys.InStep
  unseals : ∀ {c : Call} {a : Answer}, (o.call c).1 = .ok a → o.Unseals c a

/-- No run of calls, whatever their bytes, leads either side of a handshake or either half of a session to a state in
which a text would pass as it is. -/
theorem nothing_in_the_clear (sealing : S.Sealing) (strips : S.Strips)
    (points : ∀ p, (S.point.encode p).length = publicKeySize) :
    (∀ static ephemeral remote calls,
      (Calls.run Initiator.call (.new static ephemeral remote) calls : Initiator S).Ciphered) ∧
    (∀ static ephemeral calls, (Calls.run Responder.call (.new static ephemeral) calls : Responder S).Ciphered) ∧
    (∀ key chain calls, (Calls.run Sealer.call ⟨.ofKey key chain⟩ calls : Sealer S).Ciphered) ∧
    ∀ key chain moves, (Calls.run Opener.move ⟨.ofKey key chain⟩ moves : Opener S).Ciphered := by
  refine ⟨fun static ephemeral remote calls => ?_, fun static ephemeral calls => ?_, fun key chain calls => ?_,
    fun key chain moves => ?_⟩
  · have gives := (Calls.run Initiator.call (.new static ephemeral remote) calls).gives_perform sealing points strips
    exact ⟨Initiator.inStep_run static ephemeral remote calls, fun c => (gives c).result, fun c => (gives c).sound⟩
  · have sound := (Turns.stands_run Responder.lawful_turns (Responder.sound_new static ephemeral) rfl calls).2
    have gives := Responder.Sound.gives_perform sound sealing strips points
    exact ⟨Responder.inStep_run static ephemeral calls, fun c => (gives c).result, fun c => (gives c).sound⟩
  · have inStep := Sealer.inStep_run (S := S) key chain calls
    exact ⟨inStep, Sealer.seals_of_encrypt inStep sealing⟩
  · have inStep := Opener.inStep_run (S := S) key chain moves
    exact ⟨inStep, Opener.unseals_of_call inStep strips⟩

section Vectors

variable (k : Secrets S)

theorem Secrets.run_sendActOne :
    Calls.run Initiator.call (.new k.initiator k.initiatorEphemeral (S.publicKey k.responder)) [.sendActOne] =
      k.initiatorAwaiting := by
  change (k.initiatorSide.call .sendActOne).2 = _
  rw [Initiator.call, k.sendActOne]

theorem Secrets.run_receiveActOne (lawful : S.Lawful) :
    Calls.run Responder.call (.new k.responder k.responderEphemeral) [.receiveActOne k.transcript.actOne] =
      k.responderAwaiting := by
  change (k.responderSide.call (.receiveActOne k.transcript.actOne)).2 = _
  rw [Responder.call, k.receiveActOne lawful]

theorem nothing_in_the_clear_vectors :
    let k := Secrets.vectors
    let e := Epoch.blank
    Suite.standard.Sealing ∧ Suite.standard.Strips ∧
    (∀ p, (Suite.standard.point.encode p).length = publicKeySize) ∧
    (k.initiatorAwaiting.Ciphered ∧ k.initiatorAwaiting.party.progress = .actTwo) ∧
    (k.responderAwaiting.Ciphered ∧ k.responderAwaiting.party.progress = .actThree) ∧
    (e.sealer 0).Seals [1, 2, 3] (e.header 0 [1, 2, 3] ++ e.body 0 [1, 2, 3]) ∧
    (e.opener 0).Unseals (.length (e.sealedAt 0 [0, 3])) (.size 3) := by
  intro k e
  clear_value k e
  have sealing := Suite.standard_sealing
  have strips : Suite.standard.Strips := Suite.standard_exact.authentic.strips
  have points := Suite.standard_exact.length_point
  obtain ⟨initiators, responders, sealers, openers⟩ := nothing_in_the_clear sealing strips points
  have initiator := initiators k.initiator k.initiatorEphemeral (Suite.standard.publicKey k.responder) [.sendActOne]
  have responder := responders k.responder k.responderEphemeral [.receiveActOne k.transcript.actOne]
  have sealer : (e.sealer 0).Ciphered := sealers e.key e.chain []
  have opener : (e.opener 0).Ciphered := openers e.key e.chain []
  have sealed := e.encrypt_sealer 0 (show ([1, 2, 3] : Bytes).length ≤ maxMessageSize by decide)
  have opened : ((e.opener 0).call (.length (e.sealedAt 0 [0, 3]))).1 = .ok (.size 3) := by
    have length := e.decryptLength_opener 0 (e.length_sealedAt sealing 0 [0, 3])
    rw [e.unsealedAt_sealedAt sealing.opens 0] at length
    rw [Opener.call, length]
    rfl
  rw [k.run_sendActOne] at initiator
  rw [k.run_receiveActOne Suite.standard_lawful] at responder
  exact ⟨sealing, strips, points, ⟨initiator, rfl⟩, ⟨responder, rfl⟩,
    sealer.seals sealed, opener.unseals opened⟩

end Vectors

end NoiseLink
