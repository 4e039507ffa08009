import NoiseLink.Proofs.ActOrder
import NoiseLink.Proofs.FailClosed
import NoiseLink.Proofs.RefusedSends

namespace NoiseLink

variable {S : Suite}

/-- There is a cipher exactly when there is a key, and it is the cipher of that key. -/
def KeyState.InStep (k : KeyState S) : Prop := k.cipher = k.key.map S.cipher

namespace KeyState

theorem inStep_empty : (empty : KeyState S).InStep := rfl

theorem inStep_ofKey (key : Bytes) : (ofKey key : KeyState S).InStep := rfl

theorem inStep_erase (k : KeyState S) : k.erase.InStep := rfl

namespace InStep

variable {k k' : KeyState S} (h : k.InStep)
include h

theorem exists_key {c : S.Cipher} (there : k.cipher = some c) :
    ∃ key, k = ⟨some key, some (S.cipher key), k.nonce⟩ := by
  obtain ⟨key, cipher, nonce⟩ := k
  have same : cipher = key.map S.cipher := h
  subst same
  cases key with
  | none => cases there
  | some key => exact ⟨key, rfl⟩

theorem encrypt {ad text sealed : Bytes} (done : k.encrypt ad text = .ok (sealed, k')) : k'.InStep := by
  rw [KeyState.encrypt] at done
  split at done
  · cases done
  · split at done <;> cases done <;> exact h

theorem decrypt {ad text sealed : Bytes} (done : k.decrypt ad sealed = .ok (text, k')) : k'.InStep := by
  rw [KeyState.decrypt] at done
  split at done
  · cases done
  · split at done
    · split at done <;> cases done
      exact h
    · cases done
      exact h

end InStep
end KeyState

namespace RecordCipher

variable {c c' : RecordCipher S}

theorem inStep_erase (c : RecordCipher S) : c.erase.keys.InStep := c.keys.inStep_erase

theorem inStep_ready (h : c.keys.InStep) (ready : c.ready = .ok c') : c'.keys.InStep := by
  rw [RecordCipher.ready] at ready
  split at ready
  · cases ready
  · split at ready
    · rw [rekey] at ready
      split at ready <;> cases ready
      exact KeyState.inStep_ofKey _
    · cases ready
      exact h

theorem inStep_encrypt (h : c.keys.InStep) (text : Bytes) : (c.encrypt text).2.keys.InStep := by
  rw [encrypt]
  split
  · exact h
  · next ready =>
      have kept := inStep_ready h ready
      split
      · next done => exact kept.encrypt done
      · exact kept

theorem inStep_decrypt (h : c.keys.InStep) (stage : Stage) (sealed : Bytes) :
    (c.decrypt stage sealed).2.keys.InStep := by
  rw [decrypt]
  split
  · exact h
  · next ready =>
      have kept := inStep_ready h ready
      split
      · next done => exact kept.decrypt done
      · exact kept

end RecordCipher

namespace Sealer

theorem inStep_call {s : Sealer S} (h : s.cipher.keys.InStep) (c : Call) : (s.call c).2.cipher.keys.InStep := by
  cases c with
  | erase => exact s.cipher.inStep_erase
  | encrypt payload =>
      rw [call, encrypt]
      split
      · exact h
      · have header := RecordCipher.inStep_encrypt h (Bytes.ofNatBE lengthSize payload.length)
        split
        · next failed => simpa only [failed] using header
        · next done =>
            rw [done] at header
            have body := RecordCipher.inStep_encrypt header payload
            split <;> next result => simpa only [result] using body

theorem inStep_run (key chain : Bytes) (calls : List Call) :
    (Calls.run call (⟨.ofKey key chain⟩ : Sealer S) calls).cipher.keys.InStep :=
  (Calls.preserved call calls (fun s => s.cipher.keys.InStep) (fun _ _ => True)
    (fun _ h c _ => ⟨trivial, inStep_call h c⟩) (KeyState.inStep_ofKey key)).2

end Sealer

namespace Opener

variable {o : Opener S} (h : o.cipher.keys.InStep)
include h

theorem inStep_decrypt (stage : Stage) (sealed : Bytes) : (o.decrypt stage sealed).2.cipher.keys.InStep := by
  have kept := RecordCipher.inStep_decrypt h stage sealed
  rw [decrypt]
  split
  · next result => simpa only [result] using kept
  · exact RecordCipher.inStep_erase _

theorem inStep_decryptLength (header : Bytes) : (o.decryptLength header).2.cipher.keys.InStep := by
  rw [decryptLength]
  split
  · exact h
  · have kept := inStep_decrypt h .recordLength header
    split <;> next result => simpa only [result] using kept

theorem inStep_decryptBody (body : Bytes) : (o.decryptBody body).2.cipher.keys.InStep := by
  rw [decryptBody]
  split
  · exact h
  · exact inStep_decrypt h .recordBody body

theorem inStep_decryptMessage (record : Bytes) : (o.decryptMessage record).2.cipher.keys.InStep := by
  rw [decryptMessage]
  split
  · exact h
  · have kept := inStep_decryptLength h (record.take headerSize)
    split
    · next result => simpa only [result] using kept
    · next result =>
        rw [result] at kept
        dsimp only
        split
        · exact RecordCipher.inStep_erase _
        · exact inStep_decryptBody kept _

theorem inStep_move (m : Move) : (o.move m).2.cipher.keys.InStep := by
  cases m with
  | erase => exact o.cipher.inStep_erase
  | ask c =>
      cases c with
      | length header => exact inStep_decryptLength h header
      | body body => exact inStep_decryptBody h body
      | message record => exact inStep_decryptMessage h record

omit h

theorem inStep_run (key chain : Bytes) (moves : List Move) :
    (Calls.run move (⟨.ofKey key chain⟩ : Opener S) moves).cipher.keys.InStep :=
  (Calls.preserved move moves (fun o => o.cipher.keys.InStep) (fun _ _ => True)
    (fun _ h m _ => ⟨trivial, inStep_move h m⟩) (KeyState.inStep_ofKey key)).2

end Opener

theorem Symmetric.Keyed.inStep {s : Symmetric S} {n : Nat} (h : s.Keyed n) : s.keys.InStep := by
  obtain ⟨hash, chain, key, rfl⟩ := h
  rfl

theorem Party.inStep_settle {α : Type} (p : Party S) (next : Progress) {x : Except NoiseError (α × Symmetric S)}
    (h : ∀ a sym, x = .ok (a, sym) → next ≠ .complete → sym.keys.InStep) : (p.settle next x).2.sym.keys.InStep := by
  match x with
  | .error _ => exact p.sym.keys.inStep_erase
  | .ok (a, sym) =>
      rw [settle]
      dsimp only
      split
      · exact sym.keys.inStep_erase
      · next other => exact h a sym rfl other

namespace Initiator

theorem inStep_call {i : Initiator S} (h : i.party.sym.keys.InStep) (c : Call) :
    (i.call c).2.party.sym.keys.InStep := by
  cases c with
  | sendActOne =>
      rw [call, sendActOne]
      split
      · exact h
      · refine i.party.inStep_settle _ fun tag sym done _ => ?_
        have keyed : sym.Keyed 1 := i.checked_actOne.result done
        exact keyed.inStep
  | receiveActTwo m =>
      rw [call, receiveActTwo]
      split
      · exact h
      · exact i.party.inStep_settle _ fun _ _ _ other => absurd rfl other

theorem inStep_run (static ephemeral : S.Secret) (remote : S.Point) (calls : List Call) :
    (Calls.run call (new static ephemeral remote) calls).party.sym.keys.InStep :=
  (Calls.preserved call calls (fun i => i.party.sym.keys.InStep) (fun _ _ => True)
    (fun _ h c _ => ⟨trivial, inStep_call h c⟩) KeyState.inStep_empty).2

end Initiator

namespace Responder

theorem inStep_call {r : Responder S} (h : r.party.sym.keys.InStep) (c : Call) :
    (r.call c).2.party.sym.keys.InStep := by
  cases c with
  | receiveActOne m =>
      rw [call, receiveActOne]
      split
      · exact h
      · refine r.party.inStep_settle _ fun tag sym done _ => ?_
        have keyed : sym.Keyed 1 := (r.checked_actTwo m).result done
        exact keyed.inStep
  | receiveActThree m =>
      have kept : (r.party.settle .complete (r.openActThree m)).2.sym.keys.InStep :=
        r.party.inStep_settle _ fun _ _ _ other => absurd rfl other
      rw [call, receiveActThree]
      split
      · exact h
      · split <;> next result => simpa only [result] using kept

theorem inStep_run (static ephemeral : S.Secret) (calls : List Call) :
    (Calls.run call (new static ephemeral) calls).party.sym.keys.InStep :=
  (Calls.preserved call calls (fun r => r.party.sym.keys.InStep) (fun _ _ => True)
    (fun _ h c _ => ⟨trivial, inStep_call h c⟩) KeyState.inStep_empty).2

end Responder

end NoiseLink
