import NoiseLink.Link.Error
import NoiseLink.Proofs.Acts

namespace NoiseLink

variable {S : Suite} {α β : Type}

inductive NoiseError.Rejection : NoiseError → Prop
  | length (expected actual : Nat) : Rejection (.invalidMessageLength expected actual)
  | version (act : Act) (v : UInt8) : Rejection (.unsupportedVersion act v)
  | point (act : Act) : Rejection (.invalidPublicKey act)
  | tag {stage : Stage} (h : stage.isRecord = false) : Rejection (.authenticationFailed stage)

theorem NoiseError.Rejection.isHandshakeFailure {e : NoiseError} (h : e.Rejection) :
    (LinkError.noise e).isHandshakeFailure = true := by
  cases h with
  | length | version | point => rfl
  | tag h => simp [LinkError.isHandshakeFailure, h]

theorem NoiseError.Rejection.ne_unexpected {e : NoiseError} (h : e.Rejection) : e ≠ .unexpectedHandshakeMessage := by
  rintro rfl
  cases h

/-- A step over an act: its result has `Q`, or the act is rejected. -/
inductive Checked (Q : α → Prop) : Except NoiseError α → Prop
  | ok {a : α} (h : Q a) : Checked Q (.ok a)
  | rejected {e : NoiseError} (h : e.Rejection) : Checked Q (.error e)

theorem Checked.bind {P : α → Prop} {Q : β → Prop} {x : Except NoiseError α} {f : α → Except NoiseError β}
    (hx : Checked P x) (hf : ∀ a, P a → Checked Q (f a)) : Checked Q (x >>= f) := by
  cases hx with
  | ok h => exact hf _ h
  | rejected h => exact .rejected h

theorem Checked.rejection {Q : α → Prop} {x : Except NoiseError α} (h : Checked Q x) {e : NoiseError}
    (he : x = .error e) : e.Rejection := by
  cases h with
  | ok => cases he
  | rejected h =>
      cases he
      exact h

theorem Checked.result {Q : α → Prop} {x : Except NoiseError α} (h : Checked Q x) {a : α} (ha : x = .ok a) : Q a := by
  cases h with
  | ok h =>
      cases ha
      exact h
  | rejected => cases ha

theorem exists_of_bind {x : Except NoiseError α} {f : α → Except NoiseError β} {b : β}
    (h : x >>= f = .ok b) : ∃ a, f a = .ok b := by
  cases x with
  | error e => cases h
  | ok a => exact ⟨a, h⟩

theorem checked_checkAct (m : Bytes) (size : Nat) (act : Act) : Checked (fun _ => True) (checkAct m size act) := by
  rw [checkAct]
  split
  · exact .rejected (.length _ _)
  · split
    · exact .ok trivial
    · exact .rejected (.version _ _)

theorem Party.checked_parsePoint (act : Act) (b : Bytes) : Checked (fun _ => True) (parsePoint S act b) := by
  rw [parsePoint]
  split
  · exact .ok trivial
  · exact .rejected (.point _)

namespace Symmetric

def Keyed (n : Nat) (s : Symmetric S) : Prop := ∃ hash chain key, s = keyed hash chain key n

theorem keyed_mixKey (s : Symmetric S) (material : Bytes) : (s.mixKey material).Keyed 0 := ⟨_, _, _, s.mixKey_eq material⟩

namespace Keyed

variable {s : Symmetric S} {n : Nat} (more : n < lastNonce) (h : s.Keyed n)
include more h

theorem openIn {stage : Stage} (hs : stage.isRecord = false) (sealed : Bytes) :
    Checked (fun r => r.2.Keyed (n + 1)) (s.openIn stage sealed) := by
  obtain ⟨hash, chain, key, rfl⟩ := h
  rw [openIn_keyed more]
  split
  · exact .ok ⟨_, _, _, rfl⟩
  · exact .rejected (.tag hs)

theorem encryptAndHash (text : Bytes) : Checked (fun r => r.2.Keyed (n + 1)) (s.encryptAndHash text) := by
  obtain ⟨hash, chain, key, rfl⟩ := h
  rw [encryptAndHash_keyed more]
  exact .ok ⟨_, _, _, rfl⟩

end Keyed
end Symmetric

/-- A session as a handshake gives it: both of its directions are new. -/
def Session.Fresh (s : Session S) : Prop := ∃ sending receiving chain, s = .ofKeys sending receiving chain

namespace Initiator

variable (i : Initiator S)

theorem checked_actOne : Checked (fun r => r.2.Keyed 1) i.actOne := by
  apply Checked.bind ((Symmetric.keyed_mixKey _ _).encryptAndHash (by decide) _)
  intro r keyed
  exact .ok keyed

theorem checked_actThree (m : Bytes) : Checked (fun r => r.1.2.Fresh) (i.actThree m) := by
  apply Checked.bind (checked_checkAct _ _ _)
  intro _ _
  apply Checked.bind (Party.checked_parsePoint _ _)
  intro re _
  apply Checked.bind ((Symmetric.keyed_mixKey _ _).openIn (by decide) rfl _)
  intro opened keyed
  apply Checked.bind (keyed.encryptAndHash (by decide) _)
  intro static _
  apply Checked.bind ((Symmetric.keyed_mixKey _ _).encryptAndHash (by decide) _)
  intro last _
  exact .ok ⟨_, _, _, rfl⟩

theorem actThree_of_ne {m : Bytes} (h : m.length ≠ actTwoSize) :
    i.actThree m = .error (.invalidMessageLength actTwoSize m.length) := by
  rw [actThree, checkAct_of_ne h]
  rfl

end Initiator

namespace Responder

variable (r : Responder S)

theorem checked_actTwo (m : Bytes) : Checked (fun res => res.2.Keyed 1) (r.actTwo m) := by
  apply Checked.bind (checked_checkAct _ _ _)
  intro _ _
  apply Checked.bind (Party.checked_parsePoint _ _)
  intro re _
  apply Checked.bind ((Symmetric.keyed_mixKey _ _).openIn (by decide) rfl _)
  intro opened _
  apply Checked.bind ((Symmetric.keyed_mixKey _ _).encryptAndHash (by decide) _)
  intro tag keyed
  exact .ok keyed

theorem checked_openActThree (keyed : r.party.sym.Keyed 1) (m : Bytes) :
    Checked (fun res => res.1.2.Fresh) (r.openActThree m) := by
  apply Checked.bind (checked_checkAct _ _ _)
  intro _ _
  apply Checked.bind (keyed.openIn (by decide) rfl _)
  intro static _
  apply Checked.bind (Party.checked_parsePoint _ _)
  intro rs _
  apply Checked.bind ((Symmetric.keyed_mixKey _ _).openIn (by decide) rfl _)
  intro opened _
  exact .ok ⟨_, _, _, rfl⟩

theorem fresh_of_openActThree {m : Bytes} {a : (S.Point × Session S) × Symmetric S} (opened : r.openActThree m = .ok a) :
    a.1.2.Fresh := by
  obtain ⟨_, opened⟩ := exists_of_bind opened
  obtain ⟨_, opened⟩ := exists_of_bind opened
  obtain ⟨_, opened⟩ := exists_of_bind opened
  obtain ⟨_, opened⟩ := exists_of_bind opened
  cases opened
  exact ⟨_, _, _, rfl⟩

theorem actTwo_of_ne {m : Bytes} (h : m.length ≠ actOneSize) :
    r.actTwo m = .error (.invalidMessageLength actOneSize m.length) := by
  rw [actTwo, checkAct_of_ne h]
  rfl

theorem openActThree_of_ne {m : Bytes} (h : m.length ≠ actThreeSize) :
    r.openActThree m = .error (.invalidMessageLength actThreeSize m.length) := by
  rw [openActThree, checkAct_of_ne h]
  rfl

end Responder
end NoiseLink
