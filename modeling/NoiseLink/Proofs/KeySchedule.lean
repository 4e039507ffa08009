import NoiseLink.Proofs.CipherUses
import NoiseLink.Proofs.Primitives

namespace NoiseLink

/-- A key, and the chaining key that it is replaced with. -/
structure Epoch (S : Suite) where
  key : Bytes
  chain : Bytes

namespace Epoch

variable {S : Suite} (e : Epoch S)

def next : Epoch S := ⟨S.secondOutput e.chain e.key, S.firstOutput e.chain e.key⟩

def after : Nat → Epoch S
  | 0 => e
  | n + 1 => (after n).next

def cipher (n : Nat) : RecordCipher S := ⟨⟨some e.key, some (S.cipher e.key), n⟩, e.chain⟩

/-- The cipher ready for use `t`, counted from zero. -/
def fit (t : Nat) : RecordCipher S := (e.after (t / rekeyInterval)).cipher (t % rekeyInterval)

/-- The cipher after `t` uses. The key is not replaced before the use that follows. -/
def used : Nat → RecordCipher S
  | 0 => e.cipher 0
  | t + 1 => (e.after (t / rekeyInterval)).cipher (t % rekeyInterval + 1)

def useAt (t : Nat) : Use S := ⟨S.cipher (e.after (t / rekeyInterval)).key, counter (t % rekeyInterval)⟩

def sealedAt (t : Nat) (text : Bytes) : Bytes :=
  S.sealed (e.after (t / rekeyInterval)).key (t % rekeyInterval) [] text

def unsealedAt (t : Nat) (sealed : Bytes) : Option Bytes :=
  S.unsealed (e.after (t / rekeyInterval)).key (t % rekeyInterval) [] sealed

theorem unsealedAt_sealedAt (opens : S.Opens) (t : Nat) (text : Bytes) :
    e.unsealedAt t (e.sealedAt t text) = some text :=
  opens.unsealed_sealed ..

theorem length_sealedAt (sealing : S.Sealing) (t : Nat) (text : Bytes) :
    (e.sealedAt t text).length = text.length + macSize :=
  sealing.length_sealed ..

theorem mod_lt_lastNonce (t : Nat) : t % rekeyInterval < lastNonce :=
  Nat.lt_trans (Nat.mod_lt t (by decide)) (by decide)

theorem isErased_used (t : Nat) : (e.used t).isErased = false := by
  cases t <;> rfl

theorem rekey_cipher (n : Nat) : (e.cipher n).rekey = .ok (e.next.cipher 0) := rfl

theorem fit_succ_of_eq {t : Nat} (last : t % rekeyInterval + 1 = rekeyInterval) :
    e.fit (t + 1) = (e.after (t / rekeyInterval)).next.cipher 0 := by
  have div : (t + 1) / rekeyInterval = t / rekeyInterval + 1 := by
    unfold rekeyInterval at *
    omega
  have mod : (t + 1) % rekeyInterval = 0 := by
    unfold rekeyInterval at *
    omega
  rw [fit, div, mod, after]

theorem fit_succ_of_ne {t : Nat} (inside : t % rekeyInterval + 1 ≠ rekeyInterval) : e.fit (t + 1) = e.used (t + 1) := by
  have div : (t + 1) / rekeyInterval = t / rekeyInterval := by
    unfold rekeyInterval at *
    omega
  have mod : (t + 1) % rekeyInterval = t % rekeyInterval + 1 := by
    unfold rekeyInterval at *
    omega
  rw [fit, div, mod, used]

/-- The key changes at the count that ends its epoch, and at no other. -/
theorem ready_used (t : Nat) : (e.used t).ready = .ok (e.fit t) := by
  rw [RecordCipher.ready, isErased_used]
  cases t with
  | zero => rfl
  | succ t =>
      by_cases last : t % rekeyInterval + 1 = rekeyInterval
      · rw [e.fit_succ_of_eq last, ← rekey_cipher _ (t % rekeyInterval + 1)]
        exact if_pos last
      · rw [e.fit_succ_of_ne last]
        exact if_neg last

theorem use?_used (t : Nat) : (e.used t).use? = some (e.useAt t) := by
  rw [RecordCipher.use?_of_ready (e.ready_used t)]
  exact KeyState.use?_eq_some_iff.2 ⟨Nat.ne_of_lt (mod_lt_lastNonce t), rfl, (nonceBytes_eq _).symm⟩

theorem advance_used (t : Nat) : (e.used t).advance = e.used (t + 1) :=
  RecordCipher.advance_of_ready (e.ready_used t)

theorem encrypt_used (t : Nat) (text : Bytes) :
    (e.used t).encrypt text = (.ok (e.sealedAt t text), e.used (t + 1)) := by
  rw [RecordCipher.encrypt_of_use? (e.use?_used t), advance_used]
  rfl

/-- A text that does not open takes no nonce, but the key may have been replaced for it. -/
theorem decrypt_used (t : Nat) (stage : Stage) (sealed : Bytes) :
    (e.used t).decrypt stage sealed =
      match e.unsealedAt t sealed with
      | some text => (.ok text, e.used (t + 1))
      | none => (.error (.authenticationFailed stage), e.fit t) := by
  obtain ⟨c, hr, opened⟩ := RecordCipher.decrypt_of_use? (e.use?_used t) stage sealed
  obtain rfl : e.fit t = c := Except.ok.inj ((e.ready_used t).symm.trans hr)
  rw [opened, advance_used]
  rfl

def sealer (i : Nat) : Sealer S := ⟨e.used (2 * i)⟩

def opener (t : Nat) : Opener S := ⟨e.used t⟩

/-- An opener that has failed at header or body `t`. -/
def lost (t : Nat) : Opener S := ⟨(e.fit t).erase⟩

def header (i : Nat) (payload : Bytes) : Bytes := e.sealedAt (2 * i) (Bytes.ofNatBE lengthSize payload.length)

def body (i : Nat) (payload : Bytes) : Bytes := e.sealedAt (2 * i + 1) payload

def texts : (i : Nat) → List Bytes → List Bytes
  | _, [] => []
  | i, p :: ps => e.header i p :: e.body i p :: texts (i + 1) ps

def records : (i : Nat) → List Bytes → List Bytes
  | _, [] => []
  | i, p :: ps => (e.header i p ++ e.body i p) :: records (i + 1) ps

theorem encrypt_sealer (i : Nat) {payload : Bytes} (h : payload.length ≤ maxMessageSize) :
    (e.sealer i).encrypt payload = (.ok (e.header i payload ++ e.body i payload), e.sealer (i + 1)) := by
  rw [Sealer.encrypt, if_neg (Nat.not_lt.2 h)]
  simp only [sealer, encrypt_used]
  rfl

theorem decrypt_opener (t : Nat) (stage : Stage) (sealed : Bytes) :
    (e.opener t).decrypt stage sealed =
      match e.unsealedAt t sealed with
      | some text => (.ok text, e.opener (t + 1))
      | none => (.error (.authenticationFailed stage), e.lost t) := by
  rw [Opener.decrypt, opener, decrypt_used]
  cases e.unsealedAt t sealed <;> rfl

theorem decryptLength_opener (t : Nat) {header : Bytes} (h : header.length = headerSize) :
    (e.opener t).decryptLength header =
      match e.unsealedAt t header with
      | some text => (.ok (Bytes.toNatBE text), e.opener (t + 1))
      | none => (.error (.authenticationFailed .recordLength), e.lost t) := by
  rw [Opener.decryptLength, if_neg (fun ne => ne h), decrypt_opener]
  cases e.unsealedAt t header <;> rfl

theorem decryptBody_opener (t : Nat) {body : Bytes} (h : macSize ≤ body.length) :
    (e.opener t).decryptBody body =
      match e.unsealedAt t body with
      | some text => (.ok text, e.opener (t + 1))
      | none => (.error (.authenticationFailed .recordBody), e.lost t) := by
  rw [Opener.decryptBody, if_neg (Nat.not_lt.2 h), decrypt_opener]

end Epoch
end NoiseLink
