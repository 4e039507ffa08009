import NoiseLink.Record.Session

namespace NoiseLink

variable {S : Suite}

/-- One use of the authenticated cipher. Records have no associated data. -/
structure Use (S : Suite) where
  cipher : S.Cipher
  nonce : Bytes

namespace Use

variable (u : Use S)

def encrypt (text : Bytes) : Bytes := S.encrypt u.cipher u.nonce [] text

def decrypt (sealed : Bytes) : Option Bytes := S.decrypt u.cipher u.nonce [] sealed

end Use

def KeyState.use? (k : KeyState S) : Option (Use S) :=
  if k.nonce = lastNonce then none else k.cipher.map fun c => ⟨c, nonceBytes k.nonce⟩

def KeyState.advance (k : KeyState S) : KeyState S := { k with nonce := k.nonce + 1 }

namespace RecordCipher

def use? (c : RecordCipher S) : Option (Use S) :=
  match c.ready with
  | .ok c => c.keys.use?
  | .error _ => none

def advance (c : RecordCipher S) : RecordCipher S :=
  match c.ready with
  | .ok c => { c with keys := c.keys.advance }
  | .error _ => c

end RecordCipher

namespace KeyState

variable {k : KeyState S} {u : Use S}

theorem use?_eq_some_iff :
    k.use? = some u ↔ k.nonce ≠ lastNonce ∧ k.cipher = some u.cipher ∧ u.nonce = nonceBytes k.nonce := by
  obtain ⟨cipher, nonce⟩ := u
  by_cases last : k.nonce = lastNonce
  · simp [use?, last]
  · cases hc : k.cipher with
    | none => simp [use?, hc]
    | some c => simp [use?, hc, last, eq_comm]

theorem encrypt_of_use? (h : k.use? = some u) (text : Bytes) : k.encrypt [] text = .ok (u.encrypt text, k.advance) := by
  obtain ⟨more, cipher, nonce⟩ := use?_eq_some_iff.1 h
  rw [encrypt, if_neg more]
  simp only [cipher, Use.encrypt, nonce, advance]

theorem decrypt_of_use? (h : k.use? = some u) (sealed : Bytes) :
    k.decrypt [] sealed = match u.decrypt sealed with
      | some text => .ok (text, k.advance)
      | none => .error .aead := by
  obtain ⟨more, cipher, nonce⟩ := use?_eq_some_iff.1 h
  have opened : S.decrypt u.cipher (nonceBytes k.nonce) [] sealed = u.decrypt sealed := by rw [Use.decrypt, nonce]
  rw [decrypt, if_neg more]
  cases hd : u.decrypt sealed with
  | none => simp only [cipher, opened, hd]
  | some text => simp only [cipher, opened, hd, advance]

theorem nonce_of_use?_eq_none (h : k.use? = none) (live : k.cipher.isNone = false) : k.nonce = lastNonce := by
  cases hc : k.cipher with
  | none => simp [hc] at live
  | some c => simpa [use?, hc] using h

end KeyState

namespace RecordCipher

variable {c c' : RecordCipher S} {u : Use S} {stage : Stage} {text sealed : Bytes}

theorem isErased_of_ready (h : c.ready = .ok c') : c'.isErased = false := by
  rw [ready] at h
  split at h
  · cases h
  · next live =>
      split at h
      · rw [rekey] at h
        split at h
        · cases h
          rfl
        · cases h
      · cases h
        simpa using live

theorem use?_of_ready (h : c.ready = .ok c') : c.use? = c'.keys.use? := by
  rw [use?, h]

theorem advance_of_ready (h : c.ready = .ok c') : c.advance = { c' with keys := c'.keys.advance } := by
  rw [advance, h]

theorem exists_ready_of_use? (h : c.use? = some u) : ∃ c', c.ready = .ok c' ∧ c'.keys.use? = some u := by
  cases hr : c.ready with
  | error err => simp [use?, hr] at h
  | ok c' => exact ⟨c', rfl, use?_of_ready hr ▸ h⟩

theorem isErased_advance (h : c.use? = some u) : c.advance.isErased = false := by
  obtain ⟨c', hr, -⟩ := exists_ready_of_use? h
  have live : c'.isErased = false := isErased_of_ready hr
  rw [advance_of_ready hr]
  exact live

theorem encrypt_of_use? (h : c.use? = some u) (text : Bytes) : c.encrypt text = (.ok (u.encrypt text), c.advance) := by
  obtain ⟨c', hr, hu⟩ := exists_ready_of_use? h
  simp only [encrypt, hr, KeyState.encrypt_of_use? hu, advance_of_ready hr]

theorem decrypt_of_use? (h : c.use? = some u) (stage : Stage) (sealed : Bytes) :
    ∃ c', c.ready = .ok c' ∧ c.decrypt stage sealed = match u.decrypt sealed with
      | some text => (.ok text, c.advance)
      | none => (.error (.authenticationFailed stage), c') := by
  obtain ⟨c', hr, hu⟩ := exists_ready_of_use? h
  refine ⟨c', hr, ?_⟩
  simp only [decrypt, hr, KeyState.decrypt_of_use? hu, advance_of_ready hr]
  cases u.decrypt sealed <;> rfl

theorem refused_of_use?_eq_none (h : c.use? = none) :
    ∃ err c', (∀ text, c.encrypt text = (.error err, c')) ∧
      ∀ stage sealed, c.decrypt stage sealed = (.error err, c') := by
  cases hr : c.ready with
  | error err => exact ⟨err, c, fun text => by rw [encrypt, hr], fun stage sealed => by rw [decrypt, hr]⟩
  | ok c' =>
      have last : c'.keys.nonce = lastNonce :=
        KeyState.nonce_of_use?_eq_none (use?_of_ready hr ▸ h) (isErased_of_ready hr)
      refine ⟨.nonceExhausted, c', fun text => ?_, fun stage sealed => ?_⟩
      · simp only [encrypt, hr, KeyState.encrypt, if_pos last]
      · simp only [decrypt, hr, KeyState.decrypt, if_pos last]
        rfl

end RecordCipher

namespace Sealer

variable {s s' : Sealer S} {payload record : Bytes}

theorem encrypt_eq_ok_iff :
    s.encrypt payload = (.ok record, s') ↔
      payload.length ≤ maxMessageSize ∧
      ∃ u v, s.cipher.use? = some u ∧ s.cipher.advance.use? = some v ∧
        record = u.encrypt (Bytes.ofNatBE lengthSize payload.length) ++ v.encrypt payload ∧
        s' = ⟨s.cipher.advance.advance⟩ := by
  rw [encrypt]
  split
  · next large => simp [Nat.not_le.2 large]
  · next fits =>
      rw [and_iff_right (Nat.le_of_not_lt fits)]
      cases hu : s.cipher.use? with
      | none =>
          obtain ⟨err, c, refused, -⟩ := RecordCipher.refused_of_use?_eq_none hu
          simp [refused]
      | some u =>
          simp only [RecordCipher.encrypt_of_use? hu]
          cases hv : s.cipher.advance.use? with
          | none =>
              obtain ⟨err, c, refused, -⟩ := RecordCipher.refused_of_use?_eq_none hv
              simp [refused]
          | some v => simp [RecordCipher.encrypt_of_use? hv, eq_comm]

end Sealer

namespace Opener

variable {o o' : Opener S} {stage : Stage} {n : Nat} {text header body payload record : Bytes}

theorem decrypt_eq_ok_iff {sealed : Bytes} :
    o.decrypt stage sealed = (.ok text, o') ↔
      ∃ u, o.cipher.use? = some u ∧ u.decrypt sealed = some text ∧ o' = ⟨o.cipher.advance⟩ := by
  rw [decrypt]
  cases hu : o.cipher.use? with
  | none =>
      obtain ⟨err, c, -, refused⟩ := RecordCipher.refused_of_use?_eq_none hu
      simp [refused]
  | some u =>
      obtain ⟨c, -, opened⟩ := RecordCipher.decrypt_of_use? hu stage sealed
      rw [opened]
      cases hd : u.decrypt sealed <;> simp [hd, eq_comm]

theorem decryptLength_eq_ok_iff :
    o.decryptLength header = (.ok n, o') ↔
      header.length = headerSize ∧
        ∃ text, o.decrypt .recordLength header = (.ok text, o') ∧ n = Bytes.toNatBE text := by
  rw [decryptLength]
  by_cases size : header.length = headerSize
  · rw [if_neg (not_not_intro size), and_iff_right size]
    split
    · next text o₁ opened =>
        constructor
        · rintro ⟨⟩
          exact ⟨text, opened, rfl⟩
        · rintro ⟨text', opened', rfl⟩
          obtain ⟨⟩ := opened.symm.trans opened'
          rfl
    · next err o₁ failed => simp [failed]
  · simp [size]

theorem isErased_of_decrypt {sealed : Bytes} (h : o.decrypt stage sealed = (.ok text, o')) : o'.isErased = false := by
  obtain ⟨u, hu, -, rfl⟩ := decrypt_eq_ok_iff.1 h
  exact RecordCipher.isErased_advance hu

theorem isErased_of_decryptLength (h : o.decryptLength header = (.ok n, o')) : o'.isErased = false := by
  obtain ⟨-, text, opened, -⟩ := decryptLength_eq_ok_iff.1 h
  exact isErased_of_decrypt opened

theorem decryptBody_eq_ok_iff :
    o.decryptBody body = (.ok payload, o') ↔
      macSize ≤ body.length ∧ o.decrypt .recordBody body = (.ok payload, o') := by
  rw [decryptBody]
  split
  · next short => simp [Nat.not_le.2 short]
  · next enough => rw [and_iff_right (Nat.le_of_not_lt enough)]

theorem decryptMessage_eq_ok_iff :
    o.decryptMessage record = (.ok payload, o') ↔
      ∃ header body n o₁, record = header ++ body ∧ body.length = n + macSize ∧
        o.decryptLength header = (.ok n, o₁) ∧ o₁.decryptBody body = (.ok payload, o') := by
  constructor
  · intro h
    rw [decryptMessage] at h
    split at h
    · cases h
    · next long =>
        split at h
        · cases h
        · next n o₁ length =>
            by_cases size : (record.drop headerSize).length = n + macSize
            · have opened : o₁.decryptBody (record.drop headerSize) = (.ok payload, o') := by
                simpa only [size, ne_eq, not_true_eq_false, if_false] using h
              exact ⟨_, _, n, o₁, (List.take_append_drop headerSize record).symm, size, length, opened⟩
            · simp only [ne_eq, size, not_false_eq_true, if_true] at h
              cases h
  · rintro ⟨header, body, n, o₁, rfl, size, length, opened⟩
    have hh : header.length = headerSize := (decryptLength_eq_ok_iff.1 length).1
    have long : ¬(header ++ body).length < headerSize := by
      rw [List.length_append]
      omega
    rw [decryptMessage, if_neg long]
    simp only [← hh, List.take_left, List.drop_left, length, size, ne_eq, not_true_eq_false, if_false, opened]

end Opener
end NoiseLink
