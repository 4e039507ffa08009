import NoiseLink.Proofs.CipherUses
import NoiseLink.Proofs.RecordFlow
import NoiseLink.Proofs.RecordIntegrity

namespace NoiseLink

variable {S : Suite}

theorem Use.length_encrypt (sealing : S.Sealing) (u : Use S) (text : Bytes) :
    (u.encrypt text).length = text.length + macSize :=
  sealing.length_encrypt _ _ _ _

theorem Use.decrypt_encrypt (opens : S.Opens) (u : Use S) (text : Bytes) : u.decrypt (u.encrypt text) = some text :=
  opens _ _ _ _

theorem Use.decrypt_eq_some_iff (authentic : S.Authentic) {u : Use S} {sealed text : Bytes} :
    u.decrypt sealed = some text ↔ sealed = u.encrypt text :=
  authentic.decrypt_eq_some_iff

section Length

variable {text : Bytes} (h : text.length = lengthSize)
include h

theorem ofNatBE_toNatBE_length : Bytes.ofNatBE lengthSize (Bytes.toNatBE text) = text := by
  rw [← h]
  exact Bytes.ofNatBE_toNatBE text

theorem toNatBE_le_maxMessageSize : Bytes.toNatBE text ≤ maxMessageSize := by
  have bound := Nat.mod_lt (Bytes.toNatBE text) (y := Bytes.count lengthSize) (by decide)
  rw [← Bytes.toNatBE_ofNatBE, ofNatBE_toNatBE_length h] at bound
  exact Nat.le_of_lt_succ bound

end Length

section Shared

variable {s s' : Sealer S} {o o' : Opener S} (same : s.cipher = o.cipher)
include same

theorem opens_of_encrypt (sealing : S.Sealing) {p r : Bytes} (h : s.encrypt p = (.ok r, s')) :
    ∃ header body o₁, r = header ++ body ∧ header.length = headerSize ∧ body.length = p.length + macSize ∧
      o.decryptLength header = (.ok p.length, o₁) ∧ o₁.decryptBody body = (.ok p, ⟨s'.cipher⟩) := by
  obtain ⟨fits, u, v, hu, hv, rfl, rfl⟩ := Sealer.encrypt_eq_ok_iff.1 h
  rw [same] at hu hv ⊢
  have header : o.decrypt .recordLength (u.encrypt (Bytes.ofNatBE lengthSize p.length)) = (.ok _, ⟨o.cipher.advance⟩) :=
    Opener.decrypt_eq_ok_iff.2 ⟨u, hu, u.decrypt_encrypt sealing.opens _, rfl⟩
  have body : (⟨o.cipher.advance⟩ : Opener S).decrypt .recordBody (v.encrypt p) = (.ok p, ⟨o.cipher.advance.advance⟩) :=
    Opener.decrypt_eq_ok_iff.2 ⟨v, hv, v.decrypt_encrypt sealing.opens p, rfl⟩
  have headed : (u.encrypt (Bytes.ofNatBE lengthSize p.length)).length = headerSize := by
    rw [Use.length_encrypt sealing, Bytes.length_ofNatBE]
    rfl
  have size := Use.length_encrypt sealing v p
  refine ⟨_, _, ⟨o.cipher.advance⟩, rfl, headed, size, ?_, ?_⟩
  · exact Opener.decryptLength_eq_ok_iff.2 ⟨headed, _, header, (Epoch.toNatBE_length fits).symm⟩
  · refine Opener.decryptBody_eq_ok_iff.2 ⟨?_, body⟩
    rw [size]
    exact Nat.le_add_left _ _

theorem decryptMessage_of_encrypt (authentic : S.Authentic) {p r : Bytes} (h : s.encrypt p = (.ok r, s')) :
    o.decryptMessage r = (.ok p, ⟨s'.cipher⟩) := by
  obtain ⟨header, body, o₁, rfl, -, size, length, opened⟩ := opens_of_encrypt same authentic.toSealing h
  exact Opener.decryptMessage_eq_ok_iff.2 ⟨header, body, p.length, o₁, rfl, size, length, opened⟩

theorem encrypt_of_decryptMessage (authentic : S.Authentic) {p r : Bytes} (h : o.decryptMessage r = (.ok p, o')) :
    s.encrypt p = (.ok r, ⟨o'.cipher⟩) := by
  obtain ⟨header, body, n, o₁, rfl, size, length, opened⟩ := Opener.decryptMessage_eq_ok_iff.1 h
  obtain ⟨hh, text, first, rfl⟩ := Opener.decryptLength_eq_ok_iff.1 length
  obtain ⟨u, hu, ht, rfl⟩ := Opener.decrypt_eq_ok_iff.1 first
  obtain ⟨-, second⟩ := Opener.decryptBody_eq_ok_iff.1 opened
  obtain ⟨v, hv, hp, rfl⟩ := Opener.decrypt_eq_ok_iff.1 second
  obtain rfl := (Use.decrypt_eq_some_iff authentic).1 ht
  obtain rfl := (Use.decrypt_eq_some_iff authentic).1 hp
  rw [Use.length_encrypt authentic.toSealing] at hh size
  have two : text.length = lengthSize := Nat.add_right_cancel hh
  have told : p.length = Bytes.toNatBE text := Nat.add_right_cancel size
  refine Sealer.encrypt_eq_ok_iff.2 ⟨?_, u, v, same ▸ hu, same ▸ hv, ?_, same ▸ rfl⟩
  · rw [told]
    exact toNatBE_le_maxMessageSize two
  · rw [told, ofNatBE_toNatBE_length two]

theorem decryptMessage_iff_encrypt (authentic : S.Authentic) {p r : Bytes} {c : RecordCipher S} :
    o.decryptMessage r = (.ok p, ⟨c⟩) ↔ s.encrypt p = (.ok r, ⟨c⟩) :=
  ⟨encrypt_of_decryptMessage same authentic, decryptMessage_of_encrypt same authentic⟩

end Shared

theorem length_of_encrypt (sealing : S.Sealing) {s s' : Sealer S} {p r : Bytes} (h : s.encrypt p = (.ok r, s')) :
    r.length = headerSize + p.length + macSize := by
  obtain ⟨-, u, v, -, -, rfl, -⟩ := Sealer.encrypt_eq_ok_iff.1 h
  rw [List.length_append, Use.length_encrypt sealing, Use.length_encrypt sealing, Bytes.length_ofNatBE, headerSize]
  omega

def Opener.openAll (o : Opener S) : List Bytes → Except NoiseError (List Bytes × Opener S)
  | [] => .ok ([], o)
  | r :: rs =>
    match o.decryptMessage r with
    | (.error e, _) => .error e
    | (.ok payload, o) => (o.openAll rs).map fun (payloads, o) => (payload :: payloads, o)

theorem Opener.openAll_cons_eq_ok_iff {o o' : Opener S} {r : Bytes} {rs ps : List Bytes} :
    o.openAll (r :: rs) = .ok (ps, o') ↔
      ∃ p o₁ qs, o.decryptMessage r = (.ok p, o₁) ∧ o₁.openAll rs = .ok (qs, o') ∧ ps = p :: qs := by
  rw [openAll]
  split
  · next err o₁ failed => simp [failed]
  · next p o₁ opened => simp [opened, map_cons_eq_ok_iff]

theorem openAll_iff_sealAll (authentic : S.Authentic) {s : Sealer S} {o : Opener S} (same : s.cipher = o.cipher)
    {ps rs : List Bytes} {c : RecordCipher S} : o.openAll rs = .ok (ps, ⟨c⟩) ↔ s.sealAll ps = .ok (rs, ⟨c⟩) := by
  induction rs generalizing s o ps with
  | nil =>
      obtain ⟨d⟩ := s
      obtain ⟨d'⟩ := o
      obtain rfl : d = d' := same
      cases ps with
      | nil => simp [Opener.openAll, Sealer.sealAll]
      | cons p ps => simp [Opener.openAll, Sealer.sealAll_cons_eq_ok_iff]
  | cons r rs ih =>
      cases ps with
      | nil => simp [Opener.openAll_cons_eq_ok_iff, Sealer.sealAll]
      | cons p ps =>
          rw [Opener.openAll_cons_eq_ok_iff, Sealer.sealAll_cons_eq_ok_iff]
          constructor
          · rintro ⟨_, ⟨d⟩, _, opened, rest, ⟨⟩⟩
            exact ⟨r, ⟨d⟩, rs, (decryptMessage_iff_encrypt same authentic).1 opened, (ih rfl).1 rest, rfl⟩
          · rintro ⟨_, ⟨d⟩, _, sealed, rest, ⟨⟩⟩
            exact ⟨p, ⟨d⟩, ps, (decryptMessage_iff_encrypt same authentic).2 sealed, (ih rfl).2 rest, rfl⟩

/-- Of two halves that share a state, whatever it is, the one opens a record to a payload exactly if the other seals the
payload to that record. They share a state again after it, and so it goes on for all records that follow. -/
theorem opens_exactly_sealed (authentic : S.Authentic) {s : Sealer S} {o : Opener S} (same : s.cipher = o.cipher) :
    (∀ p r, (o.decryptMessage r).1 = .ok p ↔ (s.encrypt p).1 = .ok r) ∧
    (∀ p r s' o', s.encrypt p = (.ok r, s') → o.decryptMessage r = (.ok p, o') →
      s'.cipher = o'.cipher ∧ r.length = 18 + p.length + 16) ∧
    ∀ ps rs c, o.openAll rs = .ok (ps, ⟨c⟩) ↔ s.sealAll ps = .ok (rs, ⟨c⟩) := by
  refine ⟨fun p r => ?_, fun p r s' o' sealed opened => ?_, fun ps rs c => openAll_iff_sealAll authentic same⟩
  · constructor <;> intro h
    · exact congrArg Prod.fst (encrypt_of_decryptMessage same authentic (Prod.ext h rfl))
    · exact congrArg Prod.fst (decryptMessage_of_encrypt same authentic (Prod.ext h rfl))
  · obtain ⟨⟩ := opened.symm.trans (decryptMessage_of_encrypt same authentic sealed)
    exact ⟨rfl, length_of_encrypt authentic.toSealing sealed⟩

theorem opens_exactly_sealed_rekey :
    Suite.standard.Authentic ∧
    (Epoch.blank.sealer 500).cipher = (Epoch.blank.opener 1000).cipher ∧
    (Epoch.blank.sealer 500).nonce = 1000 ∧
    (Epoch.blank.sealer 500).encrypt [1, 2, 3] =
      (.ok (Epoch.blank.header 500 [1, 2, 3] ++ Epoch.blank.body 500 [1, 2, 3]), Epoch.blank.sealer 501) ∧
    ((Epoch.blank.opener 1000).decryptMessage (Epoch.blank.header 500 [1, 2, 3] ++ Epoch.blank.body 500 [1, 2, 3])).1 =
      .ok [1, 2, 3] := by
  have sealed : (Epoch.blank.sealer 500).encrypt [1, 2, 3] =
      (.ok (Epoch.blank.header 500 [1, 2, 3] ++ Epoch.blank.body 500 [1, 2, 3]), Epoch.blank.sealer 501) :=
    Epoch.blank.encrypt_sealer 500 (by decide)
  have opened := (opens_exactly_sealed Suite.standard_exact.authentic
    (s := Epoch.blank.sealer 500) (o := Epoch.blank.opener 1000) rfl).1
  exact ⟨Suite.standard_exact.authentic, rfl, rfl, sealed, (opened _ _).2 (congrArg Prod.fst sealed)⟩

end NoiseLink
