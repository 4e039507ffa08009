import NoiseLink.Proofs.CipherUses
import NoiseLink.Proofs.Reception
import NoiseLink.Proofs.StandardSuite

namespace NoiseLink

variable {S : Suite}

theorem map_cons_eq_ok_iff {σ : Type} {x : Except NoiseError (List Bytes × σ)} {a : Bytes} {l : List Bytes} {s : σ} :
    x.map (fun (rest, s) => (a :: rest, s)) = .ok (l, s) ↔ ∃ rest, x = .ok (rest, s) ∧ l = a :: rest := by
  cases x with
  | error err => simp [Except.map]
  | ok y =>
      obtain ⟨rest, t⟩ := y
      simp [Except.map, eq_comm, and_comm]

namespace Sealer

def sealAll (s : Sealer S) : List Bytes → Except NoiseError (List Bytes × Sealer S)
  | [] => .ok ([], s)
  | p :: ps =>
    match s.encrypt p with
    | (.error e, _) => .error e
    | (.ok record, s) => (s.sealAll ps).map fun (records, s) => (record :: records, s)

theorem sealAll_cons_eq_ok_iff {s s' : Sealer S} {p : Bytes} {ps rs : List Bytes} :
    s.sealAll (p :: ps) = .ok (rs, s') ↔
      ∃ r s₁ qs, s.encrypt p = (.ok r, s₁) ∧ s₁.sealAll ps = .ok (qs, s') ∧ rs = r :: qs := by
  rw [sealAll]
  split
  · next err s₁ refused => simp [refused]
  · next r s₁ sealed => simp [sealed, map_cons_eq_ok_iff]

theorem fits_of_encrypt {s s' : Sealer S} {payload record : Bytes} (h : s.encrypt payload = (.ok record, s')) :
    payload.length ≤ maxMessageSize :=
  (encrypt_eq_ok_iff.1 h).1

theorem fits_of_sealAll {s s' : Sealer S} {ps records : List Bytes} (h : s.sealAll ps = .ok (records, s')) :
    ∀ p ∈ ps, p.length ≤ maxMessageSize := by
  induction ps generalizing s records with
  | nil => simp
  | cons p ps ih =>
      obtain ⟨r, t, rs, first, rest, rfl⟩ := sealAll_cons_eq_ok_iff.1 h
      exact List.forall_mem_cons.2 ⟨fits_of_encrypt first, ih rest⟩

end Sealer

namespace Epoch

variable {e : Epoch S}

variable (e) in
theorem sealAll_sealer (i : Nat) {ps : List Bytes} (fits : ∀ p ∈ ps, p.length ≤ maxMessageSize) :
    (e.sealer i).sealAll ps = .ok (e.records i ps, e.sealer (i + ps.length)) := by
  induction ps generalizing i with
  | nil => rfl
  | cons p ps ih =>
      obtain ⟨hp, hps⟩ := List.forall_mem_cons.1 fits
      rw [Sealer.sealAll, e.encrypt_sealer i hp]
      simp only [ih (i + 1) hps, Except.map, List.length_cons, Nat.add_right_comm, Nat.add_assoc]
      rfl

theorem getElem?_texts_odd (i k : Nat) {ps : List Bytes} {x : Bytes} (h : (e.texts i ps)[2 * k + 1]? = some x) :
    ∃ p, ps[k]? = some p ∧ x = e.body (i + k) p := by
  induction ps generalizing i k with
  | nil => exact absurd h (by simp [texts])
  | cons p ps ih =>
      cases k with
      | zero => exact ⟨p, rfl, (Option.some.inj h).symm⟩
      | succ k =>
          obtain ⟨q, hq, rfl⟩ := ih (i + 1) k h
          exact ⟨q, hq, by rw [Nat.add_right_comm, Nat.add_assoc]⟩

/-- As long as what opens is what was sealed, the payloads are those that were sealed. -/
theorem InTurn.payloads_prefix (opens : S.Opens) {opened payloads ps : List Bytes} (h : e.InTurn opened payloads)
    (hp : opened <+: e.texts 0 ps) : payloads <+: ps := by
  induction h with
  | nil => exact List.nil_prefix
  | header _ _ _ ih => exact ih ((List.prefix_append _ _).trans hp)
  | @body opened payloads x payload _ odd hx ih =>
      have sealed := getElem?_of_concat_prefix hp
      rw [odd] at sealed hx
      obtain ⟨p, hp', rfl⟩ := getElem?_texts_odd 0 payloads.length sealed
      rw [Nat.zero_add, Epoch.body, e.unsealedAt_sealedAt opens] at hx
      obtain rfl := Option.some.inj hx
      exact concat_prefix (ih ((List.prefix_append _ _).trans hp)) hp'

/-- Whatever a decoder is fed, it returns a prefix of the payloads that were sealed with the same keys, or it has opened
a text that was not sealed at its place in the schedule. -/
theorem prefix_or_forgery (opens : S.Opens) (e : Epoch S) {ps records : List Bytes} {s : Sealer S}
    (hps : Sealer.sealAll ⟨.ofKey e.key e.chain⟩ ps = .ok (records, s)) (inputs : List Decoder.Input) :
    records = e.records 0 ps ∧
    (e.reception inputs).opened.flatten <+: (e.reception inputs).fed ∧
    e.InTurn (e.reception inputs).opened (e.reception inputs).payloads ∧
    ((e.reception inputs).payloads <+: ps ∨
      ∃ (t : Nat) (x text : Bytes), (e.reception inputs).opened[t]? = some x ∧ e.unsealedAt t x = some text ∧
        (e.texts 0 ps)[t]? ≠ some x) := by
  have sound := e.sound_reception inputs
  have sealed := hps.symm.trans (e.sealAll_sealer 0 (Sealer.fits_of_sealAll hps))
  refine ⟨congrArg Prod.fst (Except.ok.inj sealed), sound.flatten_prefix, sound.inTurn, ?_⟩
  obtain honest | ⟨t, x, hx, ne⟩ := prefix_or_exists_ne (e.reception inputs).opened (e.texts 0 ps)
  · exact .inl (sound.inTurn.payloads_prefix opens honest)
  · obtain ⟨text, opened⟩ := sound.inTurn.exists_unsealedAt t x hx
    exact .inr ⟨t, x, text, hx, opened, ne⟩

def blank : Epoch .standard := ⟨Bytes.zeros 32, Bytes.zeros 32⟩

theorem prefix_or_forgery_replay :
    Suite.standard.Opens ∧
    Sealer.sealAll ⟨.ofKey blank.key blank.chain⟩ [[1, 2, 3]] = .ok (blank.records 0 [[1, 2, 3]], blank.sealer 1) ∧
    ((blank.reception [.feed (blank.records 0 [[1, 2, 3], [1, 2, 3]]).flatten, .next, .next]).payloads <+: [[1, 2, 3]] ∨
      ∃ (t : Nat) (x text : Bytes),
        (blank.reception [.feed (blank.records 0 [[1, 2, 3], [1, 2, 3]]).flatten, .next, .next]).opened[t]? = some x ∧
        blank.unsealedAt t x = some text ∧ (blank.texts 0 [[1, 2, 3]])[t]? ≠ some x) := by
  have sealed : (blank.sealer 0).sealAll [[1, 2, 3]] = .ok (blank.records 0 [[1, 2, 3]], blank.sealer 1) :=
    blank.sealAll_sealer 0 (by decide)
  exact ⟨Suite.standard_opens, sealed, (prefix_or_forgery Suite.standard_opens blank sealed _).2.2.2⟩

end Epoch
end NoiseLink
