import NoiseLink.Link.Decoder
import NoiseLink.Proofs.CipherUses
import NoiseLink.Proofs.Cuts

namespace NoiseLink.Decoder

variable {S : Suite}

theorem next_of_isErased {d : Decoder S} (h : d.opener.isErased = true) : d.next = (.error (.noise .keyErased), d) :=
  if_pos h

theorem next_of_live {d : Decoder S} (live : d.opener.isErased = false) :
    d.next = match d.decode with
      | (.error err, d) => (.error err, if err.isFatal then d.erase else d)
      | r => r := by
  rw [next, live]
  rfl

section Parts

variable {o : Opener S} {n : Nat}

theorem decodeBody_of_lt {buffer : Bytes} (h : buffer.length < n) :
    (⟨o, buffer, some n⟩ : Decoder S).decodeBody n =
      (.error (.missingBytes (n - buffer.length)), ⟨o, buffer, some n⟩) :=
  if_pos h

theorem decodeBody_append {body : Bytes} (h : body.length = n) (rest : Bytes) :
    (⟨o, body ++ rest, some n⟩ : Decoder S).decodeBody n =
      match o.decryptBody body with
      | (.ok payload, o') => (.ok payload, ⟨o', rest, none⟩)
      | (.error err, o') => (.error (.noise err), ⟨o', rest, none⟩) := by
  subst h
  have enough : ¬(body ++ rest).length < body.length := by
    rw [List.length_append]
    omega
  rw [decodeBody, if_neg enough]
  cases opened : o.decryptBody body with
  | mk r o' => cases r <;> simp only [List.take_left, List.drop_left, opened]

theorem decode_pending (buffer : Bytes) :
    (⟨o, buffer, some n⟩ : Decoder S).decode = (⟨o, buffer, some n⟩ : Decoder S).decodeBody n :=
  rfl

theorem decode_of_lt {buffer : Bytes} (h : buffer.length < headerSize) :
    (⟨o, buffer, none⟩ : Decoder S).decode = (.error (.missingBytes (headerSize - buffer.length)), ⟨o, buffer, none⟩) :=
  if_pos h

theorem decode_append {header : Bytes} (h : header.length = headerSize) (rest : Bytes) :
    (⟨o, header ++ rest, none⟩ : Decoder S).decode =
      match o.decryptLength header with
      | (.ok n, o') => decodeBody ⟨o', rest, some (n + macSize)⟩ (n + macSize)
      | (.error err, o') => (.error (.noise err), ⟨o', rest, none⟩) := by
  have enough : ¬(header ++ rest).length < headerSize := by
    rw [List.length_append]
    omega
  rw [decode]
  simp only [if_neg enough]
  simp only [← h, List.take_left, List.drop_left]
  cases o.decryptLength header with
  | mk r o' => cases r <;> rfl

variable (live : o.isErased = false)
include live

theorem next_of_lt_body {buffer : Bytes} (h : buffer.length < n) :
    (⟨o, buffer, some n⟩ : Decoder S).next = (.error (.missingBytes (n - buffer.length)), ⟨o, buffer, some n⟩) := by
  rw [next_of_live live, decode_pending, decodeBody_of_lt h]
  rfl

theorem next_body {body : Bytes} (h : body.length = n) (rest : Bytes) :
    (⟨o, body ++ rest, some n⟩ : Decoder S).next =
      match o.decryptBody body with
      | (.ok payload, o') => (.ok payload, ⟨o', rest, none⟩)
      | (.error err, o') => (.error (.noise err), ⟨o'.erase, [], none⟩) := by
  rw [next_of_live live, decode_pending, decodeBody_append h]
  cases o.decryptBody body with
  | mk r o' => cases r <;> rfl

theorem next_of_lt_header {buffer : Bytes} (h : buffer.length < headerSize) :
    (⟨o, buffer, none⟩ : Decoder S).next =
      (.error (.missingBytes (headerSize - buffer.length)), ⟨o, buffer, none⟩) := by
  rw [next_of_live live, decode_of_lt h]
  rfl

theorem next_header {header : Bytes} (h : header.length = headerSize) (rest : Bytes) :
    (⟨o, header ++ rest, none⟩ : Decoder S).next =
      match o.decryptLength header with
      | (.ok n, o') => (⟨o', rest, some (n + macSize)⟩ : Decoder S).next
      | (.error err, o') => (.error (.noise err), ⟨o'.erase, [], none⟩) := by
  rw [next_of_live live, decode_append h]
  cases opened : o.decryptLength header with
  | mk r o' =>
      cases r with
      | error err => rfl
      | ok n =>
          have live' : o'.isErased = false := Opener.isErased_of_decryptLength opened
          exact (next_of_live (d := ⟨o', rest, some (n + macSize)⟩) live').symm

end Parts

/-- All that a read can do, by what it finds: its answer, and the decoder that it leaves. -/
inductive Read : Decoder S → Except LinkError Bytes → Decoder S → Prop
  | erased {d : Decoder S} (gone : d.opener.isErased = true) : Read d (.error (.noise .keyErased)) d
  | awaitHeader {o : Opener S} {buffer : Bytes} (live : o.isErased = false) (short : buffer.length < headerSize) :
      Read ⟨o, buffer, none⟩ (.error (.missingBytes (headerSize - buffer.length))) ⟨o, buffer, none⟩
  | badHeader {o o' : Opener S} {header : Bytes} {err : NoiseError} (live : o.isErased = false)
      (size : header.length = headerSize) (failed : o.decryptLength header = (.error err, o')) (rest : Bytes) :
      Read ⟨o, header ++ rest, none⟩ (.error (.noise err)) ⟨o'.erase, [], none⟩
  | header {o o' : Opener S} {header rest : Bytes} {n : Nat} {r : Except LinkError Bytes} {d' : Decoder S}
      (live : o.isErased = false) (size : header.length = headerSize) (opened : o.decryptLength header = (.ok n, o'))
      (body : Read ⟨o', rest, some (n + macSize)⟩ r d') : Read ⟨o, header ++ rest, none⟩ r d'
  | awaitBody {o : Opener S} {buffer : Bytes} {n : Nat} (live : o.isErased = false) (short : buffer.length < n) :
      Read ⟨o, buffer, some n⟩ (.error (.missingBytes (n - buffer.length))) ⟨o, buffer, some n⟩
  | badBody {o o' : Opener S} {body : Bytes} {n : Nat} {err : NoiseError} (live : o.isErased = false)
      (size : body.length = n) (failed : o.decryptBody body = (.error err, o')) (rest : Bytes) :
      Read ⟨o, body ++ rest, some n⟩ (.error (.noise err)) ⟨o'.erase, [], none⟩
  | body {o o' : Opener S} {body payload : Bytes} {n : Nat} (live : o.isErased = false) (size : body.length = n)
      (opened : o.decryptBody body = (.ok payload, o')) (rest : Bytes) :
      Read ⟨o, body ++ rest, some n⟩ (.ok payload) ⟨o', rest, none⟩

namespace Read

variable {d d' : Decoder S} {r : Except LinkError Bytes}

theorem next_eq (h : Read d r d') : d.next = (r, d') := by
  induction h with
  | erased gone => exact next_of_isErased gone
  | awaitHeader live short => exact next_of_lt_header live short
  | badHeader live size failed rest => rw [next_header live size, failed]
  | header live size opened body ih =>
      rw [next_header live size, opened]
      exact ih
  | awaitBody live short => exact next_of_lt_body live short
  | badBody live size failed rest => rw [next_body live size, failed]
  | body live size opened rest => rw [next_body live size, opened]

theorem exists_of_pending {o : Opener S} (live : o.isErased = false) (buffer : Bytes) (n : Nat) :
    ∃ r d', Read ⟨o, buffer, some n⟩ r d' := by
  by_cases short : buffer.length < n
  · exact ⟨_, _, .awaitBody live short⟩
  · obtain ⟨body, rest, rfl, size⟩ := exists_append_of_le (Nat.le_of_not_lt short)
    cases opened : o.decryptBody body with
    | mk r o' =>
        cases r with
        | error err => exact ⟨_, _, .badBody live size opened rest⟩
        | ok payload => exact ⟨_, _, .body live size opened rest⟩

theorem exists_of_decoder (d : Decoder S) : ∃ r d', Read d r d' := by
  obtain ⟨o, buffer, pending⟩ := d
  cases live : o.isErased with
  | true => exact ⟨_, _, .erased live⟩
  | false =>
      cases pending with
      | some n => exact exists_of_pending live buffer n
      | none =>
          by_cases short : buffer.length < headerSize
          · exact ⟨_, _, .awaitHeader live short⟩
          · obtain ⟨header, rest, rfl, size⟩ := exists_append_of_le (Nat.le_of_not_lt short)
            cases opened : o.decryptLength header with
            | mk r o' =>
                cases r with
                | error err => exact ⟨_, _, .badHeader live size opened rest⟩
                | ok n =>
                    have live' : o'.isErased = false := Opener.isErased_of_decryptLength opened
                    obtain ⟨r, d', body⟩ := exists_of_pending live' rest (n + macSize)
                    exact ⟨r, d', .header live size opened body⟩

theorem of_next (h : d.next = (r, d')) : Read d r d' := by
  obtain ⟨r₁, d₁, read⟩ := exists_of_decoder d
  obtain ⟨rfl, rfl⟩ := Prod.mk.inj (read.next_eq.symm.trans h)
  exact read

theorem length_le (h : Read d r d') : d'.buffer.length ≤ d.buffer.length := by
  induction h with
  | erased | awaitHeader | awaitBody => exact Nat.le_refl _
  | badHeader | badBody => exact Nat.zero_le _
  | header live size opened body ih =>
      refine ih.trans ?_
      rw [List.length_append]
      exact Nat.le_add_left _ _
  | body live size opened rest =>
      rw [List.length_append]
      exact Nat.le_add_left _ _

theorem length_lt (h : Read d r d') {payload : Bytes} (ok : r = .ok payload) : d'.buffer.length < d.buffer.length := by
  induction h with
  | erased | awaitHeader | badHeader | awaitBody | badBody => cases ok
  | header live size opened body ih =>
      have less := ih ok
      simp only [List.length_append] at less ⊢
      omega
  | body live size opened rest =>
      have enough : macSize ≤ _ := (Opener.decryptBody_eq_ok_iff.1 opened).1
      have positive : 0 < macSize := by decide
      simp only [List.length_append]
      omega

theorem isErased_of_ok (h : Read d r d') {payload : Bytes} (ok : r = .ok payload) : d'.opener.isErased = false := by
  induction h with
  | erased | awaitHeader | badHeader | awaitBody | badBody => cases ok
  | header live size opened body ih => exact ih ok
  | body live size opened rest => exact Opener.isErased_of_decrypt (Opener.decryptBody_eq_ok_iff.1 opened).2

theorem feed_of_ok (h : Read d r d') {payload : Bytes} (ok : r = .ok payload) (b : Bytes) :
    Read (d.feed b) r (d'.feed b) := by
  induction h with
  | erased | awaitHeader | badHeader | awaitBody | badBody => cases ok
  | header live size opened body ih =>
      rw [feed, List.append_assoc]
      exact .header live size opened (ih ok)
  | body live size opened rest =>
      rw [feed, List.append_assoc]
      exact .body live size opened (rest ++ b)

/-- A read that wants more bytes may have opened a header, and goes on from there once it has them. -/
theorem of_missing (h : Read d r d') {n : Nat} (missing : r = .error (.missingBytes n)) :
    d'.opener.isErased = false ∧ d'.next = (r, d') ∧ ∀ b, (d.feed b).next = (d'.feed b).next := by
  induction h with
  | erased | badHeader | badBody | body => cases missing
  | awaitHeader live short => exact ⟨live, next_of_lt_header live short, fun b => rfl⟩
  | awaitBody live short => exact ⟨live, next_of_lt_body live short, fun b => rfl⟩
  | header live size opened body ih =>
      obtain ⟨live', stays, more⟩ := ih missing
      refine ⟨live', stays, fun b => ?_⟩
      rw [← more b, feed, List.append_assoc, next_header live size, opened]
      rfl

theorem of_fatal (h : Read d r d') {err : LinkError} (failed : r = .error err) (fatal : err.isFatal = true) :
    d'.opener.isErased = true ∧
      ∀ b, (d.feed b).next = (r, if d.opener.isErased = true then d.feed b else d') := by
  induction h with
  | awaitHeader | awaitBody =>
      cases failed
      cases fatal
  | body => cases failed
  | @erased d gone =>
      refine ⟨gone, fun b => ?_⟩
      rw [if_pos gone]
      exact next_of_isErased (d := d.feed b) gone
  | badHeader live size opened rest =>
      refine ⟨rfl, fun b => ?_⟩
      rw [feed, List.append_assoc, next_header live size, opened, live]
      rfl
  | badBody live size opened rest =>
      refine ⟨rfl, fun b => ?_⟩
      rw [feed, List.append_assoc, next_body live size, opened, live]
      rfl
  | header live size opened body ih =>
      obtain ⟨gone, more⟩ := ih failed
      have live' := Opener.isErased_of_decryptLength opened
      refine ⟨gone, fun b => ?_⟩
      rw [feed, List.append_assoc, next_header live size, opened, live]
      refine (more b).trans ?_
      rw [live']
      rfl

end Read

def Short (d : Decoder S) : Prop := d.buffer.length < d.pending.getD headerSize

theorem Read.short {d d' : Decoder S} {r : Except LinkError Bytes} (h : Read d r d') {n : Nat}
    (missing : r = .error (.missingBytes n)) : d'.Short := by
  induction h with
  | erased | badHeader | badBody | body => cases missing
  | awaitHeader live short | awaitBody live short => exact short
  | header live size opened body ih => exact ih missing

theorem next_cases (d : Decoder S) :
    (∃ payload d', d.next = (.ok payload, d')) ∨ (∃ n d', d.next = (.error (.missingBytes n), d')) ∨
      ∃ err d', err.isFatal = true ∧ d.next = (.error err, d') := by
  cases found : d.next with
  | mk r d' =>
      cases r with
      | ok payload => exact .inl ⟨payload, d', rfl⟩
      | error err =>
          cases err with
          | missingBytes n => exact .inr (.inl ⟨n, d', rfl⟩)
          | _ => exact .inr (.inr ⟨_, d', rfl, rfl⟩)

end NoiseLink.Decoder
