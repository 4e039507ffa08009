import NoiseLink.Proofs.DecoderReads
import NoiseLink.Proofs.KeySchedule

namespace NoiseLink

namespace Epoch

variable {S : Suite} (e : Epoch S) (t n : Nat)

def between (buffer : Bytes) : Decoder S := ⟨e.opener t, buffer, none⟩

def within (buffer : Bytes) : Decoder S := ⟨e.opener t, buffer, some (n + macSize)⟩

def failed : Decoder S := ⟨e.lost t, [], none⟩

theorem isErased_opener : (e.opener t).isErased = false := e.isErased_used t

theorem decodeBody_within_of_lt {buffer : Bytes} (h : buffer.length < n + macSize) :
    (e.within t n buffer).decodeBody (n + macSize) =
      (.error (.missingBytes (n + macSize - buffer.length)), e.within t n buffer) :=
  Decoder.decodeBody_of_lt h

theorem decryptBody_within {body : Bytes} (h : body.length = n + macSize) :
    (e.opener t).decryptBody body =
      match e.unsealedAt t body with
      | some text => (.ok text, e.opener (t + 1))
      | none => (.error (.authenticationFailed .recordBody), e.lost t) :=
  e.decryptBody_opener t (h ▸ Nat.le_add_left _ _)

theorem decodeBody_within {body : Bytes} (h : body.length = n + macSize) (rest : Bytes) :
    (e.within t n (body ++ rest)).decodeBody (n + macSize) =
      match e.unsealedAt t body with
      | some payload => (.ok payload, e.between (t + 1) rest)
      | none => (.error (.noise (.authenticationFailed .recordBody)), ⟨e.lost t, rest, none⟩) := by
  rw [within, Decoder.decodeBody_append h, e.decryptBody_within t n h]
  cases e.unsealedAt t body <;> rfl

theorem next_within_of_lt {buffer : Bytes} (h : buffer.length < n + macSize) :
    (e.within t n buffer).next = (.error (.missingBytes (n + macSize - buffer.length)), e.within t n buffer) :=
  Decoder.next_of_lt_body (e.isErased_opener t) h

theorem next_within {body : Bytes} (h : body.length = n + macSize) (rest : Bytes) :
    (e.within t n (body ++ rest)).next =
      match e.unsealedAt t body with
      | some payload => (.ok payload, e.between (t + 1) rest)
      | none => (.error (.noise (.authenticationFailed .recordBody)), e.failed t) := by
  rw [within, Decoder.next_body (e.isErased_opener t) h, e.decryptBody_within t n h]
  cases e.unsealedAt t body <;> rfl

theorem next_between_of_lt {buffer : Bytes} (h : buffer.length < headerSize) :
    (e.between t buffer).next = (.error (.missingBytes (headerSize - buffer.length)), e.between t buffer) :=
  Decoder.next_of_lt_header (e.isErased_opener t) h

/-- Once its header is open, a record is read as if its body had been awaited from the start. -/
theorem next_between {header : Bytes} (h : header.length = headerSize) (rest : Bytes) :
    (e.between t (header ++ rest)).next =
      match e.unsealedAt t header with
      | some text => (e.within (t + 1) (Bytes.toNatBE text) rest).next
      | none => (.error (.noise (.authenticationFailed .recordLength)), e.failed t) := by
  rw [between, Decoder.next_header (e.isErased_opener t) h, e.decryptLength_opener t h]
  cases e.unsealedAt t header <;> rfl

end Epoch
end NoiseLink
