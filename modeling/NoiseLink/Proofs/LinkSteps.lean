import NoiseLink.Link.Pair
import NoiseLink.Proofs.KeyAgreement
import NoiseLink.Proofs.RecordFlow

namespace NoiseLink

variable {S : Suite}

def Link.handshaking (role : Role S) (buffer : Bytes) (remote : Option S.Point) (limit : Nat) : Link S :=
  ⟨.handshake role, buffer, remote, limit⟩

def Link.ready (sealer : Sealer S) (decoder : Decoder S) (remote : S.Point) (limit : Nat) : Link S :=
  ⟨.established ⟨sealer, min limit maxMessageSize⟩ decoder, [], some remote, limit⟩

theorem Epoch.encode_sealer (e : Epoch S) (i : Nat) {size : Nat} (bound : size ≤ maxMessageSize) {payload : Bytes}
    (fits : payload.length ≤ size) :
    (⟨e.sealer i, size⟩ : Encoder S).encode payload =
      (.ok (e.header i payload ++ e.body i payload), ⟨e.sealer (i + 1), size⟩) := by
  simp only [Encoder.encode, gt_iff_lt, if_neg (Nat.not_lt.2 fits), e.encrypt_sealer i (Nat.le_trans fits bound)]

section Handshake

variable {role : Role S} {size : Nat} (hsize : role.expectedSize = some size) {buffer b : Bytes}
  (remote : Option S.Point) (limit : Nat)
include hsize

theorem Link.feedHandshake_short (short : (buffer ++ b).length < size) :
    (handshaking role buffer remote limit).feedHandshake b =
      (.ok (.needMore (size - (buffer ++ b).length)), handshaking role (buffer ++ b) remote limit) := by
  simp only [feedHandshake, handshaking, hsize]
  exact if_pos short

theorem Link.feedHandshake_whole {act rest : Bytes} (whole : buffer ++ b = act ++ rest) (hact : act.length = size) :
    (handshaking role buffer remote limit).feedHandshake b =
      (handshaking role rest remote limit).receiveAct size act role := by
  have enough : ¬(act ++ rest).length < size := by
    rw [List.length_append]
    omega
  subst hact
  simp only [feedHandshake, handshaking, hsize, whole, if_neg enough, List.take_left, List.drop_left]

theorem Side.accept_short (short : (buffer ++ b).length < size) (outbound : Bytes) (sent received : List Bytes) :
    Side.accept ⟨.handshaking role buffer remote limit, outbound, sent, received⟩ b =
      .ok ⟨.handshaking role (buffer ++ b) remote limit, outbound, sent, received⟩ := by
  have waits : (Link.handshaking role buffer remote limit).isReady = false := rfl
  rw [accept, waits]
  simp only [Link.feedHandshake_short hsize remote limit short, actOf, List.append_nil]
  rfl

end Handshake

def Side.ready (e : Epoch S) (remote : S.Point) (limit : Nat) (decoder : Decoder S) (outbound : Bytes)
    (sent received : List Bytes) : Side S :=
  ⟨.ready (e.sealer sent.length) decoder remote limit, outbound, sent, received⟩

section Ready

variable {e : Epoch S} {remote : S.Point} {limit : Nat} {decoder : Decoder S} {outbound : Bytes}
  {sent received : List Bytes}

theorem Side.accept_ready (b : Bytes) :
    (Side.ready e remote limit decoder outbound sent received).accept b =
      .ok (.ready e remote limit (decoder.feed b) outbound sent received) :=
  rfl

theorem Side.send_ready {payload : Bytes} (fits : payload.length ≤ min limit maxMessageSize) :
    (Side.ready e remote limit decoder outbound sent received).send payload =
      .ok (.ready e remote limit decoder (outbound ++ (e.header sent.length payload ++ e.body sent.length payload))
        (sent ++ [payload]) received) := by
  have small : payload.length ≤ maxMessageSize := Nat.le_trans fits (Nat.min_le_right _ _)
  simp only [send, Side.ready, Link.encrypt, Link.ready, Encoder.encode, if_neg (Nat.not_lt.2 fits),
    e.encrypt_sealer _ small, List.length_append]
  rfl

variable (e remote limit outbound sent) in
/-- A side that reads along takes the next payload, or none. -/
theorem Side.poll_ready (sealing : S.Sealing) {origin : Epoch S} {theirs : List Bytes} {inFlight : Bytes}
    (fits : ∀ p ∈ theirs, p.length ≤ maxMessageSize) (reads : origin.Reads theirs received decoder inFlight) :
    ∃ decoder' received', (Side.ready e remote limit decoder outbound sent received).poll =
        .ok (.ready e remote limit decoder' outbound sent received') ∧
      origin.Reads theirs received' decoder' inFlight := by
  have next := reads.next sealing fits
  cases h : decoder.next with
  | mk answer decoder' =>
      rw [h] at next
      cases next with
      | @payload p _ reads =>
          refine ⟨decoder', received ++ [p], ?_, reads⟩
          simp only [poll, Side.ready, Link.next, Link.ready, h]
      | missing reads =>
          refine ⟨decoder', received, ?_, reads⟩
          simp only [poll, Side.ready, Link.next, Link.ready, h]

variable (e remote limit) in
theorem Link.next_ready_between (sealer : Sealer S) (t : Nat) :
    (Link.ready sealer (e.between t []) remote limit).next.1 = .ok none := by
  have short : ([] : Bytes).length < headerSize := by decide
  simp only [next, Link.ready, e.next_between_of_lt t short]

theorem Link.next_ready_eq_none {sealer : Sealer S} (h : (Link.ready sealer decoder remote limit).next.1 = .ok none) :
    ∃ n, decoder.next.1 = .error (.missingBytes n) := by
  simp only [next, Link.ready] at h
  split at h
  · cases h
  · next n d hn => exact ⟨n, congrArg Prod.fst hn⟩
  · cases h

end Ready

def Initiator.waiting (i : Initiator S) (limit : Nat) (buffer outbound : Bytes) : Side S :=
  ⟨.handshaking (.initiator i) buffer (some i.remote) limit, outbound, [], []⟩

def Responder.waiting (r : Responder S) (limit : Nat) (buffer outbound : Bytes) : Side S :=
  ⟨.handshaking (.responder r) buffer none limit, outbound, [], []⟩

theorem Initiator.accept_short {i : Initiator S} {size : Nat} (hi : (Role.initiator i).expectedSize = some size)
    (limit : Nat) {buffer b : Bytes} (short : (buffer ++ b).length < size) (outbound : Bytes) :
    (i.waiting limit buffer outbound).accept b = .ok (i.waiting limit (buffer ++ b) outbound) :=
  Side.accept_short hi _ limit short outbound [] []

theorem Responder.accept_short {r : Responder S} {size : Nat} (hr : (Role.responder r).expectedSize = some size)
    (limit : Nat) {buffer b : Bytes} (short : (buffer ++ b).length < size) (outbound : Bytes) :
    (r.waiting limit buffer outbound).accept b = .ok (r.waiting limit (buffer ++ b) outbound) :=
  Side.accept_short hr none limit short outbound [] []

namespace Secrets

variable (k : Secrets S)

def outward : Epoch S := ⟨(k.transcript.transportKeys k.se).1, k.transcript.chain3 k.se⟩

def inward : Epoch S := ⟨(k.transcript.transportKeys k.se).2, k.transcript.chain3 k.se⟩

variable (limit : Nat) (outbound : Bytes)

theorem start_initiator :
    Side.start limit (.initiator k.initiatorSide) =
      .ok (k.initiatorAwaiting.waiting (min limit maxMessageSize) [] k.transcript.actOne) := by
  have fresh : (Link.new.withLimit limit : Link S).isFresh = true := rfl
  simp only [Side.start, Link.start, fresh, if_true, k.sendActOne]
  rfl

theorem start_responder :
    Side.start limit (.responder k.responderSide) = .ok (k.responderSide.waiting (min limit maxMessageSize) [] []) :=
  rfl

variable (lawful : S.Lawful) {buffer b rest : Bytes}
include lawful

theorem length_actOne : k.transcript.actOne.length = actOneSize :=
  Transcript.length_actOne lawful.toSealing (lawful.length_point _)

theorem length_actTwo : k.transcript.actTwo.length = actTwoSize :=
  Transcript.length_actTwo lawful.toSealing (lawful.length_point _)

theorem length_actThree : (k.transcript.actThree k.static k.se).length = actThreeSize :=
  Transcript.length_actThree lawful.toSealing (lawful.length_point _) k.se

theorem accept_actOne (whole : buffer ++ b = k.transcript.actOne ++ rest) :
    (k.responderSide.waiting limit buffer outbound).accept b =
      .ok (k.responderAwaiting.waiting limit rest (outbound ++ k.transcript.actTwo)) := by
  have waits : (Link.handshaking (.responder k.responderSide) buffer none limit).isReady = false := rfl
  have expects : (Role.responder k.responderSide).expectedSize = some actOneSize := rfl
  rw [Responder.waiting, Side.accept, waits, Link.feedHandshake_whole expects none limit whole (k.length_actOne lawful)]
  simp only [Link.receiveAct, if_true, k.receiveActOne lawful]
  rfl

theorem accept_actTwo (whole : buffer ++ b = k.transcript.actTwo ++ rest) :
    (k.initiatorAwaiting.waiting limit buffer outbound).accept b =
      .ok (.ready k.outward (S.publicKey k.responder) limit (k.inward.between 0 rest)
        (outbound ++ k.transcript.actThree k.static k.se) [] []) := by
  let remote := k.initiatorAwaiting.remote
  have waits : (Link.handshaking (.initiator k.initiatorAwaiting) buffer (some remote) limit).isReady = false := rfl
  have expects : (Role.initiator k.initiatorAwaiting).expectedSize = some actTwoSize := rfl
  rw [Initiator.waiting, Side.accept, waits, Link.feedHandshake_whole expects _ limit whole (k.length_actTwo lawful)]
  simp only [Link.receiveAct, k.receiveActTwo lawful]
  rfl

theorem accept_actThree (whole : buffer ++ b = k.transcript.actThree k.static k.se ++ rest) :
    (k.responderAwaiting.waiting limit buffer outbound).accept b =
      .ok (.ready k.inward (S.publicKey k.initiator) limit (k.outward.between 0 rest) outbound [] []) := by
  have waits : (Link.handshaking (.responder k.responderAwaiting) buffer none limit).isReady = false := rfl
  have expects : (Role.responder k.responderAwaiting).expectedSize = some actThreeSize := rfl
  have other : actThreeSize ≠ actOneSize := by decide
  have size := k.length_actThree lawful
  rw [Responder.waiting, Side.accept, waits, Link.feedHandshake_whole expects none limit whole size]
  simp only [Link.receiveAct, if_neg other, k.receiveActThree lawful, Side.actOf, Option.getD_none, List.append_nil]
  rfl

end Secrets
end NoiseLink
