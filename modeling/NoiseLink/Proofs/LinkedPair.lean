import NoiseLink.Proofs.LinkSteps

namespace NoiseLink
namespace Pair

variable {S : Suite} (limits : End → Nat)

/-- A side sends payloads within its limit and takes payloads once it is ready. Bytes may arrive at any time. -/
def Allows (p : Pair S) : Step → Prop
  | .deliver _ _ => True
  | .send source payload =>
    (p.side source).link.isReady = true ∧ payload.length ≤ min (limits source) maxMessageSize
  | .poll target => (p.side target).link.isReady = true

def Legal : Pair S → List Step → Prop
  | _, [] => True
  | p, step :: steps => p.Allows limits step ∧ ∀ q, p.step step = .ok q → q.Legal steps

variable (k : Secrets S)

def cap (x : End) : Nat := min (limits x) maxMessageSize

/-- How far two honest sides have come: act one is under way, then act two, then act three with the first records
behind it, and then records only. -/
inductive Linked : Pair S → Prop
  | opening {buffer inFlight : Bytes} (bytes : buffer ++ inFlight = k.transcript.actOne) :
      Linked ⟨k.initiatorAwaiting.waiting (cap limits .initiator) [] inFlight,
        k.responderSide.waiting (cap limits .responder) buffer []⟩
  | answering {buffer inFlight : Bytes} (bytes : buffer ++ inFlight = k.transcript.actTwo) :
      Linked ⟨k.initiatorAwaiting.waiting (cap limits .initiator) buffer [],
        k.responderAwaiting.waiting (cap limits .responder) [] inFlight⟩
  | closing {d : Decoder S} {sent received : List Bytes} {buffer inFlight : Bytes}
      (fits : ∀ p ∈ sent, p.length ≤ maxMessageSize)
      (bytes : buffer ++ inFlight = k.transcript.actThree k.static k.se ++ (k.outward.records 0 sent).flatten)
      (reads : k.inward.Reads [] received d []) :
      Linked ⟨.ready k.outward (S.publicKey k.responder) (cap limits .initiator) d inFlight sent received,
        k.responderAwaiting.waiting (cap limits .responder) buffer []⟩
  | flowing {d d' : Decoder S} {sent received sent' received' : List Bytes} {inFlight inFlight' : Bytes}
      (fits : ∀ p ∈ sent, p.length ≤ maxMessageSize) (fits' : ∀ p ∈ sent', p.length ≤ maxMessageSize)
      (reads : k.outward.Reads sent received' d' inFlight) (reads' : k.inward.Reads sent' received d inFlight') :
      Linked ⟨.ready k.outward (S.publicKey k.responder) (cap limits .initiator) d inFlight sent received,
        .ready k.inward (S.publicKey k.initiator) (cap limits .responder) d' inFlight' sent' received'⟩

variable {limits k} {p : Pair S}

section Steps

variable {i r s : Side S} {size : Nat} {b rest payload : Bytes}

theorem deliver_initiator (hb : r.outbound.take size = b) (hr : r.outbound.drop size = rest) (h : i.accept b = .ok s) :
    (Pair.mk i r).step (.deliver .initiator size) = .ok ⟨s, { r with outbound := rest }⟩ := by
  simp only [step, deliver, hb, hr, h]
  rfl

theorem deliver_responder (hb : i.outbound.take size = b) (hr : i.outbound.drop size = rest) (h : r.accept b = .ok s) :
    (Pair.mk i r).step (.deliver .responder size) = .ok ⟨{ i with outbound := rest }, s⟩ := by
  simp only [step, deliver, hb, hr, h]
  rfl

theorem send_initiator (h : i.send payload = .ok s) : (Pair.mk i r).step (.send .initiator payload) = .ok ⟨s, r⟩ := by
  simp only [step, h]
  rfl

theorem send_responder (h : r.send payload = .ok s) : (Pair.mk i r).step (.send .responder payload) = .ok ⟨i, s⟩ := by
  simp only [step, h]
  rfl

theorem poll_initiator (h : i.poll = .ok s) : (Pair.mk i r).step (.poll .initiator) = .ok ⟨s, r⟩ := by
  simp only [step, h]
  rfl

theorem poll_responder (h : r.poll = .ok s) : (Pair.mk i r).step (.poll .responder) = .ok ⟨i, s⟩ := by
  simp only [step, h]
  rfl

end Steps

variable (lawful : S.Lawful)
include lawful

theorem Linked.deliver_initiator (h : Linked limits k p) (size : Nat) :
    ∃ q, p.step (.deliver .initiator size) = .ok q ∧ Linked limits k q := by
  cases h with
  | @opening buffer inFlight bytes =>
      have short : ([] ++ [] : Bytes).length < actTwoSize := by decide
      have accepted := Initiator.accept_short (i := k.initiatorAwaiting) rfl (cap limits .initiator) short inFlight
      exact ⟨_, Pair.deliver_initiator List.take_nil List.drop_nil accepted, .opening bytes⟩
  | @answering buffer inFlight bytes =>
      rw [← List.append_nil k.transcript.actTwo] at bytes
      obtain ⟨short, bytes⟩ | ⟨rest, whole, empty⟩ := short_or_whole bytes size
      · rw [k.length_actTwo lawful] at short
        rw [List.append_nil] at bytes
        have accepted := Initiator.accept_short (i := k.initiatorAwaiting) rfl (cap limits .initiator) short []
        exact ⟨_, Pair.deliver_initiator rfl rfl accepted, .answering bytes⟩
      · obtain ⟨rfl, done⟩ := List.append_eq_nil_iff.1 empty
        have accepted := k.accept_actTwo (cap limits .initiator) [] lawful whole
        have all : [] ++ k.transcript.actThree k.static k.se =
            k.transcript.actThree k.static k.se ++ (k.outward.records 0 []).flatten :=
          (List.append_nil _).symm
        exact ⟨_, Pair.deliver_initiator rfl done accepted, .closing (by simp) all (.between rfl rfl)⟩
  | @closing d sent received buffer inFlight fits bytes reads =>
      refine ⟨_, Pair.deliver_initiator List.take_nil List.drop_nil (Side.accept_ready []), ?_⟩
      exact .closing fits bytes reads.feed
  | @flowing d d' sent received sent' received' inFlight inFlight' fits fits' reads reads' =>
      refine ⟨_, Pair.deliver_initiator rfl rfl (Side.accept_ready _), ?_⟩
      exact .flowing fits fits' reads (reads'.deliver size)

theorem Linked.deliver_responder (h : Linked limits k p) (size : Nat) :
    ∃ q, p.step (.deliver .responder size) = .ok q ∧ Linked limits k q := by
  cases h with
  | @opening buffer inFlight bytes =>
      rw [← List.append_nil k.transcript.actOne] at bytes
      obtain ⟨short, bytes⟩ | ⟨rest, whole, empty⟩ := short_or_whole bytes size
      · rw [k.length_actOne lawful] at short
        rw [List.append_nil] at bytes
        have accepted := Responder.accept_short (r := k.responderSide) rfl (cap limits .responder) short []
        exact ⟨_, Pair.deliver_responder rfl rfl accepted, .opening bytes⟩
      · obtain ⟨rfl, done⟩ := List.append_eq_nil_iff.1 empty
        have accepted := k.accept_actOne (cap limits .responder) [] lawful whole
        exact ⟨_, Pair.deliver_responder rfl done accepted, .answering rfl⟩
  | @answering buffer inFlight bytes =>
      have short : ([] ++ [] : Bytes).length < actThreeSize := by decide
      have accepted := Responder.accept_short (r := k.responderAwaiting) rfl (cap limits .responder) short inFlight
      exact ⟨_, Pair.deliver_responder List.take_nil List.drop_nil accepted, .answering bytes⟩
  | @closing d sent received buffer inFlight fits bytes reads =>
      obtain ⟨short, bytes⟩ | ⟨rest, whole, records⟩ := short_or_whole bytes size
      · rw [k.length_actThree lawful] at short
        have accepted := Responder.accept_short (r := k.responderAwaiting) rfl (cap limits .responder) short []
        exact ⟨_, Pair.deliver_responder rfl rfl accepted, .closing fits bytes reads⟩
      · -- what came along with the act is the start of the records, and the decoder begins with it
        have accepted := k.accept_actThree (cap limits .responder) [] lawful whole
        exact ⟨_, Pair.deliver_responder rfl rfl accepted, .flowing fits (by simp) (.between rfl records) reads⟩
  | @flowing d d' sent received sent' received' inFlight inFlight' fits fits' reads reads' =>
      refine ⟨_, Pair.deliver_responder rfl rfl (Side.accept_ready _), ?_⟩
      exact .flowing fits fits' (reads.deliver size) reads'

omit lawful

theorem forall_fits_concat {sent : List Bytes} {payload : Bytes} (fits : ∀ p ∈ sent, p.length ≤ maxMessageSize)
    (hp : payload.length ≤ maxMessageSize) : ∀ p ∈ sent ++ [payload], p.length ≤ maxMessageSize :=
  List.forall_mem_append.2 ⟨fits, List.forall_mem_singleton.2 hp⟩

theorem Linked.send (h : Linked limits k p) {source : End} {payload : Bytes}
    (allowed : p.Allows limits (.send source payload)) :
    ∃ q, p.step (.send source payload) = .ok q ∧ Linked limits k q := by
  obtain ⟨ready, size⟩ := allowed
  have small : payload.length ≤ maxMessageSize := Nat.le_trans size (Nat.min_le_right _ _)
  have fit : payload.length ≤ min (cap limits source) maxMessageSize := Nat.le_min.2 ⟨size, small⟩
  cases h with
  -- neither side is ready here, and below only the initiator is until act three is through
  | opening | answering => cases source <;> cases ready
  | @closing d sent received buffer inFlight fits bytes reads =>
      cases source with
      | initiator =>
          refine ⟨_, Pair.send_initiator (Side.send_ready fit), .closing (forall_fits_concat fits small) ?_ reads⟩
          rw [← List.append_assoc, bytes, k.outward.flatten_records_concat, List.append_assoc]
      | responder => cases ready
  | @flowing d d' sent received sent' received' inFlight inFlight' fits fits' reads reads' =>
      cases source with
      | initiator =>
          refine ⟨_, Pair.send_initiator (Side.send_ready fit), ?_⟩
          exact .flowing (forall_fits_concat fits small) fits' (reads.send payload) reads'
      | responder =>
          refine ⟨_, Pair.send_responder (Side.send_ready fit), ?_⟩
          exact .flowing fits (forall_fits_concat fits' small) reads (reads'.send payload)

theorem Linked.poll (sealing : S.Sealing) (h : Linked limits k p) {target : End}
    (ready : p.Allows limits (.poll target)) : ∃ q, p.step (.poll target) = .ok q ∧ Linked limits k q := by
  cases h with
  | opening | answering => cases target <;> cases ready
  | @closing d sent received buffer inFlight fits bytes reads =>
      cases target with
      | initiator =>
          obtain ⟨d, received, polled, reads⟩ := Side.poll_ready k.outward (S.publicKey k.responder)
            (cap limits .initiator) inFlight sent sealing (by simp) reads
          exact ⟨_, Pair.poll_initiator polled, .closing fits bytes reads⟩
      | responder => cases ready
  | @flowing d d' sent received sent' received' inFlight inFlight' fits fits' reads reads' =>
      cases target with
      | initiator =>
          obtain ⟨d, received, polled, reads'⟩ := Side.poll_ready k.outward (S.publicKey k.responder)
            (cap limits .initiator) inFlight sent sealing fits' reads'
          exact ⟨_, Pair.poll_initiator polled, .flowing fits fits' reads reads'⟩
      | responder =>
          obtain ⟨d', received', polled, reads⟩ := Side.poll_ready k.inward (S.publicKey k.initiator)
            (cap limits .responder) inFlight' sent' sealing fits reads
          exact ⟨_, Pair.poll_responder polled, .flowing fits fits' reads reads'⟩

theorem Linked.step (lawful : S.Lawful) (h : Linked limits k p) {s : Step} (allowed : p.Allows limits s) :
    ∃ q, p.step s = .ok q ∧ Linked limits k q := by
  cases s with
  | deliver target size =>
      cases target with
      | initiator => exact h.deliver_initiator lawful size
      | responder => exact h.deliver_responder lawful size
  | send source payload => exact h.send allowed
  | poll target => exact h.poll lawful.toSealing allowed

theorem run_cons {s : Step} {q : Pair S} (h : p.step s = .ok q) (steps : List Step) :
    p.run (s :: steps) = q.run steps := by
  rw [run, List.foldlM_cons, h]
  rfl

theorem Linked.run (lawful : S.Lawful) (h : Linked limits k p) {steps : List Step} (legal : p.Legal limits steps) :
    ∃ q, p.run steps = .ok q ∧ Linked limits k q := by
  induction steps generalizing p with
  | nil => exact ⟨p, rfl, h⟩
  | cons s steps ih =>
      obtain ⟨allowed, rest⟩ := legal
      obtain ⟨q, stepped, linked⟩ := h.step lawful allowed
      rw [run_cons stepped]
      exact ih linked (rest q stepped)

end Pair
end NoiseLink
