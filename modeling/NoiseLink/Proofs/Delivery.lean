import NoiseLink.Proofs.LinkedPair

namespace NoiseLink
namespace Pair

variable {S : Suite} {limits : End → Nat} {k : Secrets S} {p : Pair S}

def Quiet (p : Pair S) : Prop :=
  ∀ x, (p.side x).link.isReady = true ∧ (p.side x).outbound = [] ∧ (p.side x).link.next.1 = .ok none

theorem Linked.received_prefix (h : Linked limits k p) :
    p.responder.received <+: p.initiator.sent ∧ p.initiator.received <+: p.responder.sent := by
  cases h with
  | opening | answering => exact ⟨List.nil_prefix, List.nil_prefix⟩
  | closing _ _ reads => exact ⟨List.nil_prefix, reads.received_prefix⟩
  | flowing _ _ reads reads' => exact ⟨reads.received_prefix, reads'.received_prefix⟩

/-- What two sides have come to that are done with each other. -/
structure Settled (k : Secrets S) (p : Pair S) : Prop where
  outward : p.responder.received = p.initiator.sent
  inward : p.initiator.received = p.responder.sent
  initiatorRemote : p.initiator.link.remote = some (S.publicKey k.responder)
  responderRemote : p.responder.link.remote = some (S.publicKey k.initiator)
  initiatorFinish : p.initiator.link.finish = .ok ()
  responderFinish : p.responder.link.finish = .ok ()

theorem Linked.settled (sealing : S.Sealing) (h : Linked limits k p) (quiet : p.Quiet) : Settled k p := by
  obtain ⟨ready, empty, none⟩ := quiet .initiator
  obtain ⟨ready', empty', none'⟩ := quiet .responder
  cases h with
  | opening | answering => cases ready
  | closing => cases ready'
  | @flowing d d' sent received sent' received' inFlight inFlight' fits fits' reads reads' =>
      obtain rfl : inFlight = [] := empty
      obtain rfl : inFlight' = [] := empty'
      obtain ⟨n, missing⟩ := Link.next_ready_eq_none none
      obtain ⟨n', missing'⟩ := Link.next_ready_eq_none none'
      obtain ⟨all, finish⟩ := reads.quiet sealing fits missing'
      obtain ⟨all', finish'⟩ := reads'.quiet sealing fits' missing
      exact ⟨all, all', rfl, rfl, finish', finish⟩

variable (limits k)

def joined : Pair S :=
  ⟨k.initiatorAwaiting.waiting (cap limits .initiator) [] k.transcript.actOne,
    k.responderSide.waiting (cap limits .responder) [] []⟩

theorem start_eq :
    start k.initiatorSide k.responderSide (limits .initiator) (limits .responder) = .ok (joined limits k) := by
  simp only [start, k.start_initiator, k.start_responder]
  rfl

def greeting (payload : Bytes) : List Step :=
  [.deliver .responder actOneSize, .deliver .initiator actTwoSize, .send .initiator payload,
    .deliver .responder (actThreeSize + (headerSize + (payload.length + macSize))), .poll .responder]

theorem legal_cons {limits : End → Nat} {s : Step} {q : Pair S} {steps : List Step} (h : p.step s = .ok q)
    (allowed : p.Allows limits s) (rest : q.Legal limits steps) : p.Legal limits (s :: steps) := by
  refine ⟨allowed, fun q' h' => ?_⟩
  rw [h] at h'
  cases h'
  exact rest

section Greeting

variable (lawful : S.Lawful)

def answered : Pair S :=
  ⟨k.initiatorAwaiting.waiting (cap limits .initiator) [] [],
    k.responderAwaiting.waiting (cap limits .responder) [] k.transcript.actTwo⟩

def closed (inFlight : Bytes) (sent : List Bytes) : Pair S :=
  ⟨.ready k.outward (S.publicKey k.responder) (cap limits .initiator) (k.inward.between 0 []) inFlight sent [],
    k.responderAwaiting.waiting (cap limits .responder) [] []⟩

def met (d : Decoder S) (sent received : List Bytes) : Pair S :=
  ⟨.ready k.outward (S.publicKey k.responder) (cap limits .initiator) (k.inward.between 0 []) [] sent [],
    .ready k.inward (S.publicKey k.initiator) (cap limits .responder) d [] [] received⟩

include lawful

theorem step_actOne : (joined limits k).step (.deliver .responder actOneSize) = .ok (answered limits k) := by
  have size : k.transcript.actOne.length ≤ actOneSize := Nat.le_of_eq (k.length_actOne lawful)
  exact deliver_responder (List.take_of_length_le size) (List.drop_of_length_le size)
    (k.accept_actOne _ [] lawful (List.append_nil _).symm)

theorem step_actTwo :
    (answered limits k).step (.deliver .initiator actTwoSize) =
      .ok (closed limits k (k.transcript.actThree k.static k.se) []) := by
  have size : k.transcript.actTwo.length ≤ actTwoSize := Nat.le_of_eq (k.length_actTwo lawful)
  exact deliver_initiator (List.take_of_length_le size) (List.drop_of_length_le size)
    (k.accept_actTwo _ [] lawful (List.append_nil _).symm)

theorem step_actThree {size : Nat} {b : Bytes} (hb : (k.transcript.actThree k.static k.se ++ b).length ≤ size)
    (sent : List Bytes) :
    (closed limits k (k.transcript.actThree k.static k.se ++ b) sent).step (.deliver .responder size) =
      .ok (met limits k (k.outward.between 0 b) sent []) :=
  deliver_responder (List.take_of_length_le hb) (List.drop_of_length_le hb)
    (k.accept_actThree _ [] lawful (List.nil_append _))

theorem greeting_quiet {payload : Bytes} (fits : payload.length ≤ cap limits .initiator) :
    (joined limits k).Legal limits (greeting payload) ∧
      ∃ q, (joined limits k).run (greeting payload) = .ok q ∧ q.Quiet ∧ q.initiator.sent = [payload] := by
  let record := k.outward.header 0 payload ++ k.outward.body 0 payload
  have small : payload.length ≤ maxMessageSize := Nat.le_trans fits (Nat.min_le_right _ _)
  have size : (k.transcript.actThree k.static k.se ++ record).length ≤
      actThreeSize + (headerSize + (payload.length + macSize)) := by
    rw [List.length_append, List.length_append, k.outward.length_header lawful.toSealing,
      k.outward.length_body lawful.toSealing, k.length_actThree lawful]
  have sends : (closed limits k (k.transcript.actThree k.static k.se) []).step (.send .initiator payload) =
      .ok (closed limits k (k.transcript.actThree k.static k.se ++ record) [payload]) :=
    send_initiator (Side.send_ready (Nat.le_min.2 ⟨fits, small⟩))
  have read : (k.outward.between 0 record).next = (.ok payload, k.outward.between 2 []) := by
    have header := Epoch.next_header (e := k.outward) lawful.toSealing 0 small (k.outward.body 0 payload)
    have body := Epoch.next_body (e := k.outward) lawful.toSealing 0 payload []
    rw [List.append_nil] at body
    exact header.trans body
  have polls : (met limits k (k.outward.between 0 record) [payload] []).step (.poll .responder) =
      .ok (met limits k (k.outward.between 2 []) [payload] [payload]) := by
    refine poll_responder ?_
    simp only [Side.poll, Side.ready, Link.next, Link.ready, read]
    rfl
  have one := step_actOne limits k lawful
  have two := step_actTwo limits k lawful
  have three := step_actThree limits k lawful size [payload]
  refine ⟨?_, met limits k (k.outward.between 2 []) [payload] [payload], ?_, ?_, rfl⟩
  · exact legal_cons one trivial (legal_cons two trivial (legal_cons sends ⟨rfl, fits⟩ (legal_cons three trivial
      (legal_cons polls rfl trivial))))
  · rw [greeting, run_cons one, run_cons two, run_cons sends, run_cons three, run_cons polls]
    rfl
  · intro x
    cases x with
    | initiator => exact ⟨rfl, rfl, Link.next_ready_between _ _ _ _ _⟩
    | responder => exact ⟨rfl, rfl, Link.next_ready_between _ _ _ _ _⟩

end Greeting

/-- For all secrets and limits, and for all steps that are allowed in their turn, no step fails. What a side has
received is always the start of what the other has sent, and all of it once nothing more is to come. -/
theorem run_of_legal (lawful : S.Lawful) :
    ∃ p, start k.initiatorSide k.responderSide (limits .initiator) (limits .responder) = .ok p ∧
      ∀ steps, p.Legal limits steps → ∃ q, p.run steps = .ok q ∧
        q.responder.received <+: q.initiator.sent ∧
        q.initiator.received <+: q.responder.sent ∧
        (q.Quiet → Settled k q) := by
  have linked : Linked limits k (joined limits k) := .opening rfl
  refine ⟨_, start_eq limits k, fun steps legal => ?_⟩
  obtain ⟨q, run, linked⟩ := linked.run lawful legal
  obtain ⟨outward, inward⟩ := linked.received_prefix
  exact ⟨q, run, outward, inward, linked.settled lawful.toSealing⟩

theorem run_of_legal_greeting :
    Suite.standard.Lawful ∧
    ∃ p q, start Secrets.vectors.initiatorSide Secrets.vectors.responderSide 100 200 = .ok p ∧
      p.Legal (fun x => if x = .initiator then 100 else 200) (greeting [1, 2, 3]) ∧
      p.run (greeting [1, 2, 3]) = .ok q ∧
      q.Quiet ∧ q.initiator.sent = [[1, 2, 3]] ∧ q.responder.received = [[1, 2, 3]] ∧ Settled Secrets.vectors q := by
  let limits (x : End) : Nat := if x = .initiator then 100 else 200
  have fits : ([1, 2, 3] : Bytes).length ≤ cap limits .initiator := by decide
  obtain ⟨p, started, runs⟩ := run_of_legal limits Secrets.vectors Suite.standard_lawful
  obtain rfl := Except.ok.inj ((start_eq limits Secrets.vectors).symm.trans started)
  obtain ⟨legal, q, run, quiet, sent⟩ := greeting_quiet limits Secrets.vectors Suite.standard_lawful fits
  obtain ⟨q', run', -, -, settles⟩ := runs _ legal
  obtain rfl := Except.ok.inj (run.symm.trans run')
  have settled := settles quiet
  exact ⟨Suite.standard_lawful, _, q, started, legal, run, quiet, sent, settled.outward.trans sent, settled⟩

end Pair
end NoiseLink
