import NoiseLink.Link.Basic
import NoiseLink.Proofs.Calls
import NoiseLink.Proofs.Chunking
import NoiseLink.Proofs.NonceUse
import NoiseLink.Record.Session

namespace NoiseLink

variable {S : Suite}

namespace Session

def call (s : Session S) :
    Bytes ⊕ Opener.Call → (Except NoiseError Bytes ⊕ Except NoiseError Opener.Answer) × Session S
  | .inl payload => (.inl (s.encrypt payload).1, (s.encrypt payload).2)
  | .inr (.length header) => (.inr ((s.decryptLength header).1.map .size), (s.decryptLength header).2)
  | .inr (.body body) => (.inr ((s.decryptBody body).1.map .payload), (s.decryptBody body).2)
  | .inr (.message record) => (.inr ((s.decryptMessage record).1.map .payload), (s.decryptMessage record).2)

def halves (s : Session S) : Sealer S × Opener S := (s.sealer, s.opener)

theorem call_halves (s : Session S) (c : Bytes ⊕ Opener.Call) :
    ((s.call c).1, (s.call c).2.halves) = Calls.both Sealer.encrypt Opener.call s.halves c := by
  match c with
  | .inl payload => rfl
  | .inr (.length header) => rfl
  | .inr (.body body) => rfl
  | .inr (.message record) => rfl

end Session

def Decoder.found : Except LinkError Bytes → Except LinkError (Option Bytes)
  | .ok payload => .ok (some payload)
  | .error (.missingBytes _) => .ok none
  | .error e => .error e

def Decoder.take (d : Decoder S) : Decoder.Input → Except LinkError (Option Bytes) × Decoder S
  | .feed b => (.ok none, d.feed b)
  | .next => (found d.next.1, d.next.2)

namespace Link

/-- What is asked of an established link: to encrypt, or to take bytes and to look for a payload in them. -/
abbrev Request := Bytes ⊕ Decoder.Input

abbrev Reply := Except LinkError Bytes ⊕ Except LinkError (Option Bytes)

def request (l : Link S) : Request → Reply × Link S
  | .inl payload => (.inl (l.encrypt payload).1, (l.encrypt payload).2)
  | .inr (.feed b) => (.inr ((l.feed b).1.map fun _ => none), (l.feed b).2)
  | .inr .next => (.inr l.next.1, l.next.2)

def breaks : Request × Reply → Bool
  | (.inr .next, .inr (.error _)) => true
  | _ => false

/-- No record fails, unless it is what the last request asks for. -/
def Intact (t : List (Request × Reply)) : Prop := ∀ x ∈ t.dropLast, breaks x = false

abbrev halves (parts : Encoder S × Decoder S) : Request → Reply × (Encoder S × Decoder S) :=
  Calls.both Encoder.encode Decoder.take parts

theorem split_eq_ok_iff {l : Link S} {encoder : Encoder S} {decoder : Decoder S} :
    l.split = .ok (encoder, decoder) ↔ l.state = .established encoder decoder := by
  rw [split]
  cases l.state <;> simp

theorem request_halves {l : Link S} {parts : Encoder S × Decoder S} (here : l.split = .ok parts) (c : Request) :
    (l.request c).1 = (halves parts c).1 ∧
      (breaks (c, (l.request c).1) = false → (l.request c).2.split = .ok (halves parts c).2) := by
  obtain ⟨encoder, decoder⟩ := parts
  obtain ⟨state, buffer, remote, limit⟩ := l
  obtain rfl := split_eq_ok_iff.1 here
  match c with
  | .inl payload => exact ⟨rfl, fun _ => rfl⟩
  | .inr (.feed b) => exact ⟨rfl, fun _ => rfl⟩
  | .inr .next =>
      simp only [request, next, halves, Calls.both, Decoder.take]
      obtain ⟨payload, d, read⟩ | ⟨n, d, read⟩ | ⟨e, d, fatal, read⟩ := decoder.next_cases
      · simp only [read]
        exact ⟨rfl, fun _ => rfl⟩
      · simp only [read]
        exact ⟨rfl, fun _ => rfl⟩
      · simp only [read]
        cases e with
        | missingBytes => cases fatal
        | noise | truncatedRecord | unexpectedState | messageTooLarge =>
            exact ⟨rfl, nofun⟩

theorem answers_halves {l : Link S} {parts : Encoder S × Decoder S} (here : l.split = .ok parts) (calls : List Request)
    (intact : Intact (Calls.answers request l calls)) :
    Calls.answers request l calls = Calls.answers halves parts calls ∧
      ((∀ x ∈ Calls.answers request l calls, breaks x = false) →
        (Calls.run request l calls).split = .ok (Calls.run halves parts calls)) := by
  induction calls generalizing l parts with
  | nil => exact ⟨rfl, fun _ => here⟩
  | cons c calls ih =>
      obtain ⟨same, goes⟩ := request_halves here c
      cases calls with
      | nil =>
          simp only [Calls.answers, same]
          refine ⟨trivial, fun whole => ?_⟩
          exact goes (same ▸ whole _ List.mem_cons_self)
      | cons c' calls =>
          -- this request is not the last one, so that the link is still there for those after it
          have whole : breaks (c, (l.request c).1) = false := intact _ List.mem_cons_self
          obtain ⟨later, last⟩ := ih (goes whole) fun x mem => intact x (List.mem_cons_of_mem _ mem)
          rw [Calls.answers, later, same]
          exact ⟨rfl, fun rest => last fun x mem => rest x (List.mem_cons_of_mem _ (later ▸ mem))⟩

/-- A link that is asked for something, against its halves that are each asked for their part of it. What either half
has come to, its keys and their counts included, is what it would have come to alone. -/
structure Apart (l : Link S) (parts : Encoder S × Decoder S) (calls : List Request) : Prop where
  together : Calls.answers request l calls = Calls.answers halves parts calls
  sent : (Calls.answers request l calls).filterMap Calls.left? =
    Calls.answers Encoder.encode parts.1 (calls.filterMap Sum.getLeft?)
  received : (Calls.answers request l calls).filterMap Calls.right? =
    Calls.answers Decoder.take parts.2 (calls.filterMap Sum.getRight?)
  parted : (∀ x ∈ Calls.answers request l calls, breaks x = false) →
    (Calls.run request l calls).split =
      .ok (Calls.run Encoder.encode parts.1 (calls.filterMap Sum.getLeft?),
        Calls.run Decoder.take parts.2 (calls.filterMap Sum.getRight?))

theorem apart {l : Link S} {parts : Encoder S × Decoder S} (here : l.split = .ok parts) (calls : List Request)
    (intact : Intact (Calls.answers request l calls)) : l.Apart parts calls := by
  obtain ⟨together, last⟩ := answers_halves here calls intact
  obtain ⟨sent, received, ends⟩ := Calls.apart Encoder.encode Decoder.take parts calls
  refine ⟨together, ?_, ?_, fun whole => ?_⟩
  · rw [together, sent]
  · rw [together, received]
  · rw [last whole, ends]

theorem ready_of_receiveAct {l : Link S} {size : Nat} {act : Bytes} {role : Role S} {reply : Option Bytes}
    (ready : (l.receiveAct size act role).1 = .ok (.ready reply)) :
    ∃ encoder decoder, (l.receiveAct size act role).2.split = .ok (encoder, decoder) ∧
      encoder.limit = min l.limit maxMessageSize := by
  revert ready
  cases role with
  | initiator i =>
      rw [receiveAct]
      rcases i.receiveActTwo act with ⟨e | ⟨reply, session⟩, i'⟩
      · exact nofun
      · exact fun _ => ⟨_, _, rfl, rfl⟩
  | responder r =>
      rw [receiveAct]
      split
      · rcases r.receiveActOne act with ⟨e | reply, r'⟩
        · exact nofun
        · exact nofun
      · rcases r.receiveActThree act with ⟨e | ⟨remote, session⟩, r'⟩
        · exact nofun
        · exact fun _ => ⟨_, _, rfl, rfl⟩

theorem limit_of_ready {l : Link S} {b : Bytes} {reply : Option Bytes}
    (ready : (l.feedHandshake b).1 = .ok (.ready reply)) :
    ∃ encoder decoder, (l.feedHandshake b).2.split = .ok (encoder, decoder) ∧
      encoder.limit = min l.limit maxMessageSize := by
  revert ready
  rw [feedHandshake]
  split
  · dsimp only
    split
    · exact nofun
    · split
      · exact nofun
      · exact ready_of_receiveAct
  · exact nofun

end Link

namespace Encoder

theorem limit_encode (encoder : Encoder S) (payload : Bytes) : (encoder.encode payload).2.limit = encoder.limit := by
  rw [encode]
  split
  · rfl
  · rcases encoder.sealer.encrypt payload with ⟨_ | _, sealer⟩ <;> rfl

theorem limit_run (encoder : Encoder S) (payloads : List Bytes) :
    (Calls.run encode encoder payloads).limit = encoder.limit := by
  have kept := Calls.preserved encode payloads (fun e => e.limit = encoder.limit) (fun _ _ => True)
    (fun e same payload _ => ⟨trivial, (e.limit_encode payload).trans same⟩) rfl
  exact kept.2

end Encoder

/-- A link or a session under any requests, in any order, shows what its halves show when each gets its own part of
them. So what goes one way, and what has been asked for that way, makes no difference to the other way. -/
theorem halves_apart :
    (∀ (l : Link S) (parts : Encoder S × Decoder S) (calls : List Link.Request), l.split = .ok parts →
      Link.Intact (Calls.answers Link.request l calls) → l.Apart parts calls) ∧
    (∀ (l l' : Link S) (parts parts' : Encoder S × Decoder S) (calls calls' : List Link.Request),
      l.split = .ok parts → l'.split = .ok parts' →
      Link.Intact (Calls.answers Link.request l calls) → Link.Intact (Calls.answers Link.request l' calls') →
      (parts.1 = parts'.1 → calls.filterMap Sum.getLeft? = calls'.filterMap Sum.getLeft? →
        (Calls.answers Link.request l calls).filterMap Calls.left? =
          (Calls.answers Link.request l' calls').filterMap Calls.left?) ∧
      (parts.2 = parts'.2 → calls.filterMap Sum.getRight? = calls'.filterMap Sum.getRight? →
        (Calls.answers Link.request l calls).filterMap Calls.right? =
          (Calls.answers Link.request l' calls').filterMap Calls.right?)) ∧
    (∀ (s : Session S) (calls : List (Bytes ⊕ Opener.Call)),
      (Calls.answers Session.call s calls).filterMap Calls.left? =
        Calls.answers Sealer.encrypt s.sealer (calls.filterMap Sum.getLeft?) ∧
      (Calls.answers Session.call s calls).filterMap Calls.right? =
        Calls.answers Opener.call s.opener (calls.filterMap Sum.getRight?) ∧
      Calls.run Session.call s calls =
        ⟨Calls.run Sealer.encrypt s.sealer (calls.filterMap Sum.getLeft?),
          Calls.run Opener.call s.opener (calls.filterMap Sum.getRight?)⟩) ∧
    ∀ (l : Link S) (b : Bytes) (reply : Option Bytes), (l.feedHandshake b).1 = .ok (.ready reply) →
      ∃ parts, (l.feedHandshake b).2.split = .ok parts ∧
        ∀ payloads, (Calls.run Encoder.encode parts.1 payloads).limit = min l.limit maxMessageSize := by
  refine ⟨fun l parts calls here intact => Link.apart here calls intact, ?_, fun s calls => ?_, ?_⟩
  · intro l l' parts parts' calls calls' here here' intact intact'
    have first := Link.apart here calls intact
    have second := Link.apart here' calls' intact'
    refine ⟨fun same asked => ?_, fun same asked => ?_⟩
    · rw [first.sent, second.sent, same, asked]
    · rw [first.received, second.received, same, asked]
  · obtain ⟨shown, last⟩ := Calls.seen Session.halves Session.call_halves s calls
    obtain ⟨sent, received, ends⟩ := Calls.apart Sealer.encrypt Opener.call s.halves calls
    rw [ends] at last
    obtain ⟨sealer, opener⟩ := Prod.mk.inj last
    refine ⟨?_, ?_, ?_⟩
    · rw [shown, sent]
      rfl
    · rw [shown, received]
      rfl
    · rw [Session.mk.injEq]
      exact ⟨sealer, opener⟩
  · intro l b reply ready
    obtain ⟨encoder, decoder, parted, limit⟩ := Link.limit_of_ready ready
    exact ⟨(encoder, decoder), parted, fun payloads => (encoder.limit_run payloads).trans limit⟩

theorem halves_apart_damaged :
    let encoder : Encoder .standard := ⟨Epoch.blank.sealer 0, 2⟩
    let decoder := Epoch.blank.between 0 []
    let l : Link .standard := ⟨.established encoder decoder, [], none, 2⟩
    let calls : List Link.Request := [.inr (.feed (Decoder.damaged.take 20)), .inl [5], .inr .next, .inl [1, 2, 3],
      .inr (.feed (Decoder.damaged.drop 20)), .inr .next, .inl [6], .inr .next]
    l.split = .ok (encoder, decoder) ∧ Link.Intact (Calls.answers Link.request l calls) ∧
      (Calls.answers Link.request l calls).filterMap Calls.left? =
        Calls.answers Encoder.encode encoder [[5], [1, 2, 3], [6]] ∧
      (Calls.answers Link.request l calls).filterMap Calls.right? =
        Calls.answers Decoder.take decoder [.feed (Decoder.damaged.take 20), .next, .feed (Decoder.damaged.drop 20),
          .next, .next] ∧
      (Calls.answers Link.request l calls).map Link.breaks = [false, false, false, false, false, false, false, true] := by
  intro encoder decoder l calls
  have broken : (Calls.answers Link.request l calls).map Link.breaks =
      [false, false, false, false, false, false, false, true] := by decide +kernel
  have intact : Link.Intact (Calls.answers Link.request l calls) := by
    intro x mem
    have early : Link.breaks x ∈ ((Calls.answers Link.request l calls).map Link.breaks).dropLast := by
      rw [← List.map_dropLast]
      exact List.mem_map_of_mem mem
    rw [broken] at early
    simpa using early
  have apart := halves_apart.1 l (encoder, decoder) calls rfl intact
  exact ⟨rfl, intact, apart.sent, apart.received, broken⟩

end NoiseLink
