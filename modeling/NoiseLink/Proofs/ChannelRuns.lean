import NoiseLink.Proofs.ChannelTurns
import NoiseLink.Proofs.Segmentation

namespace NoiseLink

variable {S : Suite}

namespace Channel

inductive Event where
  | queue (payload : Bytes)
  | closeSender
  | closeReceiver
  | turn (t : Turn)

def call (c : Channel S) : Event → Bool × Channel S
  | .queue payload => if c.outgoingClosed then (false, c) else (true, { c with outgoing := c.outgoing ++ [payload] })
  | .closeSender => (true, { c with outgoingClosed := true })
  | .closeReceiver => (true, { c with incomingClosed := true })
  | .turn t => (true, c.turn t)

def accepted : Event × Bool → Option Bytes
  | (.queue payload, true) => some payload
  | _ => none

def after (c : Channel S) (events : List Event) : Channel S := Calls.run call c events

def sent (c : Channel S) (events : List Event) : List Bytes := (Calls.answers call c events).filterMap accepted

theorem after_append (c : Channel S) (events later : List Event) :
    c.after (events ++ later) = (c.after events).after later :=
  Calls.run_append call c events later

theorem after_concat (c : Channel S) (events : List Event) (x : Event) :
    c.after (events ++ [x]) = ((c.after events).call x).2 :=
  Calls.run_concat call c events x

theorem sent_append (c : Channel S) (events later : List Event) :
    c.sent (events ++ later) = c.sent events ++ (c.after events).sent later := by
  rw [sent, Calls.answers_append, List.filterMap_append]
  rfl

theorem sent_concat (c : Channel S) (events : List Event) (x : Event) :
    c.sent (events ++ [x]) = c.sent events ++ (accepted (x, ((c.after events).call x).1)).toList := by
  rw [sent, Calls.answers_concat, List.filterMap_append]
  congr 1

theorem after_turn (c : Channel S) (events : List Event) (t : Turn) :
    c.after (events ++ [.turn t]) = (c.after events).turn t :=
  c.after_concat events (.turn t)

theorem sent_turn (c : Channel S) (events : List Event) (t : Turn) : c.sent (events ++ [.turn t]) = c.sent events := by
  rw [sent_concat]
  exact List.append_nil _

/-- What has gone through a channel: of the payloads that were queued, all but those that are left are written as
records, in their order, and of the payloads that have arrived, all but those that are pending are handed on. -/
structure Account (c₀ : Channel S) (queued : List Bytes) (c : Channel S) (left pending : List Bytes) : Prop where
  written : ∃ taken records sealer, queued = taken ++ left ∧ (∀ p ∈ taken, p.length ≤ maxMessageSize) ∧
    c₀.writer.encoder.sealer.sealAll taken = .ok (records, sealer) ∧
    c.writer.written = c₀.writer.written ++ records.flatten
  delivered : ∃ past, c₀.reader.inbound = past ++ c.reader.inbound ∧ .finish ∉ past ∧
    (c₀.reader.decoder.feed (Arrival.bytes past)).drain.1 = c.delivered ++ pending

/-- What holds of a channel while its task goes on. What it has read so far it makes the same of, whatever comes next. -/
structure Carried (e : Epoch S) (c₀ : Channel S) (queued : List Bytes) (c : Channel S) : Prop where
  written : ∃ taken, queued = taken ++ c.outgoing ∧ (∀ p ∈ taken, p.length ≤ maxMessageSize) ∧
    c.writer = ⟨⟨e.sealer taken.length, maxMessageSize⟩, c₀.writer.written ++ (e.records 0 taken).flatten⟩
  delivered : ∃ past, c₀.reader.inbound = past ++ c.reader.inbound ∧ .finish ∉ past ∧
    ∀ b, (c₀.reader.decoder.feed (Arrival.bytes past ++ b)).drain =
      (c.delivered ++ (c.reader.decoder.feed b).drain.1, (c.reader.decoder.feed b).drain.2)

namespace Carried

variable {e : Epoch S} {c₀ c : Channel S} {queued : List Bytes}

theorem start {w : Bytes} (first : c₀.writer = ⟨⟨e.sealer 0, maxMessageSize⟩, w⟩) (empty : c₀.outgoing = [])
    (idle : c₀.delivered = []) : Carried e c₀ [] c₀ where
  written := by
    refine ⟨[], empty.symm, by simp, ?_⟩
    rw [first]
    exact congrArg (Writer.mk _) (List.append_nil w).symm
  delivered := ⟨[], rfl, List.not_mem_nil, fun b => by rw [idle]; rfl⟩

theorem encode (h : Carried e c₀ queued c) {payload : Bytes} (fits : payload.length ≤ maxMessageSize) :
    ∃ record encoder, c.writer.encoder.encode payload = (.ok record, encoder) := by
  obtain ⟨taken, -, -, writer⟩ := h.written
  rw [writer]
  exact ⟨_, _, e.encode_sealer _ (Nat.le_refl _) fits⟩

theorem limit (h : Carried e c₀ queued c) : c.writer.encoder.limit = maxMessageSize := by
  obtain ⟨taken, -, -, writer⟩ := h.written
  rw [writer]

theorem queue (h : Carried e c₀ queued c) (payload : Bytes) :
    Carried e c₀ (queued ++ [payload]) { c with outgoing := c.outgoing ++ [payload] } where
  written := by
    obtain ⟨taken, whole, fits, writer⟩ := h.written
    exact ⟨taken, by rw [whole, List.append_assoc], fits, writer⟩
  delivered := h.delivered

theorem call (h : Carried e c₀ queued c) {x : Event} (other : ∀ t, x ≠ .turn t) :
    Carried e c₀ (queued ++ (accepted (x, (c.call x).1)).toList) (c.call x).2 ∧ (c.call x).2.outcome = c.outcome := by
  have same (c' : Channel S) (written : c'.writer = c.writer ∧ c'.outgoing = c.outgoing)
      (delivered : c'.reader = c.reader ∧ c'.delivered = c.delivered) : Carried e c₀ (queued ++ []) c' := by
    rw [List.append_nil]
    exact ⟨by rw [written.1, written.2]; exact h.written, by rw [delivered.1, delivered.2]; exact h.delivered⟩
  cases x with
  | turn t => exact absurd rfl (other t)
  | closeSender => exact ⟨same _ ⟨rfl, rfl⟩ ⟨rfl, rfl⟩, rfl⟩
  | closeReceiver => exact ⟨same _ ⟨rfl, rfl⟩ ⟨rfl, rfl⟩, rfl⟩
  | queue payload =>
      cases closed : c.outgoingClosed with
      | true =>
          simp only [Channel.call, closed, if_true]
          exact ⟨same _ ⟨rfl, rfl⟩ ⟨rfl, rfl⟩, trivial⟩
      | false =>
          simp only [Channel.call, closed, Bool.false_eq_true, if_false]
          exact ⟨closed ▸ h.queue payload, trivial⟩

theorem fits_of_encode (h : Carried e c₀ queued c) {payload record : Bytes} {encoder : Encoder S}
    (encoded : c.writer.encoder.encode payload = (.ok record, encoder)) : payload.length ≤ maxMessageSize := by
  by_contra large
  have refused : c.writer.encoder.encode payload = (.error (.messageTooLarge payload.length), c.writer.encoder) :=
    if_pos (h.limit ▸ Nat.lt_of_not_le large)
  cases refused.symm.trans encoded

theorem wrote (h : Carried e c₀ queued c) {payload record : Bytes} {rest : List Bytes} {encoder : Encoder S}
    (first : c.outgoing = payload :: rest) (encoded : c.writer.encoder.encode payload = (.ok record, encoder)) :
    Carried e c₀ queued { c with writer := ⟨encoder, c.writer.written ++ record⟩, outgoing := rest } where
  written := by
    obtain ⟨taken, whole, fits, writer⟩ := h.written
    have small := h.fits_of_encode encoded
    rw [writer, e.encode_sealer _ (Nat.le_refl _) small] at encoded
    cases encoded
    refine ⟨taken ++ [payload], ?_, ?_, ?_⟩
    · rw [whole, first, List.append_assoc]
      rfl
    · simpa [or_imp, forall_and] using ⟨fits, small⟩
    · rw [writer, e.flatten_records_concat, List.length_append]
      exact congrArg (Writer.mk _) (List.append_assoc _ _ _)
  delivered := h.delivered

theorem handed (h : Carried e c₀ queued c) {payload : Bytes} {d : Decoder S}
    (found : c.reader.decoder.next = (.ok payload, d)) :
    Carried e c₀ queued { c with reader := ⟨d, c.reader.inbound⟩, delivered := c.delivered ++ [payload] } where
  written := h.written
  delivered := by
    obtain ⟨past, whole, ongoing, drained⟩ := h.delivered
    refine ⟨past, whole, ongoing, fun b => ?_⟩
    rw [drained, Decoder.drain_feed_of_ok found, List.append_assoc]
    rfl

theorem read (h : Carried e c₀ queued c) {n : Nat} {d : Decoder S} {more rest : List Arrival}
    (waits : c.reader.decoder.next = (.error (.missingBytes n), d)) (arrived : c.reader.inbound = more ++ rest)
    (goes : .finish ∉ more) : Carried e c₀ queued { c with reader := ⟨d.feed (Arrival.bytes more), rest⟩ } where
  written := h.written
  delivered := by
    obtain ⟨past, whole, ongoing, drained⟩ := h.delivered
    refine ⟨past ++ more, ?_, ?_, fun b => ?_⟩
    · rw [whole, arrived, List.append_assoc]
    · rw [List.mem_append, not_or]
      exact ⟨ongoing, goes⟩
    · rw [Arrival.bytes_append, List.append_assoc, drained, Decoder.drain_feed_of_missing waits, ← Decoder.feed_feed]

theorem turned (h : Carried e c₀ queued c) (running : c.outcome = none) (t : Turn) : Turned c t (c.turn t) := by
  cases t with
  | send => exact turned_send running h.limit fun payload => h.encode
  | receive => exact turned_receive running h.limit

theorem account (h : Carried e c₀ queued c) (first : c₀.writer.encoder.sealer = e.sealer 0) :
    Account c₀ queued c c.outgoing c.reader.decoder.drain.1 where
  written := by
    obtain ⟨taken, whole, fits, writer⟩ := h.written
    refine ⟨taken, e.records 0 taken, _, whole, fits, first ▸ e.sealAll_sealer 0 fits, ?_⟩
    rw [writer]
  delivered := by
    obtain ⟨past, whole, ongoing, drained⟩ := h.delivered
    have all := drained []
    rw [List.append_nil, Decoder.feed_nil] at all
    exact ⟨past, whole, ongoing, congrArg Prod.fst all⟩

end Carried

theorem call_of_ended {c : Channel S} {o : Option StreamError} (halted : c.outcome = some o)
    (closed : c.outgoingClosed = true) (x : Event) :
    accepted (x, (c.call x).1) = none ∧ ∃ incomingClosed, (c.call x).2 = { c with incomingClosed } := by
  obtain ⟨reader, writer, outgoing, outgoingClosed, delivered, incomingClosed, outcome⟩ := c
  obtain rfl : outgoingClosed = true := closed
  obtain rfl : outcome = some o := halted
  cases x with
  | queue payload => exact ⟨rfl, incomingClosed, rfl⟩
  | closeSender => exact ⟨rfl, incomingClosed, rfl⟩
  | closeReceiver => exact ⟨rfl, true, rfl⟩
  | turn t => cases t <;> exact ⟨rfl, incomingClosed, rfl⟩

theorem after_of_ended {c : Channel S} {o : Option StreamError} (halted : c.outcome = some o)
    (closed : c.outgoingClosed = true) (later : List Event) :
    c.sent later = [] ∧ ∃ incomingClosed, c.after later = { c with incomingClosed } := by
  induction later using List.reverseRecOn with
  | nil => exact ⟨rfl, c.incomingClosed, rfl⟩
  | append_singleton later x ih =>
      obtain ⟨none_sent, incomingClosed, same⟩ := ih
      have ended : (c.after later).outcome = some o := by rw [same, halted]
      have shut : (c.after later).outgoingClosed = true := by rw [same, closed]
      obtain ⟨refused, incomingClosed', same'⟩ := call_of_ended ended shut x
      refine ⟨?_, incomingClosed', ?_⟩
      · rw [sent_concat, none_sent, refused]
        rfl
      · rw [after_concat, same', same]

theorem Carried.ended {e : Epoch S} {c₀ : Channel S} {before : List Event} (first : c₀.writer.encoder.sealer = e.sealer 0)
    (goes : (c₀.after before).outcome = none) (carried : Carried e c₀ (c₀.sent before) (c₀.after before)) {t : Turn}
    {left pending : List Bytes} {o : Option StreamError} (ends : Ends (c₀.after before) t left pending o)
    (later : List Event) :
    (c₀.after (before ++ .turn t :: later)).outcome = some o ∧
      Account c₀ (c₀.sent (before ++ .turn t :: later)) (c₀.after (before ++ .turn t :: later)) left pending := by
  have account := carried.account first
  obtain ⟨rfl, rfl⟩ := ends.remainder
  obtain ⟨decoder, outgoing, stopped⟩ := ends.turn goes carried.limit
  have halted : (c₀.after (before ++ [.turn t])).outcome = some o := by
    rw [after_turn, stopped]
    rfl
  have closed : (c₀.after (before ++ [.turn t])).outgoingClosed = true := by
    rw [after_turn, stopped]
    rfl
  obtain ⟨none_sent, incomingClosed, same⟩ := after_of_ended halted closed later
  rw [List.append_cons, sent_append, after_append, none_sent, same, List.append_nil, sent_turn, halted]
  rw [after_turn, stopped]
  exact ⟨rfl, account.written, account.delivered⟩

/-- What is known of a channel after a run of events: its task goes on, or some turn has ended it. -/
inductive Known (e : Epoch S) (c₀ : Channel S) (events : List Event) : Prop
  | running (goes : (c₀.after events).outcome = none) (carried : Carried e c₀ (c₀.sent events) (c₀.after events))
  | ended {before later : List Event} {t : Turn} {left pending : List Bytes} {o : Option StreamError}
      (split : events = before ++ .turn t :: later) (goes : (c₀.after before).outcome = none)
      (carried : Carried e c₀ (c₀.sent before) (c₀.after before)) (ends : Ends (c₀.after before) t left pending o)

namespace Known

variable {e : Epoch S} {c₀ : Channel S} {events : List Event}

theorem concat_turn (goes : (c₀.after events).outcome = none) (carried : Carried e c₀ (c₀.sent events) (c₀.after events))
    (t : Turn) : Known e c₀ (events ++ [.turn t]) := by
  have turned := carried.turned goes t
  rw [← after_turn] at turned
  generalize moved : c₀.after (events ++ [.turn t]) = c' at turned
  have running (goes : c'.outcome = none) (carried : Carried e c₀ (c₀.sent events) c') :
      Known e c₀ (events ++ [.turn t]) :=
    .running (moved ▸ goes) (moved.symm ▸ (c₀.sent_turn events t).symm ▸ carried)
  cases turned with
  | idle => exact running goes carried
  | wrote queued encoded => exact running goes (carried.wrote queued encoded)
  | delivered found => exact running goes (carried.handed found)
  | read waits arrived ongoing => exact running goes (carried.read waits arrived ongoing)
  | ended ends => exact .ended rfl goes carried ends

theorem concat (h : Known e c₀ events) (x : Event) : Known e c₀ (events ++ [x]) := by
  cases h with
  | @ended before later t left pending o split goes carried ends =>
      have split' : events ++ [x] = before ++ .turn t :: (later ++ [x]) := by
        rw [split, List.append_assoc]
        rfl
      exact .ended split' goes carried ends
  | running goes carried =>
      by_cases turns : ∃ t, x = .turn t
      · obtain ⟨t, rfl⟩ := turns
        exact concat_turn goes carried t
      · obtain ⟨carried, still⟩ := carried.call (x := x) fun t same => turns ⟨t, same⟩
        rw [← sent_concat, ← after_concat] at carried
        rw [← after_concat] at still
        exact .running (still.trans goes) carried

theorem run {w : Bytes} (first : c₀.writer = ⟨⟨e.sealer 0, maxMessageSize⟩, w⟩) (empty : c₀.outgoing = [])
    (idle : c₀.delivered = []) (goes : c₀.outcome = none) (events : List Event) : Known e c₀ events := by
  induction events using List.reverseRecOn with
  | nil => exact .running goes (.start first empty idle)
  | append_singleton events x ih => exact ih.concat x

end Known

end Channel
end NoiseLink
