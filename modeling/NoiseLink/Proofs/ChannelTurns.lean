import NoiseLink.Proofs.Calls
import NoiseLink.Proofs.StreamReads
import NoiseLink.Stream.Channel

namespace NoiseLink.Channel

variable {S : Suite}

/-- Why a turn ends the task: the payloads that are still to be written then, those that have arrived and are not handed
on, and what is reported. -/
inductive Ends (c : Channel S) : Turn → (left pending : List Bytes) → Option StreamError → Prop
  | senderClosed (empty : c.outgoing = []) (closed : c.outgoingClosed = true) :
      Ends c .send [] c.reader.decoder.drain.1 none
  | tooLarge {payload : Bytes} {rest : List Bytes} (queued : c.outgoing = payload :: rest)
      (large : maxMessageSize < payload.length) :
      Ends c .send (payload :: rest) c.reader.decoder.drain.1 (some (.link (.messageTooLarge payload.length)))
  | receiverClosed {payload : Bytes} {d : Decoder S} (found : c.reader.decoder.next = (.ok payload, d))
      (closed : c.incomingClosed = true) : Ends c .receive c.outgoing (payload :: d.drain.1) none
  | finished {n : Nat} {d : Decoder S} {rest : List Arrival} (waits : c.reader.decoder.next = (.error (.missingBytes n), d))
      (gone : c.reader.inbound = .finish :: rest) (between : d.finish = .ok ()) : Ends c .receive c.outgoing [] none
  | truncated {n : Nat} {d : Decoder S} {rest : List Arrival} {e : LinkError}
      (waits : c.reader.decoder.next = (.error (.missingBytes n), d)) (gone : c.reader.inbound = .finish :: rest)
      (inside : d.finish = .error e) : Ends c .receive c.outgoing [] (some (.link e))
  | rejected {d : Decoder S} {e : LinkError} (failed : c.reader.decoder.next = (.error e, d)) (fatal : e.isFatal = true) :
      Ends c .receive c.outgoing [] (some (.link e))

inductive Turned (c : Channel S) : Turn → Channel S → Prop
  | idle (empty : c.outgoing = []) (opened : c.outgoingClosed = false) : Turned c .send c
  | wrote {payload record : Bytes} {rest : List Bytes} {encoder : Encoder S} (queued : c.outgoing = payload :: rest)
      (encoded : c.writer.encoder.encode payload = (.ok record, encoder)) :
      Turned c .send { c with writer := ⟨encoder, c.writer.written ++ record⟩, outgoing := rest }
  | delivered {payload : Bytes} {d : Decoder S} (found : c.reader.decoder.next = (.ok payload, d))
      (opened : c.incomingClosed = false) :
      Turned c .receive { c with reader := ⟨d, c.reader.inbound⟩, delivered := c.delivered ++ [payload] }
  | read {n : Nat} {d : Decoder S} {past rest : List Arrival}
      (waits : c.reader.decoder.next = (.error (.missingBytes n), d)) (arrived : c.reader.inbound = past ++ rest)
      (ongoing : .finish ∉ past) : Turned c .receive { c with reader := ⟨d.feed (Arrival.bytes past), rest⟩ }
  | ended {t : Turn} {left pending : List Bytes} {o : Option StreamError} (ends : Ends c t left pending o)
      (decoder : Decoder S) (outgoing : List Bytes) :
      Turned c t ({ c with reader := ⟨decoder, c.reader.inbound⟩, outgoing }.stop o)

theorem Ends.remainder {c : Channel S} {t : Turn} {left pending : List Bytes} {o : Option StreamError}
    (h : Ends c t left pending o) : left = c.outgoing ∧ pending = c.reader.decoder.drain.1 := by
  cases h with
  | senderClosed empty => exact ⟨empty.symm, rfl⟩
  | tooLarge queued => exact ⟨queued.symm, rfl⟩
  | receiverClosed found =>
      rw [Decoder.drain_of_ok found]
      exact ⟨rfl, rfl⟩
  | finished waits | truncated waits =>
      rw [Decoder.drain_of_missing waits]
      exact ⟨rfl, rfl⟩
  | rejected failed fatal =>
      rw [Decoder.drain_of_fatal failed fatal]
      exact ⟨rfl, rfl⟩

section Turns

variable {c : Channel S} (running : c.outcome = none)
include running

theorem turn_send : c.turn .send = c.sendTurn := by
  rw [turn, running]
  rfl

theorem turn_receive : c.turn .receive = c.receiveTurn := by
  rw [turn, running]
  rfl

theorem Ends.turn (limit : c.writer.encoder.limit = maxMessageSize) {t : Turn} {left pending : List Bytes}
    {o : Option StreamError} (h : Ends c t left pending o) :
    ∃ decoder outgoing, c.turn t = { c with reader := ⟨decoder, c.reader.inbound⟩, outgoing }.stop o := by
  cases h with
  | senderClosed empty closed =>
      have stopped : c.sendTurn = c.stop none := by
        rw [sendTurn, empty]
        exact if_pos closed
      exact ⟨c.reader.decoder, c.outgoing, (turn_send running).trans stopped⟩
  | @tooLarge payload rest queued large =>
      have refused : c.writer.encoder.encode payload = (.error (.messageTooLarge payload.length), c.writer.encoder) :=
        if_pos (limit ▸ large)
      refine ⟨c.reader.decoder, rest, ?_⟩
      rw [turn_send running, sendTurn, queued]
      simp only [Writer.writeFrame, refused]
  | @receiverClosed payload d found closed =>
      refine ⟨d, c.outgoing, ?_⟩
      rw [turn_receive running, receiveTurn, Reader.poll_of_ok found]
      exact if_pos closed
  | @finished n d rest waits gone between =>
      refine ⟨d, c.outgoing, ?_⟩
      rw [turn_receive running, receiveTurn, Reader.poll_of_missing waits]
      simp only [gone, between]
  | @truncated n d rest e waits gone inside =>
      refine ⟨d, c.outgoing, ?_⟩
      rw [turn_receive running, receiveTurn, Reader.poll_of_missing waits]
      simp only [gone, inside]
  | @rejected d e failed fatal =>
      refine ⟨d.erase, c.outgoing, ?_⟩
      rw [turn_receive running, receiveTurn, Reader.poll_of_fatal failed fatal]

theorem Turned.of_ends (limit : c.writer.encoder.limit = maxMessageSize) {t : Turn} {left pending : List Bytes}
    {o : Option StreamError} (h : Ends c t left pending o) : Turned c t (c.turn t) := by
  obtain ⟨decoder, outgoing, stopped⟩ := h.turn running limit
  rw [stopped]
  exact .ended h decoder outgoing

theorem turned_send (limit : c.writer.encoder.limit = maxMessageSize)
    (seals : ∀ payload, payload.length ≤ maxMessageSize →
      ∃ record encoder, c.writer.encoder.encode payload = (.ok record, encoder)) : Turned c .send (c.turn .send) := by
  cases queued : c.outgoing with
  | nil =>
      cases closed : c.outgoingClosed with
      | true => exact .of_ends running limit (.senderClosed queued closed)
      | false =>
          have idle : c.sendTurn = c := by
            rw [sendTurn, queued]
            exact if_neg (Bool.eq_false_iff.1 closed)
          rw [turn_send running, idle]
          exact .idle queued closed
  | cons payload rest =>
      by_cases large : maxMessageSize < payload.length
      · exact .of_ends running limit (.tooLarge queued large)
      · obtain ⟨record, encoder, encoded⟩ := seals payload (Nat.le_of_not_lt large)
        have wrote : c.sendTurn = { c with writer := ⟨encoder, c.writer.written ++ record⟩, outgoing := rest } := by
          rw [sendTurn, queued]
          simp only [Writer.writeFrame, encoded]
        rw [turn_send running, wrote]
        exact .wrote queued encoded

theorem turned_receive (limit : c.writer.encoder.limit = maxMessageSize) : Turned c .receive (c.turn .receive) := by
  obtain ⟨payload, d, found⟩ | ⟨n, d, waits⟩ | ⟨e, d, fatal, failed⟩ := c.reader.decoder.next_cases
  · cases closed : c.incomingClosed with
    | true => exact .of_ends running limit (.receiverClosed found closed)
    | false =>
        have handed : c.receiveTurn =
            { c with reader := ⟨d, c.reader.inbound⟩, delivered := c.delivered ++ [payload] } := by
          rw [receiveTurn, Reader.poll_of_ok found]
          exact if_neg (Bool.eq_false_iff.1 closed)
        rw [turn_receive running, handed]
        exact .delivered found closed
  · have goes (past rest : List Arrival) (arrived : c.reader.inbound = past ++ rest) (ongoing : .finish ∉ past)
        (same : c.receiveTurn = { c with reader := ⟨d.feed (Arrival.bytes past), rest⟩ }) :
        Turned c .receive (c.turn .receive) := by
      rw [turn_receive running, same]
      exact .read waits arrived ongoing
    have polled := Reader.poll_of_missing waits
    cases arrived : c.reader.inbound with
    | nil =>
        refine goes [] [] arrived List.not_mem_nil ?_
        simp only [receiveTurn, polled, arrived, Arrival.bytes_nil, Decoder.feed_nil]
    | cons a rest =>
        cases a with
        | data b =>
            refine goes [.data b] rest arrived (by simp) ?_
            simp only [receiveTurn, polled, arrived, Arrival.bytes_data, Arrival.bytes_nil, List.append_nil]
        | pause =>
            refine goes [.pause] rest arrived (by simp) ?_
            simp only [receiveTurn, polled, arrived, Arrival.bytes_pause, Arrival.bytes_nil, Decoder.feed_nil]
        | finish =>
            cases between : d.finish with
            | ok => exact .of_ends running limit (.finished waits arrived between)
            | error e => exact .of_ends running limit (.truncated waits arrived between)
  · exact .of_ends running limit (.rejected failed fatal)

end Turns
end NoiseLink.Channel
