import NoiseLink.Proofs.RecordReader

namespace NoiseLink.Epoch

variable {S : Suite} (e : Epoch S)

theorem length_header (sealing : S.Sealing) (i : Nat) (p : Bytes) : (e.header i p).length = headerSize := by
  rw [header, e.length_sealedAt sealing, Bytes.length_ofNatBE]
  rfl

theorem length_body (sealing : S.Sealing) (i : Nat) (p : Bytes) : (e.body i p).length = p.length + macSize :=
  e.length_sealedAt sealing _ _

theorem unsealedAt_header (opens : S.Opens) (i : Nat) (p : Bytes) :
    e.unsealedAt (2 * i) (e.header i p) = some (Bytes.ofNatBE lengthSize p.length) :=
  e.unsealedAt_sealedAt opens _ _

theorem unsealedAt_body (opens : S.Opens) (i : Nat) (p : Bytes) : e.unsealedAt (2 * i + 1) (e.body i p) = some p :=
  e.unsealedAt_sealedAt opens _ _

theorem toNatBE_length {p : Bytes} (fits : p.length ≤ maxMessageSize) :
    Bytes.toNatBE (Bytes.ofNatBE lengthSize p.length) = p.length := by
  rw [Bytes.toNatBE_ofNatBE]
  exact Nat.mod_eq_of_lt (Nat.lt_succ_of_le fits)

theorem flatten_records_cons (i : Nat) (p : Bytes) (ps : List Bytes) :
    (e.records i (p :: ps)).flatten = e.header i p ++ (e.body i p ++ (e.records (i + 1) ps).flatten) := by
  rw [records, List.flatten_cons, List.append_assoc]

theorem flatten_records_append (i : Nat) (ps qs : List Bytes) :
    (e.records i (ps ++ qs)).flatten = (e.records i ps).flatten ++ (e.records (i + ps.length) qs).flatten := by
  induction ps generalizing i with
  | nil => rfl
  | cons p ps ih =>
      rw [List.cons_append, flatten_records_cons, flatten_records_cons, ih]
      simp only [List.append_assoc, List.length_cons, Nat.add_right_comm, Nat.add_assoc]

theorem flatten_records_concat (ps : List Bytes) (p : Bytes) :
    (e.records 0 (ps ++ [p])).flatten = (e.records 0 ps).flatten ++ (e.header ps.length p ++ e.body ps.length p) := by
  rw [flatten_records_append, Nat.zero_add, flatten_records_cons]
  simp only [records, List.flatten_nil, List.append_nil]

/-- Of the payloads sent, a decoder has returned some, with the records of the others before it in its buffer and
under way. -/
inductive Reads (sent received : List Bytes) : Decoder S → (inFlight : Bytes) → Prop
  | between {rest : List Bytes} {buffer inFlight : Bytes} (split : sent = received ++ rest)
      (bytes : buffer ++ inFlight = (e.records received.length rest).flatten) :
      Reads sent received (e.between (2 * received.length) buffer) inFlight
  | within {p : Bytes} {rest : List Bytes} {buffer inFlight : Bytes} (split : sent = received ++ p :: rest)
      (bytes : buffer ++ inFlight = e.body received.length p ++ (e.records (received.length + 1) rest).flatten) :
      Reads sent received (e.within (2 * received.length + 1) p.length buffer) inFlight

variable {e} {sent received : List Bytes} {d : Decoder S} {inFlight : Bytes}

theorem Reads.received_prefix (h : e.Reads sent received d inFlight) : received <+: sent := by
  cases h with
  | between split => exact ⟨_, split.symm⟩
  | within split => exact ⟨_, split.symm⟩

theorem Reads.feed {b rest : Bytes} (h : e.Reads sent received d (b ++ rest)) :
    e.Reads sent received (d.feed b) rest := by
  cases h with
  | between split bytes =>
      rw [← List.append_assoc] at bytes
      exact .between split bytes
  | within split bytes =>
      rw [← List.append_assoc] at bytes
      exact .within split bytes

theorem Reads.deliver (h : e.Reads sent received d inFlight) (size : Nat) :
    e.Reads sent received (d.feed (inFlight.take size)) (inFlight.drop size) := by
  rw [← List.take_append_drop size inFlight] at h
  exact h.feed

theorem Reads.send (h : e.Reads sent received d inFlight) (p : Bytes) :
    e.Reads (sent ++ [p]) received d (inFlight ++ (e.header sent.length p ++ e.body sent.length p)) := by
  have last (i : Nat) : (e.records i [p]).flatten = e.header i p ++ e.body i p := by
    rw [flatten_records_cons]
    simp [records]
  cases h with
  | @between rest buffer _ split bytes =>
      have split' : sent ++ [p] = received ++ (rest ++ [p]) := by rw [split, List.append_assoc]
      refine .between split' ?_
      rw [flatten_records_append, ← List.append_assoc, bytes, last, split, List.length_append]
  | @within q rest buffer _ split bytes =>
      have split' : sent ++ [p] = received ++ q :: (rest ++ [p]) := by
        rw [split, List.append_assoc]
        rfl
      refine .within split' ?_
      rw [flatten_records_append, ← List.append_assoc, bytes, last, split, List.length_append, List.length_cons]
      simp only [List.append_assoc, Nat.add_right_comm, Nat.add_assoc]

inductive Reads.Next (e : Epoch S) (sent received : List Bytes) (inFlight : Bytes) :
    Except LinkError Bytes × Decoder S → Prop
  | payload {p : Bytes} {d : Decoder S} (reads : e.Reads sent (received ++ [p]) d inFlight) :
      Next e sent received inFlight (.ok p, d)
  | missing {n : Nat} {d : Decoder S} (reads : e.Reads sent received d inFlight) :
      Next e sent received inFlight (.error (.missingBytes n), d)

section Honest

variable (sealing : S.Sealing)
include sealing

theorem next_header (i : Nat) {p : Bytes} (fits : p.length ≤ maxMessageSize) (buffer : Bytes) :
    (e.between (2 * i) (e.header i p ++ buffer)).next = (e.within (2 * i + 1) p.length buffer).next := by
  rw [e.next_between _ (e.length_header sealing i p), e.unsealedAt_header sealing.opens]
  simp only [toNatBE_length fits]

theorem next_body (i : Nat) (p buffer : Bytes) :
    (e.within (2 * i + 1) p.length (e.body i p ++ buffer)).next = (.ok p, e.between (2 * (i + 1)) buffer) := by
  rw [e.next_within _ _ (e.length_body sealing i p), e.unsealedAt_body sealing.opens]
  rfl

theorem Reads.next_within {p : Bytes} {rest : List Bytes} {buffer : Bytes} (split : sent = received ++ p :: rest)
    (bytes : buffer ++ inFlight = e.body received.length p ++ (e.records (received.length + 1) rest).flatten) :
    Reads.Next e sent received inFlight (e.within (2 * received.length + 1) p.length buffer).next := by
  by_cases short : buffer.length < p.length + macSize
  · rw [e.next_within_of_lt _ _ short]
    exact .missing (.within split bytes)
  · obtain ⟨body, buffer, rfl, hb⟩ := exists_append_of_le (Nat.le_of_not_lt short)
    rw [List.append_assoc] at bytes
    obtain ⟨rfl, tail⟩ := List.append_inj bytes (hb.trans (e.length_body sealing _ p).symm)
    have split' : sent = (received ++ [p]) ++ rest := by
      rw [split, List.append_assoc]
      rfl
    have size : (received ++ [p]).length = received.length + 1 := List.length_append
    rw [next_body sealing, ← size]
    rw [← size] at tail
    exact .payload (.between split' tail)

/-- An honest record never fails to open. -/
theorem Reads.next (fits : ∀ p ∈ sent, p.length ≤ maxMessageSize) (h : e.Reads sent received d inFlight) :
    Reads.Next e sent received inFlight d.next := by
  cases h with
  | @between rest buffer _ split bytes =>
      by_cases short : buffer.length < headerSize
      · rw [e.next_between_of_lt _ short]
        exact .missing (.between split bytes)
      · obtain ⟨header, buffer, rfl, hh⟩ := exists_append_of_le (Nat.le_of_not_lt short)
        rw [List.append_assoc] at bytes
        cases rest with
        | nil =>
            -- no record is left, so no header can be there
            obtain ⟨rfl, -⟩ := List.append_eq_nil_iff.1 bytes
            cases hh
        | cons p rest =>
            rw [flatten_records_cons] at bytes
            obtain ⟨rfl, tail⟩ := List.append_inj bytes (hh.trans (e.length_header sealing _ p).symm)
            have hp : p.length ≤ maxMessageSize := fits p (by simp [split])
            rw [next_header sealing _ hp]
            exact Reads.next_within sealing split tail
  | within split bytes => exact Reads.next_within sealing split bytes

theorem Reads.quiet (fits : ∀ p ∈ sent, p.length ≤ maxMessageSize) (h : e.Reads sent received d []) {err : LinkError}
    (none : d.next.1 = .error err) : received = sent ∧ d.finish = .ok () := by
  cases h with
  | @between rest buffer _ split bytes =>
      rw [List.append_nil] at bytes
      subst buffer
      cases rest with
      | nil => exact ⟨by rw [split, List.append_nil], rfl⟩
      | cons p rest =>
          have hp : p.length ≤ maxMessageSize := fits p (by simp [split])
          rw [flatten_records_cons, next_header sealing _ hp, next_body sealing] at none
          cases none
  | @within p rest buffer _ split bytes =>
      rw [List.append_nil] at bytes
      subst buffer
      rw [next_body sealing] at none
      cases none

end Honest

end NoiseLink.Epoch
