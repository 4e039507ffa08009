import NoiseLink.Proofs.Chunking
import NoiseLink.Proofs.FailClosed

namespace NoiseLink

variable {S : Suite}

def wireSize (payloads : List Bytes) : Nat := (payloads.map fun p => 18 + p.length + 16).sum

theorem wireSize_concat (payloads : List Bytes) (p : Bytes) :
    wireSize (payloads ++ [p]) = wireSize payloads + (18 + p.length + 16) := by
  rw [wireSize, List.map_append, List.sum_append, wireSize]
  rfl

namespace Decoder

def bodyUses (d : Decoder S) (size : Nat) : List (Use S) :=
  if d.buffer.length < size then [] else d.opener.uses (.body (d.buffer.take size))

def uses (d : Decoder S) : List (Use S) :=
  if d.opener.isErased then []
  else
    match d.pending with
    | some size => d.bodyUses size
    | none =>
      if d.buffer.length < headerSize then []
      else
        d.opener.uses (.length (d.buffer.take headerSize)) ++
          match d.opener.decryptLength (d.buffer.take headerSize) with
          | (.error _, _) => []
          | (.ok size, opener) =>
            bodyUses ⟨opener, d.buffer.drop headerSize, some (size + macSize)⟩ (size + macSize)

def runUses (d : Decoder S) : List Input → List (Use S)
  | [] => []
  | .feed b :: inputs => (d.feed b).runUses inputs
  | .next :: inputs => d.uses ++ d.next.2.runUses inputs

/-- A decoder wants `n` bytes. With fewer it leaves its cipher alone, and with as many it does not. -/
structure Awaits (d : Decoder S) (n : Nat) : Prop where
  pos : 0 < n
  missing : d.missing = n
  fewer : ∀ b : Bytes, b.length < n →
    (d.feed b).next = (.error (.missingBytes (n - b.length)), d.feed b) ∧ (d.feed b).uses = []
  enough : ∀ b : Bytes, n ≤ b.length → (d.feed b).uses ≠ [] ∧
    ((∃ payload d', (d.feed b).next = (.ok payload, d')) ∨
      (∃ err d', err.isFatal = true ∧ (d.feed b).next = (.error err, d')) ∨
      d.pending = none ∧ ∃ m d', (d.feed b).next = (.error (.missingBytes m), d') ∧ d'.pending.isSome = true ∧
        d'.buffer = (d.feed b).buffer.drop headerSize)

end Decoder

namespace Epoch

variable (e : Epoch S) (t n : Nat)

theorem uses_within_of_lt {buffer : Bytes} (short : buffer.length < n + macSize) : (e.within t n buffer).uses = [] := by
  have live : (e.within t n buffer).opener.isErased = false := e.isErased_opener t
  rw [Decoder.uses, live]
  exact if_pos short

theorem uses_within {body : Bytes} (size : body.length = n + macSize) (rest : Bytes) :
    (e.within t n (body ++ rest)).uses = [e.useAt t] := by
  have live : (e.within t n (body ++ rest)).opener.isErased = false := e.isErased_opener t
  have enough : ¬(body ++ rest).length < n + macSize := by
    rw [List.length_append]
    omega
  have long : ¬body.length < macSize := by omega
  rw [Decoder.uses, live]
  change Decoder.bodyUses (e.within t n (body ++ rest)) (n + macSize) = _
  rw [Decoder.bodyUses, within, if_neg enough, List.take_left' size, Opener.uses, if_neg long, use?_opener]
  rfl

theorem uses_between_of_lt {buffer : Bytes} (short : buffer.length < headerSize) : (e.between t buffer).uses = [] := by
  have live : (e.between t buffer).opener.isErased = false := e.isErased_opener t
  rw [Decoder.uses, live]
  exact if_pos short

theorem uses_between {header : Bytes} (size : header.length = headerSize) (rest : Bytes) :
    (e.between t (header ++ rest)).uses = e.useAt t ::
      match e.unsealedAt t header with
      | some text => (e.within (t + 1) (Bytes.toNatBE text) rest).uses
      | none => [] := by
  have live : (e.between t (header ++ rest)).opener.isErased = false := e.isErased_opener t
  have enough : ¬(header ++ rest).length < headerSize := by
    rw [List.length_append]
    omega
  rw [Decoder.uses, live]
  simp only [between, Bool.false_eq_true, if_false, if_neg enough, List.take_left' size, List.drop_left' size,
    e.decryptLength_opener t size, Opener.uses, size, ne_eq, not_true_eq_false, use?_opener]
  cases e.unsealedAt t header with
  | none => rfl
  | some text =>
      have live : (e.within (t + 1) (Bytes.toNatBE text) rest).opener.isErased = false := e.isErased_opener (t + 1)
      simp only [Decoder.uses, live]
      rfl

/-- What a read finds where a body is due, what it leaves and the uses that it makes. -/
inductive PollBody : (buffer : Bytes) → Except LinkError Bytes × Decoder S → List (Use S) → Prop
  | await {buffer : Bytes} (short : buffer.length < n + macSize) :
      PollBody buffer (.error (.missingBytes (n + macSize - buffer.length)), e.within t n buffer) []
  | bad {body rest : Bytes} (size : body.length = n + macSize) (forged : e.unsealedAt t body = none) :
      PollBody (body ++ rest) (.error (.noise (.authenticationFailed .recordBody)), e.failed t) [e.useAt t]
  | body {body payload rest : Bytes} (size : body.length = n + macSize) (opened : e.unsealedAt t body = some payload) :
      PollBody (body ++ rest) (.ok payload, e.between (t + 1) rest) [e.useAt t]

inductive PollHeader : (buffer : Bytes) → Except LinkError Bytes × Decoder S → List (Use S) → Prop
  | await {buffer : Bytes} (short : buffer.length < headerSize) :
      PollHeader buffer (.error (.missingBytes (headerSize - buffer.length)), e.between t buffer) []
  | bad {header rest : Bytes} (size : header.length = headerSize) (forged : e.unsealedAt t header = none) :
      PollHeader (header ++ rest) (.error (.noise (.authenticationFailed .recordLength)), e.failed t) [e.useAt t]
  | header {header text rest : Bytes} {r : Except LinkError Bytes × Decoder S} {uses : List (Use S)}
      (size : header.length = headerSize) (told : e.unsealedAt t header = some text)
      (body : PollBody e (t + 1) (Bytes.toNatBE text) rest r uses) : PollHeader (header ++ rest) r (e.useAt t :: uses)

theorem pollBody (buffer : Bytes) :
    e.PollBody t n buffer (e.within t n buffer).next (e.within t n buffer).uses := by
  by_cases short : buffer.length < n + macSize
  · rw [e.next_within_of_lt t n short, e.uses_within_of_lt t n short]
    exact .await short
  · obtain ⟨body, rest, rfl, size⟩ := exists_append_of_le (Nat.le_of_not_lt short)
    rw [e.next_within t n size, e.uses_within t n size]
    cases opened : e.unsealedAt t body with
    | none => exact .bad size opened
    | some payload => exact .body size opened

theorem pollHeader (buffer : Bytes) : e.PollHeader t buffer (e.between t buffer).next (e.between t buffer).uses := by
  by_cases short : buffer.length < headerSize
  · rw [e.next_between_of_lt t short, e.uses_between_of_lt t short]
    exact .await short
  · obtain ⟨header, rest, rfl, size⟩ := exists_append_of_le (Nat.le_of_not_lt short)
    rw [e.next_between t size, e.uses_between t size]
    cases told : e.unsealedAt t header with
    | none => exact .bad size told
    | some text => exact .header size told (e.pollBody (t + 1) (Bytes.toNatBE text) rest)

theorem reads_within {all : Bytes} (long : n + macSize ≤ all.length) : (e.within t n all).uses ≠ [] ∧
    ((∃ payload d', (e.within t n all).next = (.ok payload, d')) ∨
      ∃ err d', err.isFatal = true ∧ (e.within t n all).next = (.error err, d')) := by
  have poll := e.pollBody t n all
  generalize (e.within t n all).next = r, (e.within t n all).uses = uses at poll
  cases poll with
  | await short => exact absurd short (Nat.not_lt.2 long)
  | bad => exact ⟨List.cons_ne_nil _ _, .inr ⟨_, _, rfl, rfl⟩⟩
  | body => exact ⟨List.cons_ne_nil _ _, .inl ⟨_, _, rfl⟩⟩

theorem reads_between {all : Bytes} (long : headerSize ≤ all.length) : (e.between t all).uses ≠ [] ∧
    ((∃ payload d', (e.between t all).next = (.ok payload, d')) ∨
      (∃ err d', err.isFatal = true ∧ (e.between t all).next = (.error err, d')) ∨
      ∃ m d', (e.between t all).next = (.error (.missingBytes m), d') ∧ d'.pending.isSome = true ∧
        d'.buffer = all.drop headerSize) := by
  have poll := e.pollHeader t all
  generalize (e.between t all).next = r, (e.between t all).uses = uses at poll
  cases poll with
  | await short => exact absurd short (Nat.not_lt.2 long)
  | bad => exact ⟨List.cons_ne_nil _ _, .inr (.inl ⟨_, _, rfl, rfl⟩)⟩
  | header size told body =>
      refine ⟨List.cons_ne_nil _ _, ?_⟩
      cases body with
      | await => exact .inr (.inr ⟨_, _, rfl, rfl, (List.drop_left' size).symm⟩)
      | bad => exact .inr (.inl ⟨_, _, rfl, rfl⟩)
      | body => exact .inl ⟨_, _, rfl⟩

theorem awaits_within {buffer : Bytes} (short : buffer.length < n + macSize) :
    (e.within t n buffer).Awaits (n + macSize - buffer.length) where
  pos := by omega
  missing := rfl
  fewer b few := by
    have short' : (buffer ++ b).length < n + macSize := by
      rw [List.length_append]
      omega
    have found := e.next_within_of_lt t n short'
    rw [List.length_append, Nat.sub_add_eq] at found
    exact ⟨found, e.uses_within_of_lt t n short'⟩
  enough b many := by
    have long : n + macSize ≤ (buffer ++ b).length := by
      rw [List.length_append]
      omega
    obtain ⟨used, read⟩ := e.reads_within t n long
    exact ⟨used, read.imp_right .inl⟩

theorem awaits_between {buffer : Bytes} (short : buffer.length < headerSize) :
    (e.between t buffer).Awaits (headerSize - buffer.length) where
  pos := by omega
  missing := rfl
  fewer b few := by
    have short' : (buffer ++ b).length < headerSize := by
      rw [List.length_append]
      omega
    have found := e.next_between_of_lt t short'
    rw [List.length_append, Nat.sub_add_eq] at found
    exact ⟨found, e.uses_between_of_lt t short'⟩
  enough b many := by
    have long : headerSize ≤ (buffer ++ b).length := by
      rw [List.length_append]
      omega
    obtain ⟨used, read⟩ := e.reads_between t long
    exact ⟨used, read.imp_right fun read => read.imp_right fun asks => ⟨rfl, asks⟩⟩

/-- What a decoder is left with, whose keys go on after `t` uses: the bytes that it was fed, the payloads that it
returned and the uses that it made. -/
inductive Tallied : (total : Nat) → (payloads : List Bytes) → List (Use S) → Decoder S → Prop
  | between {total : Nat} {payloads : List Bytes} {uses : List (Use S)} {buffer : Bytes}
      (size : total = wireSize payloads + buffer.length)
      (turns : e.usesTo t ++ uses = e.usesTo (t + 2 * payloads.length)) :
      Tallied total payloads uses (e.between (t + 2 * payloads.length) buffer)
  | within {total n : Nat} {payloads : List Bytes} {uses : List (Use S)} {buffer : Bytes}
      (size : total = wireSize payloads + 18 + buffer.length) (fits : n ≤ maxMessageSize)
      (turns : e.usesTo t ++ uses = e.usesTo (t + 2 * payloads.length + 1)) :
      Tallied total payloads uses (e.within (t + 2 * payloads.length + 1) n buffer)

inductive Tallied.Next (total : Nat) (payloads : List Bytes) (uses : List (Use S)) :
    Except LinkError Bytes × Decoder S → List (Use S) → Prop
  | payload {p : Bytes} {d : Decoder S} {more : List (Use S)}
      (tallied : e.Tallied t total (payloads ++ [p]) (uses ++ more) d) : Next total payloads uses (.ok p, d) more
  | missing {n : Nat} {d : Decoder S} {more : List (Use S)} (tallied : e.Tallied t total payloads (uses ++ more) d)
      (awaits : d.Awaits n) : Next total payloads uses (.error (.missingBytes n), d) more
  | failed {err : LinkError} {d : Decoder S} {more : List (Use S)} (fatal : err.isFatal = true) :
      Next total payloads uses (.error err, d) more

variable {e t} {total : Nat} {payloads : List Bytes} {uses : List (Use S)}

theorem turns_concat {k : Nat} (turns : e.usesTo t ++ uses = e.usesTo k) :
    e.usesTo t ++ (uses ++ [e.useAt k]) = e.usesTo (k + 1) := by
  rw [← List.append_assoc, turns, usesTo_succ]

theorem Tallied.next_body (strips : S.Strips) {n : Nat} {buffer : Bytes} {r : Except LinkError Bytes × Decoder S}
    {more : List (Use S)} (size : total = wireSize payloads + 18 + buffer.length) (fits : n ≤ maxMessageSize)
    (turns : e.usesTo t ++ uses = e.usesTo (t + 2 * payloads.length + 1))
    (poll : e.PollBody (t + 2 * payloads.length + 1) n buffer r more) : Tallied.Next e t total payloads uses r more := by
  cases poll with
  | await short =>
      refine .missing (.within size fits ?_) (e.awaits_within _ n short)
      rw [List.append_nil]
      exact turns
  | bad => exact .failed rfl
  | @body body payload rest whole opened =>
      have stripped : body.length = payload.length + macSize := strips opened
      have count : t + 2 * (payloads ++ [payload]).length = t + 2 * payloads.length + 1 + 1 := by
        rw [List.length_append, List.length_singleton]
        omega
      refine .payload ?_
      rw [← count]
      refine .between ?_ ?_
      · rw [wireSize_concat, size, List.length_append, stripped, macSize]
        omega
      · rw [count]
        exact turns_concat turns

theorem Tallied.next (strips : S.Strips) {d : Decoder S} (h : e.Tallied t total payloads uses d) :
    Tallied.Next e t total payloads uses d.next d.uses := by
  cases h with
  | @within n _ _ buffer size fits turns => exact next_body strips size fits turns (e.pollBody _ n buffer)
  | @between _ _ buffer size turns =>
      have poll := e.pollHeader (t + 2 * payloads.length) buffer
      generalize (e.between (t + 2 * payloads.length) buffer).next = r,
        (e.between (t + 2 * payloads.length) buffer).uses = more at poll
      cases poll with
      | await short =>
          refine .missing (.between size ?_) (e.awaits_between _ short)
          rw [List.append_nil]
          exact turns
      | bad => exact .failed rfl
      | @header header text rest _ more whole told body =>
          have stripped : header.length = text.length + macSize := strips told
          have two : text.length = lengthSize := Nat.add_right_cancel (stripped.symm.trans whole)
          have size' : total = wireSize payloads + 18 + rest.length := by
            rw [size, List.length_append, whole]
            exact (Nat.add_assoc ..).symm
          -- the header is one use, and the body goes on from there
          have read := next_body strips size' (toNatBE_le_maxMessageSize two) (turns_concat turns) body
          cases read with
          | payload tallied =>
              rw [List.append_assoc] at tallied
              exact .payload tallied
          | missing tallied awaits =>
              rw [List.append_assoc] at tallied
              exact .missing tallied awaits
          | failed fatal => exact .failed fatal

theorem Tallied.feed {d : Decoder S} (h : e.Tallied t total payloads uses d) (b : Bytes) :
    e.Tallied t (total + b.length) payloads uses (d.feed b) := by
  cases h with
  | @between _ _ buffer size turns =>
      have size' : total + b.length = wireSize payloads + (buffer ++ b).length := by
        rw [size, List.length_append, Nat.add_assoc]
      exact .between size' turns
  | @within n _ _ buffer size fits turns =>
      have size' : total + b.length = wireSize payloads + 18 + (buffer ++ b).length := by
        rw [size, List.length_append, Nat.add_assoc]
      exact .within size' fits turns

/-- As long as no read has failed, the account is kept. -/
theorem Tallied.run (strips : S.Strips) {d : Decoder S} (h : e.Tallied t total payloads uses d)
    (inputs : List Decoder.Input) (intact : Decoder.fault (d.run inputs).1 = none) :
    e.Tallied t (total + (Decoder.fed inputs).length) (payloads ++ Decoder.payloads (d.run inputs).1)
      (uses ++ d.runUses inputs) (d.run inputs).2 := by
  induction inputs generalizing d total payloads uses with
  | nil => simpa [Decoder.run, Decoder.fed, Decoder.payloads, Decoder.runUses] using h
  | cons input inputs ih =>
      cases input with
      | feed b =>
          have rest := ih (h.feed b) intact
          rw [Nat.add_assoc, ← List.length_append] at rest
          exact rest
      | next =>
          have read := h.next strips
          rw [Decoder.run] at intact ⊢
          rw [Decoder.runUses, ← List.append_assoc]
          generalize d.next = r, d.uses = more at read intact ⊢
          cases read with
          | @payload p d' _ tallied =>
              have rest := ih tallied intact
              rw [List.append_assoc] at rest
              exact rest
          | missing tallied awaits => exact ih tallied intact
          | @failed err d' _ fatal => simp [Decoder.fault, Decoder.failure?, fatal] at intact

section Reading

variable {d : Decoder S} (h : e.Tallied t total payloads uses d)
include h

theorem Tallied.bytes : total = wireSize payloads + (if d.pending.isSome then 18 else 0) + d.buffered := by
  cases h with
  | between size => exact size
  | within size => exact size

theorem Tallied.length_uses : uses.length = 2 * payloads.length + if d.pending.isSome then 1 else 0 := by
  cases h with
  | between _ turns | within _ _ turns =>
      have same := congrArg List.length turns
      simp only [List.length_append, length_usesTo, Nat.add_assoc] at same
      exact Nat.add_left_cancel same

theorem Tallied.turns : d.opener = e.opener (t + uses.length) ∧ e.usesTo t ++ uses = e.usesTo (t + uses.length) := by
  rw [h.length_uses]
  cases h with
  | between _ turns => exact ⟨rfl, turns⟩
  | within _ _ turns => exact ⟨rfl, turns⟩

theorem Tallied.pending {size : Nat} (announced : d.pending = some size) : 16 ≤ size ∧ size ≤ 65551 := by
  cases h with
  | between => cases announced
  | within _ fits =>
      cases announced
      exact ⟨Nat.le_add_left _ _, Nat.add_le_add_right fits _⟩

theorem Tallied.awaits (strips : S.Strips) {n : Nat} (found : d.next.1 = .error (.missingBytes n)) :
    d.next.2.Awaits n := by
  have read := h.next strips
  generalize d.next = r, d.uses = more at read found ⊢
  cases read with
  | payload => cases found
  | missing _ awaits =>
      cases found
      exact awaits
  | failed fatal =>
      cases found
      cases fatal

end Reading

end Epoch

namespace Decoder

end Decoder

end NoiseLink
