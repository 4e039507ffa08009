import NoiseLink.Proofs.Chunking
import NoiseLink.Proofs.FailClosed
import NoiseLink.Proofs.LinkSteps

namespace NoiseLink

variable {S : Suite}

theorem Opener.live_of_decryptLength {o o' : Opener S} {header : Bytes} {n : Nat}
    (h : o.decryptLength header = (.ok n, o')) : o.isErased = false := by
  obtain ⟨-, text, opened, -⟩ := decryptLength_eq_ok_iff.1 h
  cases gone : o.isErased with
  | false => rfl
  | true =>
      rw [decrypt_of_isErased gone] at opened
      cases opened

theorem Encoder.encrypt_of_encode {enc : Encoder S} {p r : Bytes} (h : (enc.encode p).1 = .ok r) :
    enc.sealer.encrypt p = (.ok r, (enc.encode p).2.sealer) := by
  rw [encode] at h ⊢
  by_cases large : p.length > enc.limit
  · rw [if_pos large] at h
    cases h
  · rw [if_neg large] at h ⊢
    generalize enc.sealer.encrypt p = sealed at h ⊢
    obtain ⟨answer, s'⟩ := sealed
    cases answer <;> cases h
    rfl

namespace Decoder

def grow (d : Decoder S) : Decoder S := d.feed (Bytes.zeros d.missing)

def writable (d : Decoder S) : Bytes := d.grow.buffer.drop d.buffer.length

theorem writable_eq (d : Decoder S) : d.writable = Bytes.zeros d.missing := by
  rw [writable, grow, feed, List.drop_left]

theorem length_writable (d : Decoder S) : d.writable.length = d.missing := by
  rw [writable_eq, Bytes.length_zeros]

/-- What is written goes over the start of that part, and the rest of the buffer stays. -/
theorem buffer_fill (d : Decoder S) (b : Bytes) :
    (d.fill b).buffer = d.grow.buffer.take d.buffer.length ++ (b.take d.missing ++ d.writable.drop b.length) := by
  rw [grow, writable_eq, feed, List.take_left, Bytes.zeros, List.drop_replicate]
  rfl

theorem fill_eq_feed (d : Decoder S) {b : Bytes} (whole : b.length = d.missing) : d.fill b = d.feed b := by
  rw [fill, ← whole, List.take_length, Nat.sub_self]
  exact congrArg d.feed (List.append_nil b)

/-- Nothing is buffered beyond the header or the body that is being read. -/
def Snug (d : Decoder S) : Prop := d.buffer.length ≤ d.pending.getD headerSize

inductive Snug.Next : Except LinkError Bytes × Decoder S → Prop
  | returned (p : Bytes) (o : Opener S) : Next (.ok p, ⟨o, [], none⟩)
  | asks {d : Decoder S} (short : d.Short) : Next (.error (.missingBytes d.missing), d)
  | failed {err : LinkError} (fatal : err.isFatal = true) {d : Decoder S} (snug : d.Snug) : Next (.error err, d)

theorem Read.snug {d d' : Decoder S} {r : Except LinkError Bytes} (h : Read d r d') (snug : d.Snug) :
    Snug.Next (r, d') := by
  induction h with
  | erased gone => exact .failed rfl snug
  | badHeader | badBody => exact .failed rfl (Nat.zero_le _)
  | awaitHeader live short => exact .asks (d := ⟨_, _, none⟩) short
  | awaitBody live short => exact .asks (d := ⟨_, _, some _⟩) short
  | @header o o' header rest n r d' live size opened body ih =>
      apply ih
      rw [Snug, List.length_append, size] at snug
      have none : rest.length = 0 := Nat.le_zero.1 (Nat.le_of_add_le_add_left snug)
      rw [Snug, none]
      exact Nat.zero_le _
  | @body o o' body payload n live size opened rest =>
      rw [Snug, List.length_append, size] at snug
      obtain rfl : rest = [] := List.eq_nil_of_length_eq_zero (Nat.le_zero.1 (Nat.le_of_add_le_add_left snug))
      exact .returned payload o'

section Filling

variable {d : Decoder S} (short : d.Short)
include short

theorem Short.missing_pos : 0 < d.missing := Nat.sub_pos_of_lt short

theorem Short.snug_feed {b : Bytes} (size : b.length = d.missing) : (d.feed b).Snug := by
  rw [Short] at short
  rw [missing] at size
  change (d.buffer ++ b).length ≤ d.pending.getD headerSize
  rw [List.length_append]
  omega

end Filling

theorem run_concat_next (d : Decoder S) (inputs : List Input) :
    d.run (inputs ++ [.next]) =
      ((d.run inputs).1 ++ [(d.run inputs).2.next.1], (d.run inputs).2.next.2) := by
  rw [run_append]
  rfl

theorem run_concat_feed (d : Decoder S) (inputs : List Input) (b : Bytes) :
    d.run (inputs ++ [.feed b]) = ((d.run inputs).1, (d.run inputs).2.feed b) := by
  rw [run_append, run, run, List.append_nil]

theorem payloads_concat (answers : List (Except LinkError Bytes)) (r : Except LinkError Bytes) :
    payloads (answers ++ [r]) = payloads answers ++ r.toOption.toList := by
  rw [payloads, List.filterMap_append]
  cases r <;> rfl

theorem fault_concat {answers : List (Except LinkError Bytes)} (intact : fault answers = none)
    (r : Except LinkError Bytes) : fault (answers ++ [r]) = failure? r := by
  rw [fault] at intact ⊢
  rw [List.findSome?_append, intact, List.findSome?_singleton]
  rfl

theorem fed_append (first second : List Input) : fed (first ++ second) = fed first ++ fed second := by
  induction first with
  | nil => rfl
  | cons input first ih =>
      cases input with
      | feed b =>
          rw [List.cons_append, fed, fed, ih, List.append_assoc]
      | next => exact ih

end Decoder

inductive ExactRead where
  | asked (n size : Nat)
  | returned (payload : Bytes)
  deriving DecidableEq

structure ExactReader (S : Suite) where
  decoder : Decoder S
  wire : Bytes
  reads : List ExactRead
  failure : Option LinkError

namespace ExactReader

def start (decoder : Decoder S) (wire : Bytes) : ExactReader S := ⟨decoder, wire, [], none⟩

/-- A read. Where bytes are missing, the whole region for them is filled from the wire. -/
def round (l : ExactReader S) : ExactReader S :=
  if l.failure.isSome then l
  else
    match l.decoder.next with
    | (.ok payload, d) => { l with decoder := d, reads := l.reads ++ [.returned payload] }
    | (.error (.missingBytes n), d) =>
      let size := d.writable.length
      if l.wire.length < size then { l with decoder := d }
      else { l with decoder := d.fill (l.wire.take size), wire := l.wire.drop size, reads := l.reads ++ [.asked n size] }
    | (.error e, d) => { l with decoder := d, failure := some e }

def returned (reads : List ExactRead) : List Bytes :=
  reads.filterMap fun
    | .returned payload => some payload
    | .asked _ _ => none

section Rounds

variable {d d' : Decoder S} {n : Nat}

theorem round_of_ok {payload : Bytes} (found : d.next = (.ok payload, d')) (wire : Bytes) (reads : List ExactRead) :
    round ⟨d, wire, reads, none⟩ = ⟨d', wire, reads ++ [.returned payload], none⟩ := by
  simp only [round, found]
  rfl

theorem round_of_missing (found : d.next = (.error (.missingBytes n), d')) {b : Bytes} (size : b.length = d'.missing)
    (rest : Bytes) (reads : List ExactRead) :
    round ⟨d, b ++ rest, reads, none⟩ = ⟨d'.feed b, rest, reads ++ [.asked n b.length], none⟩ := by
  have enough : ¬(b ++ rest).length < b.length := by
    rw [List.length_append]
    omega
  simp only [round, found, d'.length_writable, ← size, if_neg enough, List.take_left, List.drop_left,
    d'.fill_eq_feed size]
  rfl

theorem round_of_lt (found : d.next = (.error (.missingBytes n), d')) {wire : Bytes} (short : wire.length < d'.missing)
    (reads : List ExactRead) :
    round ⟨d, wire, reads, none⟩ = ⟨d', wire, reads, none⟩ := by
  simp only [round, found, d'.length_writable, if_pos short]
  rfl

theorem round_of_fatal {err : LinkError} (found : d.next = (.error err, d')) (fatal : err.isFatal = true) (wire : Bytes)
    (reads : List ExactRead) :
    round ⟨d, wire, reads, none⟩ = ⟨d', wire, reads, some err⟩ := by
  simp only [round, found]
  cases err with
  | missingBytes => cases fatal
  | _ => rfl

end Rounds

def record (payload : Bytes) : List ExactRead :=
  [.asked 18 18, .asked (payload.length + 16) (payload.length + 16), .returned payload]

section Honest

variable (sealing : S.Sealing)
include sealing

theorem rounds_record {s s' : Sealer S} {o : Opener S} (same : s.cipher = o.cipher) {p r : Bytes}
    (sealed : s.encrypt p = (.ok r, s')) (rest : Bytes) (reads : List ExactRead) :
    round^[3] ⟨⟨o, [], none⟩, r ++ rest, reads, none⟩ = ⟨⟨⟨s'.cipher⟩, [], none⟩, rest, reads ++ record p, none⟩ := by
  obtain ⟨header, body, o₁, rfl, hh, hb, length, opened⟩ := opens_of_encrypt same sealing sealed
  have live := Opener.live_of_decryptLength length
  have live₁ := Opener.isErased_of_decryptLength length
  have asksHeader : (⟨o, [], none⟩ : Decoder S).next = (.error (.missingBytes headerSize), ⟨o, [], none⟩) :=
    Decoder.next_of_lt_header live (by decide)
  have asksBody : (⟨o, header, none⟩ : Decoder S).next =
      (.error (.missingBytes (p.length + macSize)), ⟨o₁, [], some (p.length + macSize)⟩) := by
    have found := Decoder.next_header live hh []
    rw [List.append_nil, length] at found
    exact found.trans (Decoder.next_of_lt_body live₁ (Nat.succ_pos _))
  have returns : (⟨o₁, body, some (p.length + macSize)⟩ : Decoder S).next = (.ok p, ⟨⟨s'.cipher⟩, [], none⟩) := by
    have found := Decoder.next_body live₁ hb []
    rw [List.append_nil, opened] at found
    exact found
  have first := round_of_missing asksHeader hh (body ++ rest) reads
  have second := round_of_missing asksBody hb rest (reads ++ [.asked headerSize header.length])
  have third := round_of_ok returns rest
    (reads ++ [.asked headerSize header.length] ++ [.asked (p.length + macSize) body.length])
  rw [List.append_assoc, Function.iterate_succ_apply, first, Function.iterate_succ_apply]
  refine (congrArg round second).trans (third.trans ?_)
  rw [hh, hb, List.append_assoc, List.append_assoc]
  rfl

theorem rounds_records {enc : Encoder S} {o : Opener S} (same : enc.sealer.cipher = o.cipher) {ps records : List Bytes}
    (encoded : (Calls.answers Encoder.encode enc ps).map Prod.snd = records.map .ok) (beyond : Bytes)
    (reads : List ExactRead) {k : Nat} (le : k ≤ ps.length) :
    ∃ o', round^[3 * k] ⟨⟨o, [], none⟩, records.flatten ++ beyond, reads, none⟩ =
      ⟨⟨o', [], none⟩, (records.drop k).flatten ++ beyond, reads ++ (ps.take k).flatMap record, none⟩ := by
  induction ps generalizing enc o records reads k with
  | nil =>
      obtain rfl := Nat.le_zero.1 le
      exact ⟨o, by simp⟩
  | cons p ps ih =>
      cases k with
      | zero => exact ⟨o, by simp⟩
      | succ k =>
          cases records with
          | nil => cases encoded
          | cons r records =>
              obtain ⟨first, later⟩ := List.cons.inj encoded
              have sealed := Encoder.encrypt_of_encode first
              obtain ⟨o', rest⟩ := ih (o := ⟨(enc.encode p).2.sealer.cipher⟩) rfl later (reads ++ record p)
                (Nat.le_of_succ_le_succ le)
              refine ⟨o', ?_⟩
              rw [Nat.mul_succ, Function.iterate_add_apply, List.flatten_cons, List.append_assoc,
                rounds_record sealing same sealed, rest, List.append_assoc]
              rfl

end Honest

/-- What a run of the loop has come to, after the records of `k` payloads. -/
structure Through (ps records : List Bytes) (beyond : Bytes) (k : Nat) (l : ExactReader S) : Prop where
  reads : l.reads = (ps.take k).flatMap record
  wire : l.wire = (records.drop k).flatten ++ beyond
  going : l.failure = none
  buffered : l.decoder.buffered = 0
  missing : l.decoder.missing = 18

/-- The reads of `d` could have been made of any schedule that feeds it the bytes taken from `wire`. -/
def AsFed (d : Decoder S) (wire : Bytes) (l : ExactReader S) : Prop :=
  ∃ inputs, Decoder.fed inputs ++ l.wire = wire ∧ (d.run inputs).2 = l.decoder ∧
    Decoder.payloads (d.run inputs).1 = returned l.reads ∧ Decoder.fault (d.run inputs).1 = l.failure

structure Keeps (d : Decoder S) (wire : Bytes) (l : ExactReader S) : Prop where
  snug : l.decoder.Snug
  asks : ∀ n size, .asked n size ∈ l.reads → 0 < n ∧ size = n
  clear : ∀ p, l.reads.getLast? = some (.returned p) → l.decoder.buffered = 0
  asFed : AsFed d wire l

section Any

variable {d decoder d' : Decoder S} {wire rest : Bytes} {reads : List ExactRead}

theorem AsFed.read {r : Except LinkError Bytes} (h : AsFed d wire ⟨decoder, rest, reads, none⟩)
    (found : decoder.next = (r, d')) (more : List ExactRead) (shown : returned more = r.toOption.toList) :
    AsFed d wire ⟨d', rest, reads ++ more, Decoder.failure? r⟩ := by
  obtain ⟨inputs, whole, rfl, payloads, intact⟩ := h
  refine ⟨inputs ++ [.next], ?_, ?_, ?_, ?_⟩
  · rw [Decoder.fed_append, Decoder.fed, Decoder.fed, List.append_nil]
    exact whole
  · rw [Decoder.run_concat_next, found]
  · rw [Decoder.run_concat_next, found, Decoder.payloads_concat, payloads, returned, returned, List.filterMap_append]
    exact congrArg _ shown.symm
  · rw [Decoder.run_concat_next, found]
    exact Decoder.fault_concat intact r

theorem AsFed.fill {b : Bytes} (h : AsFed d wire ⟨decoder, b ++ rest, reads, none⟩) (n size : Nat) :
    AsFed d wire ⟨decoder.feed b, rest, reads ++ [.asked n size], none⟩ := by
  obtain ⟨inputs, whole, rfl, payloads, intact⟩ := h
  refine ⟨inputs ++ [.feed b], ?_, ?_, ?_, ?_⟩
  · rw [Decoder.fed_append, List.append_assoc, Decoder.fed, Decoder.fed, List.append_nil]
    exact whole
  · rw [Decoder.run_concat_feed]
  · rw [Decoder.run_concat_feed, payloads, returned, returned, List.filterMap_append]
    exact (List.append_nil _).symm
  · rw [Decoder.run_concat_feed]
    exact intact

theorem Keeps.round {l : ExactReader S} (h : Keeps d wire l) : Keeps d wire l.round := by
  obtain ⟨decoder, rest, reads, failure⟩ := l
  cases failure with
  | some err => exact h
  | none =>
      obtain ⟨snug, asks, clear, asFed⟩ := h
      obtain ⟨r, d', found⟩ : ∃ r d', decoder.next = (r, d') := ⟨_, _, rfl⟩
      have read := Decoder.Read.of_next found
      have emptied {p : Bytes} (last : reads.getLast? = some (.returned p)) : d'.buffered = 0 :=
        Nat.le_zero.1 (clear p last ▸ read.length_le)
      have next := read.snug snug
      generalize same : (r, d') = x at next
      cases next with
      | returned p o =>
          cases same
          rw [round_of_ok found]
          refine ⟨Nat.zero_le _, fun n size mem => ?_, fun _ _ => rfl, asFed.read found _ rfl⟩
          simpa using asks n size (by simpa using mem)
      | asks short =>
          cases same
          have asked := asFed.read found [] rfl
          rw [List.append_nil] at asked
          by_cases few : rest.length < d'.missing
          · rw [round_of_lt found few]
            exact ⟨Nat.le_of_lt short, asks, fun p => emptied, asked⟩
          · obtain ⟨b, rest, rfl, size⟩ := exists_append_of_le (Nat.le_of_not_lt few)
            rw [round_of_missing found size]
            refine ⟨short.snug_feed size, fun n size' mem => ?_, fun p last => ?_, asked.fill _ _⟩
            · rcases List.mem_append.1 mem with before | now
              · exact asks n size' before
              · cases List.mem_singleton.1 now
                exact ⟨short.missing_pos, size⟩
            · rw [List.getLast?_concat] at last
              cases last
      | @failed err fatal _ snug' =>
          cases same
          rw [round_of_fatal found fatal]
          have ended := asFed.read found [] rfl
          rw [List.append_nil, Decoder.failure?, fatal] at ended
          exact ⟨snug', asks, fun p => emptied, ended⟩

theorem keeps_rounds {wire : Bytes} (snug : d.Snug) (k : Nat) : Keeps d wire (round^[k] (start d wire)) := by
  induction k with
  | zero => exact ⟨snug, nofun, nofun, [], rfl, rfl, rfl, rfl⟩
  | succ k ih =>
      rw [Function.iterate_succ_apply']
      exact ih.round

end Any

/-- The loop takes a record in two pieces, whose sizes are what it was asked for, and has taken no more than the records
of the payloads that it returned. On any wire it holds nothing beyond the piece it reads, and goes on as if the same
bytes had been fed. -/
theorem exact_reads (sealing : S.Sealing) :
    (∀ (enc : Encoder S) (d : Decoder S) (ps records : List Bytes) (beyond : Bytes),
      enc.sealer.cipher = d.opener.cipher → d.buffer = [] → d.pending = none →
      (Calls.answers Encoder.encode enc ps).map Prod.snd = records.map .ok →
      ∀ k ≤ ps.length, Through ps records beyond k (round^[3 * k] (start d (records.flatten ++ beyond)))) ∧
    (∀ (d : Decoder S) (wire : Bytes), d.Snug → ∀ k, Keeps d wire (round^[k] (start d wire))) ∧
    ∀ (d : Decoder S) (b : Bytes), b.length = d.writable.length →
      (d.fill b).buffer = d.grow.buffer.take d.buffer.length ++ b ∧ d.fill b = d.feed b := by
  refine ⟨fun enc d ps records beyond same empty between encoded k le => ?_, fun d wire => keeps_rounds,
    fun d b whole => ?_⟩
  · obtain ⟨o, buffer, pending⟩ := d
    cases empty
    cases between
    obtain ⟨o', after⟩ := rounds_records sealing same encoded beyond [] le
    rw [start, after]
    exact ⟨rfl, rfl, rfl, rfl, rfl⟩
  · have written := d.buffer_fill b
    have size : b.length = d.missing := whole.trans d.length_writable
    rw [whole, List.drop_length, List.append_nil, List.take_of_length_le (Nat.le_of_eq size)] at written
    exact ⟨written, d.fill_eq_feed size⟩

theorem exact_reads_rekey :
    let enc : Encoder .standard := .new (Epoch.blank.sealer 499)
    let d := Epoch.blank.between 998 []
    let ps : List Bytes := [[1, 2, 3], []]
    let records := Epoch.blank.records 499 ps
    Suite.standard.Sealing ∧ enc.sealer.cipher = d.opener.cipher ∧ d.Snug ∧
      (Calls.answers Encoder.encode enc ps).map Prod.snd = records.map .ok ∧
      (round^[6] (start d (records.flatten ++ [7]))).reads =
        [.asked 18 18, .asked 19 19, .returned [1, 2, 3], .asked 18 18, .asked 16 16, .returned []] ∧
      (round^[6] (start d (records.flatten ++ [7]))).wire = [7] ∧
      Keeps d [7] (round^[5] (start d [7])) ∧ d.fill (Bytes.zeros 18) = d.feed (Bytes.zeros 18) := by
  intro enc d ps records
  have same : enc.sealer.cipher = d.opener.cipher := rfl
  have snug : d.Snug := Nat.zero_le _
  have encoded : (Calls.answers Encoder.encode enc ps).map Prod.snd = records.map .ok := by
    have three : ([1, 2, 3] : Bytes).length ≤ maxMessageSize := by decide
    have empty : ([] : Bytes).length ≤ maxMessageSize := by decide
    have first := Epoch.blank.encode_sealer 499 (Nat.le_refl _) three
    have second := Epoch.blank.encode_sealer (499 + 1) (Nat.le_refl _) empty
    simp only [enc, Encoder.new, ps, Calls.answers, first, second]
    rfl
  obtain ⟨honest, any, filled⟩ := exact_reads Suite.standard_sealing
  obtain ⟨reads, wire, -⟩ := honest enc d ps records [7] same rfl rfl encoded 2 (Nat.le_refl _)
  exact ⟨Suite.standard_sealing, same, snug, encoded, reads, wire, any d [7] snug 5, (filled d _ rfl).2⟩

end ExactReader
end NoiseLink
