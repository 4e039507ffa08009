import NoiseLink.Proofs.Chunking
import NoiseLink.Proofs.FailClosed

namespace NoiseLink

variable {S : Suite}

namespace Opener

variable {o o₁ o' : Opener S} {header body p r : Bytes} {n : Nat}

theorem decryptMessage_eq_ok_iff_parts :
    o.decryptMessage r = (.ok p, o') ↔
      ∃ n o₁, o.decryptLength (r.take 18) = (.ok n, o₁) ∧ r.length = 18 + n + 16 ∧
        o₁.decryptBody (r.drop 18) = (.ok p, o') := by
  rw [decryptMessage_eq_ok_iff]
  constructor
  · rintro ⟨header, body, n, o₁, rfl, size, length, opened⟩
    have hh : header.length = 18 := (decryptLength_eq_ok_iff.1 length).1
    refine ⟨n, o₁, ?_, (Epoch.length_message_eq_iff hh body n).2 size, ?_⟩
    · rw [List.take_left' hh]
      exact length
    · rw [List.drop_left' hh]
      exact opened
  · rintro ⟨n, o₁, length, size, opened⟩
    refine ⟨r.take 18, r.drop 18, n, o₁, (List.take_append_drop 18 r).symm, ?_, length, opened⟩
    rw [List.length_drop, size, macSize]
    omega

section Record

variable (live : o.isErased = false) (size : header.length = 18) (length : o.decryptLength header = (.ok n, o₁))
include size length

theorem decryptMessage_of_even (even : body.length = n + macSize) :
    o.decryptMessage (header ++ body) = o₁.decryptBody body := by
  rw [decryptMessage_append o size, length]
  exact if_neg (not_not_intro even)

theorem decryptMessage_of_uneven (uneven : (header ++ body).length ≠ 18 + n + 16) :
    o.decryptMessage (header ++ body) =
      (.error (.invalidMessageLength (18 + n + 16) (header ++ body).length), o₁.erase) := by
  have other : body.length ≠ n + macSize := fun same => uneven ((Epoch.length_message_eq_iff size body n).2 same)
  rw [decryptMessage_append o size, length]
  exact if_pos other

include live

/-- What a decoder reads is what the record at the front of its buffer opens to. -/
theorem next_of_even (even : body.length = n + macSize) (rest : Bytes) :
    (⟨o, header ++ (body ++ rest), none⟩ : Decoder S).next =
      match o.decryptMessage (header ++ body) with
      | (.ok p, o') => (.ok p, ⟨o', rest, none⟩)
      | (.error err, o') => (.error (.noise err), ⟨o'.erase, [], none⟩) := by
  have live₁ : o₁.isErased = false := isErased_of_decryptLength length
  rw [Decoder.next_header live size, length, decryptMessage_of_even size length even]
  exact Decoder.next_body live₁ even rest

theorem next_of_short (short : body.length < n + macSize) :
    (⟨o, header ++ body, none⟩ : Decoder S).next =
      (.error (.missingBytes (n + macSize - body.length)), ⟨o₁, body, some (n + macSize)⟩) := by
  rw [Decoder.next_header live size, length]
  exact Decoder.next_of_lt_body (isErased_of_decryptLength length) short

end Record

theorem next_of_decryptMessage (live : o.isErased = false) (opened : o.decryptMessage r = (.ok p, o')) (rest : Bytes) :
    (⟨o, r ++ rest, none⟩ : Decoder S).next = (.ok p, ⟨o', rest, none⟩) := by
  obtain ⟨header, body, n, o₁, rfl, even, length, -⟩ := decryptMessage_eq_ok_iff.1 opened
  rw [List.append_assoc, next_of_even live (decryptLength_eq_ok_iff.1 length).1 length even, opened]

theorem isErased_of_decryptMessage (opened : o.decryptMessage r = (.ok p, o')) : o'.isErased = false := by
  obtain ⟨header, body, n, o₁, -, -, -, opened'⟩ := decryptMessage_eq_ok_iff.1 opened
  exact isErased_of_decrypt (decryptBody_eq_ok_iff.1 opened').2

theorem drain_nil (live : o.isErased = false) : (⟨o, [], none⟩ : Decoder S).drain = ([], none, ⟨o, [], none⟩) :=
  Decoder.drain_of_missing (Decoder.next_of_lt_header live (by decide))

theorem drain_of_decryptMessage (live : o.isErased = false) (opened : o.decryptMessage r = (.ok p, o')) :
    (⟨o, r, none⟩ : Decoder S).drain = ([p], none, ⟨o', [], none⟩) := by
  have found := next_of_decryptMessage live opened []
  rw [List.append_nil] at found
  rw [Decoder.drain_of_ok found, drain_nil (isErased_of_decryptMessage opened)]

end Opener

namespace Decoder

variable {o o' : Opener S} {r p : Bytes}

theorem decryptMessage_of_next {d : Decoder S} (found : (⟨o, r, none⟩ : Decoder S).next = (.ok p, d)) :
    ∃ record rest, r = record ++ rest ∧ o.decryptMessage record = (.ok p, d.opener) ∧ d = ⟨d.opener, rest, none⟩ := by
  cases Read.of_next found with
  | @header o o₁ header rest n _ _ live size opened body =>
      cases body with
      | @body _ o' body payload _ live' fits opened' rest =>
          refine ⟨header ++ body, rest, (List.append_assoc ..).symm, ?_, rfl⟩
          exact Opener.decryptMessage_eq_ok_iff.2 ⟨header, body, n, o₁, rfl, fits, opened, opened'⟩

theorem eq_of_next_missing {d : Decoder S} {n : Nat}
    (waits : (⟨o, r, none⟩ : Decoder S).next = (.error (.missingBytes n), d)) (unpending : d.pending = none) :
    d = ⟨o, r, none⟩ := by
  cases Read.of_next waits with
  | awaitHeader live short => rfl
  | header live size opened body =>
      cases body with
      | awaitBody => cases unpending

theorem eq_of_drain_nil {d : Decoder S} (drained : (⟨o, r, none⟩ : Decoder S).drain = ([], none, d))
    (unpending : d.pending = none) : d = ⟨o, r, none⟩ := by
  obtain ⟨payload, d', found⟩ | ⟨n, d', found⟩ | ⟨err, d', fatal, found⟩ := (⟨o, r, none⟩ : Decoder S).next_cases
  · rw [drain_of_ok found] at drained
    cases drained
  · rw [drain_of_missing found] at drained
    cases drained
    exact eq_of_next_missing found unpending
  · rw [drain_of_fatal found fatal] at drained
    cases drained

theorem decryptMessage_of_drain (drained : (⟨o, r, none⟩ : Decoder S).drain = ([p], none, ⟨o', [], none⟩)) :
    o.decryptMessage r = (.ok p, o') := by
  obtain ⟨payload, d, found⟩ | ⟨n, d, found⟩ | ⟨err, d, fatal, found⟩ := (⟨o, r, none⟩ : Decoder S).next_cases
  · rw [drain_of_ok found, Prod.mk.injEq, List.cons.injEq] at drained
    obtain ⟨⟨rfl, none_left⟩, last⟩ := drained
    obtain ⟨record, rest, rfl, opened, here⟩ := decryptMessage_of_next found
    rw [here] at none_left last
    obtain ⟨same, rfl, -⟩ := Decoder.mk.inj (eq_of_drain_nil (Prod.ext none_left last) rfl)
    rw [List.append_nil, opened, same]
  · rw [drain_of_missing found] at drained
    cases drained
  · rw [drain_of_fatal found fatal] at drained
    cases drained

/-- A settled run that asks for more has not failed, for its key is still there. -/
theorem Settles.asks_iff {d : Decoder S} {inputs : List Input} (settles : d.Settles inputs) :
    fault (d.run inputs).1 = none ↔ ∃ n, (d.run inputs).1.getLast? = some (.error (.missingBytes n)) := by
  constructor
  · intro intact
    obtain ⟨n, asks, -⟩ := settles.waits intact
    exact ⟨n, asks⟩
  · rintro ⟨n, asks⟩
    cases failed : fault (d.run inputs).1 with
    | none => rfl
    | some err =>
        have gone := ((drain_run d inputs []).2 err failed).1
        obtain ⟨first, _, rfl, -⟩ := settles
        simp only [run_append, run, List.getLast?_concat, Option.some.injEq] at asks gone
        have live := ((Read.of_next (Prod.ext asks rfl)).of_missing rfl).1
        cases live.symm.trans gone

section Settled

variable {inputs : List Input} (settles : (new o).Settles inputs) (whole : fed inputs = r)
include settles whole

theorem shown_of_drain {returned : List Bytes} {stop : Stop} {d : Decoder S}
    (drained : (⟨o, r, none⟩ : Decoder S).drain = (returned, stop, d)) :
    payloads ((new o).run inputs).1 = returned ∧ fault ((new o).run inputs).1 = stop ∧
      (stop = none → ((new o).run inputs).2 = d) := by
  have all := settles.drain_eq
  have front : (new o).feed (fed inputs) = ⟨o, r, none⟩ := by
    rw [whole]
    rfl
  rw [front, drained] at all
  obtain ⟨returns, stops, state⟩ := all
  refine ⟨returns.symm, stops.symm, ?_⟩
  rintro rfl
  exact (state stops.symm).symm

theorem failed_of_next {err : LinkError} {d : Decoder S} (failed : (⟨o, r, none⟩ : Decoder S).next = (.error err, d))
    (fatal : err.isFatal = true) :
    payloads ((new o).run inputs).1 = [] ∧ fault ((new o).run inputs).1 = some err := by
  obtain ⟨returns, stops, -⟩ := shown_of_drain settles whole (drain_of_fatal failed fatal)
  exact ⟨returns, stops⟩

theorem asked_of_next {n : Nat} {d : Decoder S}
    (waits : (⟨o, r, none⟩ : Decoder S).next = (.error (.missingBytes n), d)) :
    payloads ((new o).run inputs).1 = [] ∧ ((new o).run inputs).1.getLast? = some (.error (.missingBytes n)) ∧
      ((new o).run inputs).2 = d := by
  obtain ⟨returns, stops, state⟩ := shown_of_drain settles whole (drain_of_missing waits)
  obtain ⟨m, asked, stays⟩ := settles.waits stops
  rw [state rfl, ((Read.of_next waits).of_missing rfl).2.1] at stays
  cases stays
  exact ⟨returns, asked, state rfl⟩

theorem decryptMessage_eq_ok_iff_run (live : o.isErased = false) :
    o.decryptMessage r = (.ok p, o') ↔
      payloads ((new o).run inputs).1 = [p] ∧
      (∃ n, ((new o).run inputs).1.getLast? = some (.error (.missingBytes n))) ∧
      ((new o).run inputs).2 = ⟨o', [], none⟩ := by
  rw [← settles.asks_iff]
  constructor
  · intro opened
    obtain ⟨returns, stops, state⟩ := shown_of_drain settles whole (Opener.drain_of_decryptMessage live opened)
    exact ⟨returns, stops, state rfl⟩
  · rintro ⟨returns, stops, state⟩
    obtain ⟨returns', stops', state'⟩ := shown_of_drain settles whole rfl
    have intact := stops'.symm.trans stops
    have last := (state' intact).symm.trans state
    exact decryptMessage_of_drain (Prod.ext (returns'.symm.trans returns) (Prod.ext intact last))

theorem goes_on_of_next {rest : Bytes} (found : (⟨o, r, none⟩ : Decoder S).next = (.ok p, ⟨o', rest, none⟩))
    {more : List Input} (settles' : (new o').Settles more) (whole' : fed more = rest) :
    payloads ((new o).run inputs).1 = p :: payloads ((new o').run more).1 ∧
      fault ((new o).run inputs).1 = fault ((new o').run more).1 ∧
      (fault ((new o).run inputs).1 = none → ((new o).run inputs).2 = ((new o').run more).2) := by
  obtain ⟨returns, stops, state⟩ := shown_of_drain settles whole (drain_of_ok found)
  obtain ⟨returns', stops', state'⟩ := shown_of_drain settles' whole' rfl
  refine ⟨returns.trans (congrArg (List.cons p) returns'.symm), stops.trans stops'.symm, fun intact => ?_⟩
  have quiet := stops.symm.trans intact
  exact (state quiet).trans (state' quiet).symm

end Settled
end Decoder

/-- Whether `r` opens, as a whole, in its two parts, and when a decoder is fed it by `inputs`. -/
structure Opener.Agrees (o : Opener S) (r : Bytes) (inputs : List Decoder.Input) : Prop where
  parts : ∀ p o', o.decryptMessage r = (.ok p, o') ↔
    ∃ n o₁, o.decryptLength (r.take 18) = (.ok n, o₁) ∧ r.length = 18 + n + 16 ∧
      o₁.decryptBody (r.drop 18) = (.ok p, o')
  pieces : ∀ p o', o.decryptMessage r = (.ok p, o') ↔
    Decoder.payloads ((Decoder.new o).run inputs).1 = [p] ∧
    (∃ n, ((Decoder.new o).run inputs).1.getLast? = some (.error (.missingBytes n))) ∧
    ((Decoder.new o).run inputs).2 = ⟨o', [], none⟩
  header : 18 ≤ r.length → ∀ err, (o.decryptLength (r.take 18)).1 = .error err →
    err = .authenticationFailed .recordLength ∧ (o.decryptMessage r).1 = .error err ∧
    Decoder.payloads ((Decoder.new o).run inputs).1 = [] ∧
    Decoder.fault ((Decoder.new o).run inputs).1 = some (.noise err)
  body : ∀ n o₁, o.decryptLength (r.take 18) = (.ok n, o₁) → r.length = 18 + n + 16 →
    ∀ err, (o₁.decryptBody (r.drop 18)).1 = .error err →
      err = .authenticationFailed .recordBody ∧ (o.decryptMessage r).1 = .error err ∧
      Decoder.payloads ((Decoder.new o).run inputs).1 = [] ∧
      Decoder.fault ((Decoder.new o).run inputs).1 = some (.noise err)
  uneven : ∀ n o₁, o.decryptLength (r.take 18) = (.ok n, o₁) → r.length ≠ 18 + n + 16 →
    (o.decryptMessage r).1 = .error (.invalidMessageLength (18 + n + 16) r.length)
  short : ∀ n o₁, o.decryptLength (r.take 18) = (.ok n, o₁) → r.length < 18 + n + 16 →
    Decoder.payloads ((Decoder.new o).run inputs).1 = [] ∧
    ((Decoder.new o).run inputs).1.getLast? = some (.error (.missingBytes (18 + n + 16 - r.length))) ∧
    ((Decoder.new o).run inputs).2 = ⟨o₁, r.drop 18, some (n + 16)⟩
  long : ∀ n o₁, o.decryptLength (r.take 18) = (.ok n, o₁) → 18 + n + 16 < r.length →
    (∀ p o', o.decryptMessage (r.take (18 + n + 16)) = (.ok p, o') →
      ∀ more, (Decoder.new o').Settles more → Decoder.fed more = r.drop (18 + n + 16) →
        Decoder.payloads ((Decoder.new o).run inputs).1 = p :: Decoder.payloads ((Decoder.new o').run more).1 ∧
        Decoder.fault ((Decoder.new o).run inputs).1 = Decoder.fault ((Decoder.new o').run more).1 ∧
        (Decoder.fault ((Decoder.new o).run inputs).1 = none →
          ((Decoder.new o).run inputs).2 = ((Decoder.new o').run more).2)) ∧
    ∀ err, (o.decryptMessage (r.take (18 + n + 16))).1 = .error err →
      err = .authenticationFailed .recordBody ∧ Decoder.payloads ((Decoder.new o).run inputs).1 = [] ∧
      Decoder.fault ((Decoder.new o).run inputs).1 = some (.noise err)

namespace Epoch

variable (e : Epoch S) (t : Nat) {header body : Bytes} {err : NoiseError}

theorem error_of_decryptLength (size : header.length = 18)
    (failed : ((e.opener t).decryptLength header).1 = .error err) : err = .authenticationFailed .recordLength := by
  rw [e.decryptLength_opener t size] at failed
  cases opened : e.unsealedAt t header with
  | some text => simp [opened] at failed
  | none =>
      rw [opened] at failed
      cases failed
      rfl

theorem error_of_decryptBody (long : macSize ≤ body.length) (failed : ((e.opener t).decryptBody body).1 = .error err) :
    err = .authenticationFailed .recordBody := by
  rw [e.decryptBody_opener t long] at failed
  cases opened : e.unsealedAt t body with
  | some text => simp [opened] at failed
  | none =>
      rw [opened] at failed
      cases failed
      rfl

theorem opener_of_decryptLength {n : Nat} {o₁ : Opener S} (length : (e.opener t).decryptLength header = (.ok n, o₁)) :
    o₁ = e.opener (t + 1) := by
  rw [e.decryptLength_opener t (Opener.decryptLength_eq_ok_iff.1 length).1] at length
  cases opened : e.unsealedAt t header with
  | none => simp [opened] at length
  | some text =>
      rw [opened] at length
      cases length
      rfl

end Epoch

theorem Opener.exists_header {o o₁ : Opener S} {r : Bytes} {n : Nat}
    (length : o.decryptLength (r.take 18) = (.ok n, o₁)) :
    ∃ header tail, r = header ++ tail ∧ header.length = 18 ∧ r.take 18 = header ∧ r.drop 18 = tail :=
  ⟨_, _, (List.take_append_drop 18 r).symm, (decryptLength_eq_ok_iff.1 length).1, rfl, rfl⟩

namespace Epoch

variable (e : Epoch S) (t : Nat) {header body : Bytes} {n : Nat} {o₁ : Opener S} {err : NoiseError}

/-- A body that does not open is the end of the record, and of a decoder that has come to it. -/
theorem fails_of_decryptMessage (size : header.length = 18) (length : (e.opener t).decryptLength header = (.ok n, o₁))
    (even : body.length = n + macSize) (failed : ((e.opener t).decryptMessage (header ++ body)).1 = .error err)
    (rest : Bytes) : err = .authenticationFailed .recordBody ∧
      ∃ d, (⟨e.opener t, header ++ (body ++ rest), none⟩ : Decoder S).next = (.error (.noise err), d) := by
  have next := Opener.next_of_even (e.isErased_opener t) size length even rest
  have message := Opener.decryptMessage_of_even size length even
  obtain rfl := e.opener_of_decryptLength t length
  rw [message] at failed next
  have gone := e.error_of_decryptBody (t + 1) (even ▸ Nat.le_add_left _ _) failed
  generalize (e.opener (t + 1)).decryptBody body = result at failed next
  obtain ⟨a, o₂⟩ := result
  cases failed
  exact ⟨gone, _, next⟩

open Decoder in
theorem agrees {r : Bytes} {inputs : List Input} (settles : (new (e.opener t)).Settles inputs) (whole : fed inputs = r) :
    (e.opener t).Agrees r inputs := by
  have live := e.isErased_opener t
  refine ⟨fun p o' => Opener.decryptMessage_eq_ok_iff_parts, fun p o' => decryptMessage_eq_ok_iff_run settles whole live,
    fun long err failed => ?_, fun n o₁ length even err failed => ?_, fun n o₁ length uneven => ?_,
    fun n o₁ length short => ?_, fun n o₁ length long => ?_⟩
  · obtain ⟨header, tail, rfl, size⟩ := exists_append_of_le long
    rw [List.take_left' size] at failed
    have gone := e.error_of_decryptLength t size failed
    have next := Decoder.next_header live size tail
    have message := (e.opener t).decryptMessage_append size tail
    generalize (e.opener t).decryptLength header = result at failed next message
    obtain ⟨a, o₁⟩ := result
    cases failed
    exact ⟨gone, congrArg Prod.fst message, failed_of_next settles whole next rfl⟩
  · obtain ⟨header, body, rfl, size, taken, left⟩ := Opener.exists_header length
    rw [taken] at length
    rw [left] at failed
    have same := (length_message_eq_iff size body n).1 even
    rw [← Opener.decryptMessage_of_even size length same] at failed
    obtain ⟨gone, d, next⟩ := e.fails_of_decryptMessage t size length same failed []
    rw [List.append_nil] at next
    exact ⟨gone, failed, failed_of_next settles whole next rfl⟩
  · obtain ⟨header, body, rfl, size, taken, left⟩ := Opener.exists_header length
    rw [taken] at length
    rw [Opener.decryptMessage_of_uneven size length uneven]
  · obtain ⟨header, body, rfl, size, taken, left⟩ := Opener.exists_header length
    rw [taken] at length
    rw [List.length_append, size] at short ⊢
    have missing : n + macSize - body.length = 18 + n + 16 - (18 + body.length) := by
      rw [macSize]
      omega
    rw [left, ← missing]
    exact asked_of_next settles whole (Opener.next_of_short live size length (by rw [macSize]; omega))
  · obtain ⟨header, tail, rfl, size, taken, left⟩ := Opener.exists_header length
    rw [taken] at length
    obtain ⟨body, rest, rfl, same⟩ : ∃ body rest, tail = body ++ rest ∧ body.length = n + macSize := by
      apply exists_append_of_le
      rw [List.length_append, size] at long
      rw [macSize]
      omega
    have even := (length_message_eq_iff size body n).2 same
    rw [← List.append_assoc, List.take_left' even, List.drop_left' even]
    refine ⟨fun p o' opened more settles' whole' => ?_, fun err failed => ?_⟩
    · have next := Opener.next_of_decryptMessage live opened rest
      rw [List.append_assoc] at next
      exact goes_on_of_next settles whole next settles' whole'
    · obtain ⟨gone, d, next⟩ := e.fails_of_decryptMessage t size length same failed rest
      exact ⟨gone, failed_of_next settles whole next rfl⟩

end Epoch

/-- Whatever an opener has been through, as long as its key is there the three ways agree on every text and on the keys
after it, whatever pieces the decoder gets it in. -/
theorem three_ways_agree (key chain : Bytes) (moves : List Opener.Move) {o : Opener S}
    (reached : Calls.run Opener.move ⟨.ofKey key chain⟩ moves = o) (usable : o.isErased = false) (r : Bytes)
    (inputs : List Decoder.Input) (settles : (Decoder.new o).Settles inputs) (whole : Decoder.fed inputs = r) :
    o.Agrees r inputs := by
  have keeps := (⟨key, chain⟩ : Epoch S).keeps_run moves
  rw [reached] at keeps
  cases keeps with
  | live t => exact Epoch.agrees _ t settles whole
  | erased o => cases usable

theorem three_ways_agree_damaged :
    let o : Opener .standard := Calls.run Opener.move ⟨.ofKey (Bytes.zeros 32) (Bytes.zeros 32)⟩ []
    let inputs : List Decoder.Input :=
      [.feed (Decoder.damaged.take 20), .next, .feed (Decoder.damaged.drop 20), .next, .next]
    o.isErased = false ∧ (Decoder.new o).Settles inputs ∧ Decoder.fed inputs = Decoder.damaged ∧
      o.decryptLength (Decoder.damaged.take 18) = (.ok 3, Epoch.blank.opener 1) ∧ Decoder.damaged.length = 55 ∧
      (o.decryptMessage Decoder.damaged).1 = .error (.invalidMessageLength 37 55) ∧
      Decoder.payloads ((Decoder.new o).run inputs).1 = [[1, 2, 3]] := by
  intro o inputs
  have settles : (Decoder.new o).Settles inputs :=
    ⟨[.feed (Decoder.damaged.take 20), .next, .feed (Decoder.damaged.drop 20), .next],
      .noise (.authenticationFailed .recordLength), rfl, by decide +kernel⟩
  have whole : Decoder.fed inputs = Decoder.damaged := by decide +kernel
  have size : Decoder.damaged.length = 55 := by decide +kernel
  have length : o.decryptLength (Decoder.damaged.take 18) = (.ok 3, Epoch.blank.opener 1) := by
    have told : Epoch.blank.unsealedAt 0 (Decoder.damaged.take 18) = some [0, 3] := by decide +kernel
    refine (Epoch.blank.decryptLength_opener 0 (by decide +kernel)).trans ?_
    rw [told]
    rfl
  have agrees := three_ways_agree (Bytes.zeros 32) (Bytes.zeros 32) [] rfl rfl Decoder.damaged inputs settles whole
  have uneven := agrees.uneven _ _ length (by rw [size]; decide)
  rw [size] at uneven
  exact ⟨rfl, settles, whole, length, size, uneven, by decide +kernel⟩

end NoiseLink
