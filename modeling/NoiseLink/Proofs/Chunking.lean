import NoiseLink.Proofs.DecoderReads
import NoiseLink.Proofs.RecordIntegrity

namespace NoiseLink.Decoder

variable {S : Suite}

section Draining

variable {d d' : Decoder S} {payload : Bytes} {n : Nat} {err : LinkError}

theorem takeAll_of_ok (h : d.next = (.ok payload, d')) (fuel : Nat) :
    d.takeAll (fuel + 1) = (payload :: (d'.takeAll fuel).1, (d'.takeAll fuel).2) := by
  rw [takeAll, h]

theorem takeAll_of_missing (h : d.next = (.error (.missingBytes n), d')) (fuel : Nat) :
    d.takeAll (fuel + 1) = ([], none, d') := by
  rw [takeAll, h]

theorem takeAll_of_fatal (h : d.next = (.error err, d')) (fatal : err.isFatal = true) (fuel : Nat) :
    d.takeAll (fuel + 1) = ([], some err, d') := by
  rw [takeAll, h]
  cases err with
  | missingBytes n => cases fatal
  | _ => rfl

theorem takeAll_of_lt {fuel fuel' : Nat} (h : d.buffer.length < fuel) (h' : d.buffer.length < fuel') :
    d.takeAll fuel = d.takeAll fuel' := by
  induction fuel generalizing d fuel' with
  | zero => exact absurd h (Nat.not_lt_zero _)
  | succ fuel ih =>
      obtain ⟨fuel', rfl⟩ := Nat.exists_eq_succ_of_ne_zero (Nat.ne_of_gt (Nat.zero_lt_of_lt h'))
      obtain ⟨payload, d', found⟩ | ⟨n, d', found⟩ | ⟨err, d', fatal, found⟩ := d.next_cases
      · have shorter := (Read.of_next found).length_lt rfl
        have rest : d'.takeAll fuel = d'.takeAll fuel' := ih (by omega) (by omega)
        rw [takeAll_of_ok found, takeAll_of_ok found, rest]
      · rw [takeAll_of_missing found, takeAll_of_missing found]
      · rw [takeAll_of_fatal found fatal, takeAll_of_fatal found fatal]

theorem drain_of_ok (h : d.next = (.ok payload, d')) : d.drain = (payload :: d'.drain.1, d'.drain.2) := by
  have rest : d'.takeAll d.buffer.length = d'.drain :=
    takeAll_of_lt ((Read.of_next h).length_lt rfl) (Nat.lt_succ_self _)
  rw [drain, takeAll_of_ok h, rest]

theorem drain_of_missing (h : d.next = (.error (.missingBytes n), d')) : d.drain = ([], none, d') :=
  takeAll_of_missing h _

theorem drain_of_fatal (h : d.next = (.error err, d')) (fatal : err.isFatal = true) : d.drain = ([], some err, d') :=
  takeAll_of_fatal h fatal _

theorem drain_congr (h : d.next = d'.next) : d.drain = d'.drain := by
  obtain ⟨payload, d₁, found⟩ | ⟨n, d₁, found⟩ | ⟨err, d₁, fatal, found⟩ := d'.next_cases
  · rw [drain_of_ok (h.trans found), drain_of_ok found]
  · rw [drain_of_missing (h.trans found), drain_of_missing found]
  · rw [drain_of_fatal (h.trans found) fatal, drain_of_fatal found fatal]

theorem drain_feed_of_ok (h : d.next = (.ok payload, d')) (b : Bytes) :
    (d.feed b).drain = (payload :: (d'.feed b).drain.1, (d'.feed b).drain.2) :=
  drain_of_ok ((Read.of_next h).feed_of_ok rfl b).next_eq

theorem drain_feed_of_missing (h : d.next = (.error (.missingBytes n), d')) (b : Bytes) :
    (d.feed b).drain = (d'.feed b).drain :=
  drain_congr (((Read.of_next h).of_missing rfl).2.2 b)

theorem drain_feed_of_fatal (h : d.next = (.error err, d')) (fatal : err.isFatal = true) (b : Bytes) :
    (d.feed b).drain = ([], some err, if d.opener.isErased = true then d.feed b else d') :=
  drain_of_fatal (((Read.of_next h).of_fatal rfl fatal).2 b) fatal

end Draining

theorem feed_feed (d : Decoder S) (b c : Bytes) : (d.feed b).feed c = d.feed (b ++ c) := by
  simp only [feed, List.append_assoc]

theorem feed_nil (d : Decoder S) : d.feed [] = d := by
  rw [feed, List.append_nil]

theorem drain_cases {d : Decoder S} (live : d.opener.isErased = false) :
    (∃ payloads d', d.drain = (payloads, none, d') ∧ d'.opener.isErased = false ∧
        ∀ b, (d.feed b).drain = (payloads ++ (d'.feed b).drain.1, (d'.feed b).drain.2)) ∨
      ∃ payloads err d', d.drain = (payloads, some err, d') ∧ ∀ b, (d.feed b).drain = (payloads, some err, d') := by
  induction size : d.buffer.length using Nat.strong_induction_on generalizing d with
  | _ size ih =>
      obtain ⟨payload, d₁, found⟩ | ⟨n, d', found⟩ | ⟨err, d', fatal, found⟩ := d.next_cases
      · have read := Read.of_next found
        obtain ⟨payloads, d', drained, live', more⟩ | ⟨payloads, err, d', drained, more⟩ :=
          ih _ (size ▸ read.length_lt rfl) (read.isErased_of_ok rfl) rfl
        · refine .inl ⟨payload :: payloads, d', by rw [drain_of_ok found, drained], live', fun b => ?_⟩
          rw [drain_feed_of_ok found, more]
          rfl
        · refine .inr ⟨payload :: payloads, err, d', by rw [drain_of_ok found, drained], fun b => ?_⟩
          rw [drain_feed_of_ok found, more]
      · have live' := ((Read.of_next found).of_missing rfl).1
        exact .inl ⟨[], d', drain_of_missing found, live', drain_feed_of_missing found⟩
      · refine .inr ⟨[], err, d', drain_of_fatal found fatal, fun b => ?_⟩
        rw [drain_feed_of_fatal found fatal, live]
        rfl

def receiveEach (d : Decoder S) : List Bytes → List Bytes × Stop × Decoder S
  | [] => ([], none, d)
  | piece :: pieces =>
    match (d.feed piece).drain with
    | (payloads, none, d') => (payloads ++ (d'.receiveEach pieces).1, (d'.receiveEach pieces).2)
    | failed => failed

theorem receiveEach_cons {d : Decoder S} (live : d.opener.isErased = false) (piece : Bytes) (pieces : List Bytes) :
    d.receiveEach (piece :: pieces) = (d.feed (piece :: pieces).flatten).drain := by
  induction pieces generalizing d piece with
  | nil =>
      obtain ⟨payloads, d', drained, -⟩ | ⟨payloads, err, d', drained, -⟩ := drain_cases (d := d.feed piece) live
      · simp [receiveEach, drained]
      · simp [receiveEach, drained]
  | cons next pieces ih =>
      rw [List.flatten_cons, ← feed_feed]
      obtain ⟨payloads, d', drained, live', more⟩ | ⟨payloads, err, d', drained, more⟩ :=
        drain_cases (d := d.feed piece) live
      · rw [more, ← ih live' next, receiveEach, drained]
      · rw [more, receiveEach, drained]

/-- Feeding all of the pieces at once is as good as feeding one after another. -/
theorem receive_eq_receiveEach (d : Decoder S) (pieces : List Bytes) : d.receive pieces = d.receiveEach pieces := by
  cases pieces with
  | nil => rfl
  | cons piece pieces =>
      rw [receive, if_neg (List.cons_ne_nil _ _)]
      cases gone : d.opener.isErased with
      | false => exact (receiveEach_cons gone piece pieces).symm
      | true =>
          have failed : (d.feed piece).drain = ([], some (.noise .keyErased), d.feed piece) :=
            drain_of_fatal (next_of_isErased (d := d.feed piece) gone) rfl
          simp [receiveEach, failed]

def fed : List Input → Bytes
  | [] => []
  | .feed b :: inputs => b ++ fed inputs
  | .next :: inputs => fed inputs

def run (d : Decoder S) : List Input → List (Except LinkError Bytes) × Decoder S
  | [] => ([], d)
  | .feed b :: inputs => (d.feed b).run inputs
  | .next :: inputs => (d.next.1 :: (d.next.2.run inputs).1, (d.next.2.run inputs).2)

def payloads (answers : List (Except LinkError Bytes)) : List Bytes := answers.filterMap Except.toOption

def failure? : Except LinkError Bytes → Option LinkError
  | .ok _ => none
  | .error err => if err.isFatal then some err else none

def fault (answers : List (Except LinkError Bytes)) : Option LinkError := answers.findSome? failure?

/-- A schedule that ends with a read that finds no payload. -/
def Settles (d : Decoder S) (inputs : List Input) : Prop :=
  ∃ first err, inputs = first ++ [.next] ∧ (d.run first).2.next.1 = .error err

variable {d : Decoder S}

theorem run_append (d : Decoder S) (first second : List Input) :
    d.run (first ++ second) =
      ((d.run first).1 ++ ((d.run first).2.run second).1, ((d.run first).2.run second).2) := by
  induction first generalizing d with
  | nil => rfl
  | cons input first ih =>
      cases input with
      | feed b => exact ih (d.feed b)
      | next => simp only [List.cons_append, run, ih]

theorem run_of_isErased (h : d.opener.isErased = true) (inputs : List Input) :
    (∀ r ∈ (d.run inputs).1, r = .error (.noise .keyErased)) ∧ (d.run inputs).2.opener.isErased = true := by
  induction inputs generalizing d with
  | nil => exact ⟨by simp [run], h⟩
  | cons input inputs ih =>
      cases input with
      | feed b => exact ih (d := d.feed b) h
      | next =>
          obtain ⟨answers, gone⟩ := ih h
          rw [run, next_of_isErased h]
          exact ⟨List.forall_mem_cons.2 ⟨rfl, answers⟩, gone⟩

theorem payloads_of_isErased (h : d.opener.isErased = true) (inputs : List Input) : payloads (d.run inputs).1 = [] := by
  refine List.filterMap_eq_nil_iff.2 fun r mem => ?_
  rw [(run_of_isErased h inputs).1 r mem]
  rfl

theorem run_of_fatal {d' : Decoder S} {err : LinkError} (h : d.next = (.error err, d')) (fatal : err.isFatal = true)
    (inputs : List Input) :
    payloads (d.run (.next :: inputs)).1 = [] ∧ fault (d.run (.next :: inputs)).1 = some err ∧
      (d.run (.next :: inputs)).2.opener.isErased = true := by
  have gone := ((Read.of_next h).of_fatal rfl fatal).1
  simp only [run, h]
  refine ⟨payloads_of_isErased gone inputs, ?_, (run_of_isErased gone inputs).2⟩
  simp [fault, failure?, fatal]

/-- What a run has shown is how reading all of the bytes begins, and its decoder is where that goes on unless it
failed. -/
theorem drain_run (d : Decoder S) (inputs : List Input) (b : Bytes) :
    (fault (d.run inputs).1 = none →
      (d.feed (fed inputs ++ b)).drain =
        (payloads (d.run inputs).1 ++ ((d.run inputs).2.feed b).drain.1, ((d.run inputs).2.feed b).drain.2)) ∧
    ∀ err, fault (d.run inputs).1 = some err →
      (d.run inputs).2.opener.isErased = true ∧
      ∃ d', (d.feed (fed inputs ++ b)).drain = (payloads (d.run inputs).1, some err, d') := by
  induction inputs generalizing d with
  | nil => exact ⟨fun _ => rfl, nofun⟩
  | cons input inputs ih =>
      cases input with
      | feed c =>
          have rest := ih (d.feed c)
          rw [feed_feed, ← List.append_assoc] at rest
          exact rest
      | next =>
          -- this read finds what it would also have found with all of the bytes behind it
          obtain ⟨payload, d', found⟩ | ⟨n, d', found⟩ | ⟨err, d', fatal, found⟩ := d.next_cases
          · obtain ⟨intact, failed⟩ := ih d'
            simp only [run, found, fed, drain_feed_of_ok found]
            refine ⟨fun h => ?_, fun err h => ?_⟩
            · rw [intact h]
              rfl
            · obtain ⟨gone, d'', drained⟩ := failed err h
              exact ⟨gone, d'', by rw [drained]; rfl⟩
          · simp only [run, found, fed, drain_feed_of_missing found]
            exact ih d'
          · obtain ⟨returned, failed, gone⟩ := run_of_fatal found fatal inputs
            rw [returned, failed]
            refine ⟨nofun, ?_⟩
            rintro _ ⟨⟩
            exact ⟨gone, _, drain_feed_of_fatal found fatal _⟩

theorem Settles.waits {inputs : List Input} (h : d.Settles inputs) (intact : fault (d.run inputs).1 = none) :
    ∃ n, (d.run inputs).1.getLast? = some (.error (.missingBytes n)) ∧
      (d.run inputs).2.next = (.error (.missingBytes n), (d.run inputs).2) := by
  obtain ⟨first, err, rfl, last⟩ := h
  rw [run_append] at intact ⊢
  obtain ⟨payload, d', found⟩ | ⟨n, d', found⟩ | ⟨err', d', fatal, found⟩ := (d.run first).2.next_cases
  · rw [found] at last
    cases last
  · have stays := ((Read.of_next found).of_missing rfl).2.1
    simp only [run, found]
    exact ⟨n, List.getLast?_concat, stays⟩
  · simp [run, found, fault, failure?, fatal] at intact

/-- A settled run has shown all that there is to see if the same bytes are fed at once and read to the end. -/
theorem Settles.drain_eq {inputs : List Input} (h : d.Settles inputs) :
    (d.feed (fed inputs)).drain.1 = payloads (d.run inputs).1 ∧
    (d.feed (fed inputs)).drain.2.1 = fault (d.run inputs).1 ∧
    (fault (d.run inputs).1 = none → (d.feed (fed inputs)).drain.2.2 = (d.run inputs).2) := by
  obtain ⟨intact, failed⟩ := drain_run d inputs []
  rw [List.append_nil] at intact failed
  cases shown : fault (d.run inputs).1 with
  | some err =>
      obtain ⟨-, d', drained⟩ := failed err shown
      rw [drained]
      exact ⟨rfl, rfl, nofun⟩
  | none =>
      obtain ⟨n, -, stays⟩ := h.waits shown
      rw [intact shown, feed_nil, drain_of_missing stays, List.append_nil]
      exact ⟨rfl, rfl, fun _ => rfl⟩

theorem Settles.append {first second : List Input} (h : (d.run first).2.Settles second) :
    d.Settles (first ++ second) := by
  obtain ⟨middle, err, rfl, last⟩ := h
  refine ⟨first ++ middle, err, (List.append_assoc ..).symm, ?_⟩
  rw [run_append]
  exact last

/-- Enough reads settle any decoder, for a payload takes bytes of what is buffered. -/
theorem exists_settles (d : Decoder S) : ∃ n, d.Settles (List.replicate n .next) := by
  induction size : d.buffer.length using Nat.strong_induction_on generalizing d with
  | _ size ih =>
      cases found : d.next with
      | mk r d' =>
          cases r with
          | error err => exact ⟨1, [], err, rfl, congrArg Prod.fst found⟩
          | ok payload =>
              have shorter := (Read.of_next found).length_lt rfl
              obtain ⟨n, settles⟩ := ih _ (size ▸ shorter) d' rfl
              have taken : (d.run [.next]).2.Settles (List.replicate n .next) := by
                rw [run, run, found]
                exact settles
              exact ⟨n + 1, taken.append⟩

/-- Whatever bytes come, schedules that feed the same ones and are settled have returned the same payloads, and either
all wait for the same number of bytes in the same state or all have met the same failure first. A decoder that has
failed answers every later read alike, and any schedule is settled by enough reads. -/
theorem schedules_agree (d : Decoder S) :
    (∀ xs ys, d.Settles xs → d.Settles ys → fed xs = fed ys →
      payloads (d.run xs).1 = payloads (d.run ys).1 ∧
      ((∃ n, fault (d.run xs).1 = none ∧ (d.run xs).1.getLast? = some (.error (.missingBytes n)) ∧
          fault (d.run ys).1 = none ∧ (d.run ys).1.getLast? = some (.error (.missingBytes n)) ∧
          (d.run xs).2 = (d.run ys).2) ∨
        ∃ err, fault (d.run xs).1 = some err ∧ fault (d.run ys).1 = some err)) ∧
    (∀ xs ys err, fault (d.run xs).1 = some err → ∀ r ∈ ((d.run xs).2.run ys).1, r = .error (.noise .keyErased)) ∧
    ∀ xs, ∃ n, d.Settles (xs ++ List.replicate n .next) := by
  refine ⟨fun xs ys hx hy same => ?_, fun xs ys err failed => ?_, fun xs => ?_⟩
  · obtain ⟨payloads_x, fault_x, state_x⟩ := hx.drain_eq
    obtain ⟨payloads_y, fault_y, state_y⟩ := hy.drain_eq
    rw [same] at payloads_x fault_x state_x
    have faults : fault (d.run xs).1 = fault (d.run ys).1 := fault_x.symm.trans fault_y
    refine ⟨payloads_x.symm.trans payloads_y, ?_⟩
    cases shown : fault (d.run ys).1 with
    | some err => exact .inr ⟨err, faults.trans shown, rfl⟩
    | none =>
        have states : (d.run xs).2 = (d.run ys).2 := (state_x (faults.trans shown)).symm.trans (state_y shown)
        obtain ⟨n, last_x, stays_x⟩ := hx.waits (faults.trans shown)
        obtain ⟨m, last_y, stays_y⟩ := hy.waits shown
        rw [states, stays_y] at stays_x
        cases stays_x
        exact .inl ⟨n, faults.trans shown, last_x, rfl, last_y, states⟩
  · exact (run_of_isErased ((drain_run d xs []).2 err failed).1 ys).1
  · obtain ⟨n, settles⟩ := exists_settles (d.run xs).2
    exact ⟨n, settles.append⟩

def damaged : Bytes := (Epoch.blank.records 0 [[1, 2, 3]]).flatten ++ Bytes.zeros headerSize

theorem schedules_agree_damaged :
    let d := Epoch.blank.between 0 []
    let whole : List Input := [.feed damaged, .next, .next]
    let cut : List Input := [.feed (damaged.take 20), .next, .feed [], .feed (damaged.drop 20), .next, .next]
    d.Settles whole ∧ d.Settles cut ∧ fed whole = fed cut ∧
    payloads (d.run whole).1 = payloads (d.run cut).1 ∧
    fault (d.run whole).1 = some (.noise (.authenticationFailed .recordLength)) ∧
    fault (d.run cut).1 = some (.noise (.authenticationFailed .recordLength)) ∧
    ∀ r ∈ ((d.run whole).2.run [.feed damaged, .next]).1, r = .error (.noise .keyErased) := by
  intro d whole cut
  have settled_whole : d.Settles whole :=
    ⟨[.feed damaged, .next], .noise (.authenticationFailed .recordLength), rfl, by decide +kernel⟩
  have settled_cut : d.Settles cut :=
    ⟨[.feed (damaged.take 20), .next, .feed [], .feed (damaged.drop 20), .next],
      .noise (.authenticationFailed .recordLength), rfl, by decide +kernel⟩
  have same : fed whole = fed cut := by decide +kernel
  have failed : fault (d.run whole).1 = some (.noise (.authenticationFailed .recordLength)) := by decide +kernel
  obtain ⟨agree, dead, -⟩ := schedules_agree d
  obtain ⟨returned, waiting | failure⟩ := agree whole cut settled_whole settled_cut same
  · obtain ⟨n, intact, -⟩ := waiting
    cases failed.symm.trans intact
  · obtain ⟨err, failed_whole, failed_cut⟩ := failure
    obtain rfl := Option.some.inj (failed.symm.trans failed_whole)
    exact ⟨settled_whole, settled_cut, same, returned, failed, failed_cut, dead whole _ _ failed⟩

end NoiseLink.Decoder
