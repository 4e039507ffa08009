import NoiseLink.Proofs.ChannelRuns

namespace NoiseLink

variable {S : Suite}

namespace Stream

end Stream

namespace Channel

def Closes (c : Channel S) : Turn → Prop
  | .send => c.outgoing = [] ∧ c.outgoingClosed = true
  | .receive =>
    (c.incomingClosed = true ∧ ∃ payload d, c.reader.decoder.next = (.ok payload, d)) ∨
      ∃ n d rest, c.reader.decoder.next = (.error (.missingBytes n), d) ∧ c.reader.inbound = .finish :: rest ∧
        d.finish = .ok ()

theorem closes_iff {c : Channel S} {t : Turn} : c.Closes t ↔ ∃ left pending, Ends c t left pending none := by
  constructor
  · intro closes
    cases t with
    | send => exact ⟨_, _, .senderClosed closes.1 closes.2⟩
    | receive =>
        obtain ⟨closed, payload, d, found⟩ | ⟨n, d, rest, waits, gone, between⟩ := closes
        · exact ⟨_, _, .receiverClosed found closed⟩
        · exact ⟨_, _, .finished waits gone between⟩
  · rintro ⟨left, pending, ends⟩
    cases ends with
    | senderClosed empty closed => exact ⟨empty, closed⟩
    | receiverClosed found closed => exact .inl ⟨closed, _, _, found⟩
    | finished waits gone between => exact .inr ⟨_, _, _, waits, gone, between⟩

def Busy (c : Channel S) : Prop := c.outgoing ≠ [] ∨ c.outgoingClosed = true

def Undisturbed (c₀ : Channel S) (events later : List Event) : Prop :=
  ∀ before rest, later = before ++ .turn .receive :: rest → (c₀.after (events ++ before)).outcome = none →
    (c₀.after (events ++ before)).Busy → ∀ left pending o, ¬Ends (c₀.after (events ++ before)) .receive left pending o

def sends (events : List Event) : Nat := events.countP fun
  | .turn .send => true
  | _ => false

/-- A channel whose task ends with one of its next `n` turns to send, if nothing ends it before. -/
inductive Doomed (c : Channel S) (n : Nat) : Prop
  | closed (closed : c.outgoingClosed = true) (short : c.outgoing.length < n)
  | large {i : Nat} {payload : Bytes} (queued : c.outgoing[i]? = some payload) (large : maxMessageSize < payload.length)
      (soon : i < n)

namespace Doomed

variable {c : Channel S} {n : Nat}

theorem busy (h : c.Doomed n) : c.Busy := by
  cases h with
  | closed closed => exact .inr closed
  | large queued =>
      refine .inl fun empty => ?_
      rw [empty] at queued
      cases queued

theorem pos (h : c.Doomed n) : 0 < n := by
  cases h with
  | closed _ short => exact Nat.zero_lt_of_lt short
  | large _ _ soon => exact Nat.zero_lt_of_lt soon

theorem queue (h : c.Doomed n) (payload : Bytes) : (c.call (.queue payload)).2.Doomed n := by
  cases h with
  | closed closed short =>
      simp only [call, closed, if_true]
      exact .closed closed short
  | @large i p queued large soon =>
      simp only [call]
      split
      · exact .large queued large soon
      · have lt : i < c.outgoing.length := (List.getElem?_eq_some_iff.1 queued).1
        exact .large ((List.getElem?_append_left lt).trans queued) large soon

theorem congr (h : c.Doomed n) {c' : Channel S} (outgoing : c'.outgoing = c.outgoing)
    (closed : c.outgoingClosed = true → c'.outgoingClosed = true) : c'.Doomed n := by
  cases h with
  | closed still short => exact .closed (closed still) (outgoing ▸ short)
  | large queued large soon => exact .large (outgoing ▸ queued) large soon

theorem wrote (h : c.Doomed (n + 1)) {payload : Bytes} {rest : List Bytes} (queued : c.outgoing = payload :: rest)
    (fits : payload.length ≤ maxMessageSize) {c' : Channel S} (outgoing : c'.outgoing = rest)
    (closed : c.outgoingClosed = true → c'.outgoingClosed = true) : c'.Doomed n := by
  cases h with
  | closed still short =>
      rw [queued, List.length_cons] at short
      exact .closed (closed still) (outgoing ▸ Nat.lt_of_succ_lt_succ short)
  | @large i p here large soon =>
      rw [queued] at here
      cases i with
      | zero =>
          obtain rfl := Option.some.inj here
          exact absurd large (Nat.not_lt.2 fits)
      | succ i => exact .large (outgoing ▸ here) large (Nat.lt_of_succ_lt_succ soon)

/-- Each event brings the end nearer, unless it is the end. -/
theorem step {e : Epoch S} {c₀ : Channel S} {queued : List Bytes} (carried : Carried e c₀ queued c)
    (goes : c.outcome = none) {x : Event} {later : List Event} (h : c.Doomed (sends (x :: later))) :
    ((c.call x).2.outcome = none ∧ (c.call x).2.Doomed (sends later)) ∨
      ∃ t left pending o, x = .turn t ∧ Ends c t left pending o := by
  cases x with
  | queue payload =>
      obtain ⟨-, still⟩ := carried.call (x := .queue payload) nofun
      exact .inl ⟨still.trans goes, h.queue payload⟩
  | closeSender => exact .inl ⟨goes, h.congr rfl fun _ => rfl⟩
  | closeReceiver => exact .inl ⟨goes, h.congr rfl id⟩
  | turn t =>
      have turned := carried.turned goes t
      simp only [Channel.call]
      generalize c.turn t = c' at turned
      cases turned with
      | ended ends => exact .inr ⟨_, _, _, _, rfl, ends⟩
      | delivered | read => exact .inl ⟨goes, h.congr rfl id⟩
      | idle empty opened =>
          rcases h.busy with queued | closed
          · exact absurd empty queued
          · exact absurd (opened.symm.trans closed) Bool.false_ne_true
      | wrote queued encoded =>
          have count : sends (.turn .send :: later) = sends later + 1 := List.countP_cons_of_pos rfl
          rw [count] at h
          exact .inl ⟨goes, h.wrote queued (carried.fits_of_encode encoded) rfl id⟩

end Doomed

inductive Stands (c₀ : Channel S) (events : List Event) : (left pending : List Bytes) → Prop
  | running (goes : (c₀.after events).outcome = none) :
      Stands c₀ events (c₀.after events).outgoing (c₀.after events).reader.decoder.drain.1
  | ended {before later : List Event} {t : Turn} {left pending : List Bytes} {o : Option StreamError}
      (split : events = before ++ .turn t :: later) (goes : (c₀.after before).outcome = none)
      (ends : Ends (c₀.after before) t left pending o) (halted : (c₀.after events).outcome = some o) :
      Stands c₀ events left pending

/-- What is known of the payloads of a channel after any events, the turns of its task among them. -/
structure Faithful (c₀ : Channel S) : Prop where
  accounted : ∀ events, ∃ left pending, Account c₀ (c₀.sent events) (c₀.after events) left pending ∧
    Stands c₀ events left pending
  ends : ∀ {before : List Event} {t : Turn} {left pending : List Bytes} {o : Option StreamError},
    (c₀.after before).outcome = none → Ends (c₀.after before) t left pending o →
      ∀ later, (c₀.after (before ++ .turn t :: later)).outcome = some o
  closed : ∀ events, (c₀.after events).outcome = some none ↔
    ∃ before t later, events = before ++ .turn t :: later ∧ (c₀.after before).outcome = none ∧ (c₀.after before).Closes t
  drained : ∀ {events later : List Event}, (c₀.after events).outcome = none → (c₀.after events).outgoingClosed = true →
    (∀ p ∈ c₀.sent events, p.length ≤ maxMessageSize) → Undisturbed c₀ events later →
    (c₀.after events).outgoing.length < sends later →
      (c₀.after (events ++ later)).outcome = some none ∧
        ∃ pending, Account c₀ (c₀.sent events) (c₀.after (events ++ later)) [] pending
  refused : ∀ {events later : List Event} {payload : Bytes}, (c₀.after events).outcome = none →
    (c₀.sent events).find? (maxMessageSize < ·.length) = some payload → Undisturbed c₀ events later →
    (c₀.after events).outgoing.length ≤ sends later →
      (c₀.after (events ++ later)).outcome = some (some (.link (.messageTooLarge payload.length))) ∧
        ∃ rest pending, Account c₀ (c₀.sent (events ++ later)) (c₀.after (events ++ later)) (payload :: rest) pending

theorem turn_of_closed {c : Channel S} (closed : c.outgoingClosed = true) (t : Turn) :
    (c.turn t).outgoingClosed = true := by
  cases t with
  | send => grind [turn, sendTurn, stop]
  | receive =>
      simp only [turn, receiveTurn]
      split
      · exact closed
      · split
        · grind [stop]
        · rfl
        · grind [stop]

theorem sent_of_closed {c : Channel S} (closed : c.outgoingClosed = true) (later : List Event) : c.sent later = [] := by
  induction later generalizing c with
  | nil => rfl
  | cons x later ih =>
      have first : c.sent (x :: later) = c.sent [x] ++ (c.call x).2.sent later := c.sent_append [x] later
      rw [first]
      cases x with
      | queue payload =>
          have refused : c.call (.queue payload) = (false, c) := if_pos closed
          have none_sent : c.sent [.queue payload] = [] := by
            rw [sent, Calls.answers, refused]
            rfl
          rw [none_sent, refused]
          exact ih closed
      | closeSender => exact ih rfl
      | closeReceiver => exact ih closed
      | turn t => exact ih (turn_of_closed closed t)

namespace Carried

variable {e : Epoch S} {c₀ c : Channel S} {queued : List Bytes} (h : Carried e c₀ queued c)
include h

theorem mem_of_mem_outgoing {payload : Bytes} (mem : payload ∈ c.outgoing) : payload ∈ queued := by
  obtain ⟨taken, whole, -⟩ := h.written
  rw [whole]
  exact List.mem_append_right taken mem

theorem find?_outgoing : c.outgoing.find? (maxMessageSize < ·.length) = queued.find? (maxMessageSize < ·.length) := by
  obtain ⟨taken, whole, fits, -⟩ := h.written
  have none_found : taken.find? (maxMessageSize < ·.length) = none := by
    simpa using fits
  rw [whole, List.find?_append, none_found, Option.none_or]

end Carried

section Started

variable {e : Epoch S} {c₀ : Channel S} (first : c₀.writer.encoder.sealer = e.sealer 0)
  (known : ∀ events, Known e c₀ events)
include first known

theorem carried_of_running {events : List Event} (goes : (c₀.after events).outcome = none) :
    Carried e c₀ (c₀.sent events) (c₀.after events) := by
  cases known events with
  | running goes carried => exact carried
  | @ended before later t left pending o split goes' carried ends =>
      obtain ⟨halted, -⟩ := carried.ended first goes' ends later
      rw [← split, goes] at halted
      cases halted

/-- A task that is to end does so in one of the turns to send, if it is not disturbed. -/
theorem Doomed.reaches {events later : List Event} (goes : (c₀.after events).outcome = none)
    (doomed : (c₀.after events).Doomed (sends later)) (undisturbed : Undisturbed c₀ events later) :
    ∃ before rest left pending o, later = before ++ .turn .send :: rest ∧ (c₀.after (events ++ before)).outcome = none ∧
      Ends (c₀.after (events ++ before)) .send left pending o := by
  -- the turns to send that are left are what the end is within
  induction later generalizing events with
  | nil => exact absurd doomed.pos (Nat.lt_irrefl 0)
  | cons x later ih =>
      rcases doomed.step (carried_of_running first known goes) goes with ⟨goes', doomed'⟩ | ⟨t, left, pending, o, rfl, ends⟩
      · rw [← after_concat] at goes' doomed'
        have undisturbed' : Undisturbed c₀ (events ++ [x]) later := by
          intro before rest split
          rw [← List.append_cons]
          exact undisturbed (x :: before) rest (congrArg (List.cons x) split)
        obtain ⟨before, rest, left, pending, o, split, goes, ends⟩ := ih goes' doomed' undisturbed'
        rw [← List.append_cons] at goes ends
        exact ⟨x :: before, rest, left, pending, o, congrArg (List.cons x) split, goes, ends⟩
      · have here : events ++ [] = events := List.append_nil events
        cases t with
        | send => exact ⟨[], later, left, pending, o, rfl, here.symm ▸ goes, here.symm ▸ ends⟩
        | receive => exact absurd (here.symm ▸ ends) (undisturbed [] later rfl (here.symm ▸ goes) (here.symm ▸ doomed.busy) _ _ _)

theorem Doomed.ended {events later : List Event} (goes : (c₀.after events).outcome = none)
    (doomed : (c₀.after events).Doomed (sends later)) (undisturbed : Undisturbed c₀ events later) :
    ∃ before left pending o, Carried e c₀ (c₀.sent (events ++ before)) (c₀.after (events ++ before)) ∧
      Ends (c₀.after (events ++ before)) .send left pending o ∧ (c₀.after (events ++ later)).outcome = some o ∧
      Account c₀ (c₀.sent (events ++ later)) (c₀.after (events ++ later)) left pending := by
  obtain ⟨before, rest, left, pending, o, rfl, goes', ends⟩ := Doomed.reaches first known goes doomed undisturbed
  have carried := carried_of_running first known goes'
  have last := carried.ended first goes' ends rest
  rw [List.append_assoc] at last
  exact ⟨before, left, pending, o, carried, ends, last⟩

theorem faithful : Faithful c₀ where
  accounted events := by
    cases known events with
    | running goes carried => exact ⟨_, _, carried.account first, .running goes⟩
    | @ended before later t left pending o split goes carried ends =>
        obtain ⟨halted, account⟩ := carried.ended first goes ends later
        rw [← split] at halted account
        exact ⟨left, pending, account, .ended split goes ends halted⟩
  ends goes ends later := ((carried_of_running first known goes).ended first goes ends later).1
  closed events := by
    constructor
    · intro halted
      cases known events with
      | running goes => exact absurd (goes.symm.trans halted) nofun
      | @ended before later t left pending o split goes carried ends =>
          obtain ⟨halted', -⟩ := carried.ended first goes ends later
          rw [← split, halted] at halted'
          obtain rfl := Option.some.inj halted'
          exact ⟨before, t, later, split, goes, closes_iff.2 ⟨left, pending, ends⟩⟩
    · rintro ⟨before, t, later, rfl, goes, closes⟩
      obtain ⟨left, pending, ends⟩ := closes_iff.1 closes
      exact ((carried_of_running first known goes).ended first goes ends later).1
  drained goes closed fit undisturbed short := by
    obtain ⟨before, left, pending, o, carried, ends, halted, account⟩ :=
      Doomed.ended first known goes (.closed closed short) undisturbed
    rw [sent_append, sent_of_closed closed, List.append_nil] at carried account
    cases ends with
    | senderClosed => exact ⟨halted, _, account⟩
    | tooLarge queued large =>
        have mem := carried.mem_of_mem_outgoing (queued ▸ List.mem_cons_self)
        exact absurd large (Nat.not_lt.2 (fit _ mem))
  refused {events later payload} goes found undisturbed short := by
    have here := (carried_of_running first known goes).find?_outgoing.trans found
    obtain ⟨large, i, lt, same, -⟩ := List.find?_eq_some_iff_getElem.1 here
    have doomed : (c₀.after events).Doomed (sends later) :=
      .large (List.getElem?_eq_some_iff.2 ⟨lt, same⟩) (of_decide_eq_true large) (Nat.lt_of_lt_of_le lt short)
    obtain ⟨before, left, pending, o, carried, ends, halted, account⟩ := Doomed.ended first known goes doomed undisturbed
    have still : (c₀.after (events ++ before)).outgoing.find? (maxMessageSize < ·.length) = some payload := by
      rw [carried.find?_outgoing, sent_append, List.find?_append, found]
      rfl
    -- the queue cannot have run empty, since the payload is still in it
    cases ends with
    | senderClosed empty =>
        rw [empty] at still
        cases still
    | tooLarge queued large' =>
        simp only [queued, List.find?_cons, decide_eq_true large'] at still
        obtain rfl := Option.some.inj still
        exact ⟨halted, _, _, account⟩

end Started
section Sending

variable {c₀ : Channel S} (opened : c₀.outgoingClosed = false)
include opened

end Sending

end Channel
end NoiseLink
