import NoiseLink.Proofs.Segmentation

namespace NoiseLink

variable {S : Suite}

namespace Arrival

def reads (arrivals : List Arrival) : List Bytes :=
  arrivals.filterMap fun
    | .data b => some b
    | _ => none

def Small (arrivals : List Arrival) : Prop := ∀ b ∈ reads arrivals, 0 < b.length ∧ b.length ≤ handshakeReadSize

theorem Small.of_cons {a : Arrival} {arrivals : List Arrival} (small : Small (a :: arrivals)) : Small arrivals := by
  cases a with
  | data b => exact (List.forall_mem_cons.1 small).2
  | pause | finish => exact small

theorem length_reads_le {arrivals : List Arrival} (small : Small arrivals) :
    (reads arrivals).length ≤ (bytes arrivals).length := by
  induction arrivals with
  | nil => exact Nat.le_refl 0
  | cons a arrivals ih =>
      have later := ih small.of_cons
      cases a with
      | pause | finish => exact later
      | data b =>
          have here : 0 < b.length := (small b List.mem_cons_self).1
          have longer : (reads (.data b :: arrivals)).length = (reads arrivals).length + 1 := rfl
          rw [longer, bytes_data, List.length_append]
          omega

end Arrival

namespace Progress

def actSize : Progress → Nat
  | .actOne | .actTwo => 50
  | .actThree => 66
  | .complete | .aborted => 0

/-- All that a side is still to be sent, where `missing` bytes of an act are. -/
def owed : Progress → (missing : Nat) → Nat
  | .actOne, missing => missing + 66
  | _, missing => missing

theorem le_owed (act : Progress) (missing : Nat) : missing ≤ act.owed missing := by
  cases act <;> simp [owed]

theorem eq_actThree_of_actSize {p : Progress} (h : p.actSize = actThreeSize) : p = .actThree := by
  revert h
  cases p <;> decide

end Progress

namespace Role

def progress : Role S → Progress
  | .initiator i => i.party.progress
  | .responder r => r.party.progress

def inboundSize : Role S → Nat
  | .initiator _ => 50
  | .responder _ => 116

theorem Listens.eq_actSize {role : Role S} {n : Nat} (h : role.Listens n) : n = role.progress.actSize := by
  cases h with
  | initiator turn | first turn | last turn =>
      rw [progress, turn]
      rfl

/-- Only act one is answered and then waited after. -/
theorem Listens.of_answered {role role' : Role S} {n : Nat} (h : role.Listens n) {act reply : Bytes}
    (heard : role.hear act = .ok (.answered reply role')) : role.progress = .actOne ∧ role'.progress = .actThree := by
  constructor
  · cases h with
    | first turn => exact turn
    | @initiator i =>
        rw [Role.hear] at heard
        cases answer : (i.receiveActTwo act).1 <;> rw [answer] at heard <;> cases heard
    | @last r turn =>
        rw [hear_last turn] at heard
        cases answer : (r.receiveActThree act).1 <;> rw [answer] at heard <;> cases heard
  · cases (h.hear act).result heard with
    | answered listens => exact Progress.eq_actThree_of_actSize listens.eq_actSize.symm

end Role

namespace Link

/-- A link that waits for an act of which `missing` bytes have not come yet. -/
inductive Lacks (act : Progress) (missing : Nat) : Link S → Prop
  | listening {role : Role S} {buffer : Bytes} (turn : role.progress = act) (listens : role.Listens act.actSize)
      (short : buffer.length < act.actSize) (adds : buffer.length + missing = act.actSize) (limit : Nat) :
      Lacks act missing (listening role buffer limit)

namespace Lacks

variable {role : Role S} {buffer : Bytes} {act : Progress} {missing : Nat}

theorem of_short {n : Nat} (listens : role.Listens n) (short : buffer.length < n) (limit : Nat) :
    (Link.listening role buffer limit).Lacks role.progress (n - buffer.length) := by
  have size := listens.eq_actSize
  have adds : buffer.length + (n - buffer.length) = n := by omega
  rw [size] at listens short
  exact .listening rfl listens short (adds.trans size) limit

theorem pos {l : Link S} (h : l.Lacks act missing) : 0 < missing := by
  cases h with
  | listening turn listens short adds limit => omega

theorem inv {limit : Nat} (h : (Link.listening role buffer limit).Lacks act missing) :
    role.progress = act ∧ buffer.length + missing = act.actSize := by
  cases h with
  | listening turn listens short adds limit => exact ⟨turn, adds⟩

end Lacks
end Link

def Connected.resume : Connected S → List Arrival → Connected S
  | .waiting l written, arrivals => Stream.handshake l written arrivals
  | .failed e written, _ => .failed e written
  | .done stream, arrivals =>
    .done ⟨⟨stream.reader.decoder, stream.reader.inbound ++ arrivals⟩, stream.writer, stream.remote⟩

namespace Stream

theorem ofLink_append (l : Link S) (inbound later : List Arrival) (written : Bytes) :
    ofLink l (inbound ++ later) written = (ofLink l inbound written).resume later := by
  simp only [ofLink]
  cases l.remote with
  | none => rfl
  | some remote => cases l.split <;> rfl

theorem handshake_append (l : Link S) (written : Bytes) (first later : List Arrival) :
    handshake l written (first ++ later) = (handshake l written first).resume later := by
  induction first generalizing l written with
  | nil => rfl
  | cons a first ih =>
      rw [List.cons_append]
      cases a with
      | pause => exact ih l written
      | finish =>
          simp only [handshake]
          cases l.finish <;> rfl
      | data b =>
          simp only [handshake]
          rcases l.feedHandshake b with ⟨e | ⟨n | act | reply⟩, l'⟩
          · rfl
          · exact ih l' written
          · exact ih l' (written ++ act)
          · exact ofLink_append l' first later _

theorem connect_append (role : Role S) (limit : Nat) (first later : List Arrival) :
    connect role limit (first ++ later) = (connect role limit first).resume later := by
  simp only [connect]
  rcases (Link.new.withLimit limit).start role with ⟨e | ⟨n | act | reply⟩, l⟩
  · rfl
  · exact handshake_append l [] first later
  · exact handshake_append l act first later
  · exact ofLink_append l first later _

theorem handshake_ne_waiting {arrivals : List Arrival} (ends : .finish ∈ arrivals) (l l' : Link S)
    (written written' : Bytes) : handshake l written arrivals ≠ .waiting l' written' := by
  obtain ⟨before, after, rfl⟩ := List.append_of_mem ends
  rw [handshake_append]
  intro waits
  cases reached : handshake l written before with
  | failed e written =>
      rw [reached] at waits
      cases waits
  | done stream =>
      rw [reached] at waits
      cases waits
  | waiting l written =>
      rw [reached, Connected.resume, handshake] at waits
      cases finished : l.finish <;> rw [finished] at waits <;> cases waits

/-- What a read of `b` comes to, where `missing` bytes of an act are awaited: less of them, another act, or an end. -/
inductive Round (act : Progress) (missing : Nat) (b written : Bytes) : Connected S → Prop
  | nearer {l : Link S} {left : Nat} (fewer : left < missing) (takes : b.length + left = missing)
      (waits : l.Lacks act left) : Round act missing b written (.waiting l written)
  | onward {l : Link S} {left : Nat} (reply : Bytes) (first : act = .actOne) (takes : b.length + left = missing + 66)
      (waits : l.Lacks .actThree left) : Round act missing b written (.waiting l (written ++ reply))
  | failed (e : NoiseError) : Round act missing b written (.failed (.link (.noise e)) written)
  | done (stream : Stream S) : Round act missing b written (.done stream)

variable {act : Progress} {missing : Nat} {l : Link S}

theorem round_handshake (waits : l.Lacks act missing) {b : Bytes} (some : 0 < b.length)
    (small : b.length ≤ handshakeReadSize) (written : Bytes) :
    Round act missing b written (handshake l written [.data b]) := by
  cases waits with
  | @listening role buffer turn listens short adds limit =>
      have longer : (buffer ++ b).length = buffer.length + b.length := List.length_append
      by_cases still : (buffer ++ b).length < act.actSize
      · rw [handshake_short limit [] listens.awaits still, handshake]
        have waits := Link.Lacks.of_short listens still limit
        rw [turn] at waits
        exact .nearer (by omega) (by omega) waits
      · obtain ⟨text, rest, whole, size⟩ := exists_append_of_le (Nat.le_of_not_lt still)
        rw [← size] at listens short
        have left := left_lt whole short small
        rw [handshake_whole limit [] listens whole]
        cases heard : role.hear text with
        | error e => exact .failed e
        | ok good =>
            cases (listens.hear text).result heard with
            | completed fresh => exact .done _
            | @answered reply role' listens' =>
                obtain ⟨first, third⟩ := listens.of_answered heard
                have waits := Link.Lacks.of_short listens' left limit
                rw [third] at waits
                refine .onward reply (turn.symm.trans first) ?_ waits
                have sizes := congrArg List.length whole
                rw [longer, List.length_append] at sizes
                unfold actThreeSize publicKeySize macSize at *
                omega

/-- However long a handshake goes on, the bytes that it was sent and those that it waits for are all that it ever was to
be sent. -/
theorem waits_handshake (waits : l.Lacks act missing) {arrivals : List Arrival} (small : Arrival.Small arrivals)
    {l' : Link S} {written written' : Bytes} (h : handshake l written arrivals = .waiting l' written') :
    ∃ act' missing', l'.Lacks act' missing' ∧
      (Arrival.bytes arrivals).length + act'.owed missing' = act.owed missing := by
  induction arrivals generalizing l act missing written with
  | nil =>
      cases h
      exact ⟨act, missing, waits, Nat.zero_add _⟩
  | cons a arrivals ih =>
      cases a with
      | pause => exact ih waits small.of_cons h
      | finish => exact absurd h (handshake_ne_waiting List.mem_cons_self l l' written written')
      | data b =>
          obtain ⟨some, fits⟩ := small b List.mem_cons_self
          have round := round_handshake waits some fits written
          rw [← List.singleton_append, handshake_append] at h
          rw [Arrival.bytes_data, List.length_append]
          generalize handshake l written [.data b] = c at round h
          cases round with
          | failed | done => cases h
          | nearer fewer takes waits =>
              obtain ⟨act', missing', waits', total⟩ := ih waits small.of_cons h
              refine ⟨act', missing', waits', ?_⟩
              rw [Nat.add_assoc, total, ← takes]
              cases act <;> simp only [Progress.owed, Nat.add_assoc]
          | onward reply first takes waits =>
              obtain ⟨act', missing', waits', total⟩ := ih waits small.of_cons h
              refine ⟨act', missing', waits', ?_⟩
              rw [Nat.add_assoc, total, first]
              exact takes

theorem waits_opening {role : Role S} (fresh : role.Fresh) (limit : Nat) :
    ∃ act missing, (Link.listening role.opening.2 [] limit).Lacks act missing ∧
      act.owed missing = role.inboundSize := by
  obtain ⟨n, listens⟩ := fresh.listens
  have empty : ([] : Bytes).length < n := listens.pos
  refine ⟨_, _, .of_short listens empty limit, ?_⟩
  rw [List.length_nil, Nat.sub_zero, listens.eq_actSize]
  cases fresh with
  | initiator static ephemeral remote =>
      rw [Role.opening, Initiator.sendActOne_new static ephemeral remote [] remote]
      rfl
  | responder static ephemeral => rfl

/-- What comes behind act one before it is answered is kept, and not looked at. -/
theorem connect_ahead (k : Secrets S) (lawful : S.Lawful) (limit : Nat) {part rest behind : Bytes}
    (cut : part ++ rest = k.transcript.actOne ++ behind) (short : part.length < actOneSize) :
    connect (.responder k.responderSide) limit [.data part, .data rest] =
      .waiting (.listening (.responder k.responderAwaiting) behind (min limit maxMessageSize)) k.transcript.actTwo := by
  obtain ⟨-, -, connected⟩ := start_opening (.responder k.responder k.responderEphemeral) limit
  have listens : (Role.responder k.responderSide).Listens k.transcript.actOne.length := by
    rw [k.length_actOne lawful]
    exact .first rfl
  have good : (Role.responder k.responderSide).hear k.transcript.actOne =
      .ok (.answered k.transcript.actTwo (.responder k.responderAwaiting)) := by
    rw [Role.hear_first rfl, k.receiveActOne lawful]
    rfl
  have small : (([] : Bytes) ++ part).length < k.transcript.actOne.length := by
    rw [k.length_actOne lawful]
    exact short
  have first := handshake_short (min limit maxMessageSize) [.data rest] listens.awaits small []
  have second := handshake_whole (min limit maxMessageSize) [] listens cut []
  rw [good] at second
  exact (connected _).trans (first.trans second)

/-- Wherever a handshake of a new role waits for its socket, it holds less than the act that it awaits. Each read then
takes it on, and there is an end to its reads: it does not wait once all acts are there, nor after the remote end has
closed. -/
theorem waits_for_missing_bytes {role : Role S} (fresh : role.Fresh) (limit : Nat) {arrivals : List Arrival}
    (small : Arrival.Small arrivals) :
    (∀ later, connect role limit (arrivals ++ later) = (connect role limit arrivals).resume later) ∧
    (.finish ∈ arrivals → ∀ l written, connect role limit arrivals ≠ .waiting l written) ∧
    ∀ l written, connect role limit arrivals = .waiting l written →
      (Arrival.reads arrivals).length < role.inboundSize ∧
      ∃ act missing, l.Lacks act missing ∧ (Arrival.bytes arrivals).length + act.owed missing = role.inboundSize ∧
        ∀ b, 0 < b.length → b.length ≤ handshakeReadSize →
          Round act missing b written (connect role limit (arrivals ++ [.data b])) := by
  obtain ⟨-, -, connected⟩ := start_opening fresh limit
  refine ⟨connect_append role limit arrivals, fun ends l written => ?_, fun l written here => ?_⟩
  · rw [connected]
    exact handshake_ne_waiting ends _ l _ written
  · obtain ⟨act, missing, opens, total⟩ := waits_opening fresh (min limit maxMessageSize)
    have reached := here
    rw [connected] at reached
    obtain ⟨act', missing', waits, sum⟩ := waits_handshake opens small reached
    rw [total] at sum
    refine ⟨?_, act', missing', waits, sum, fun b some fits => ?_⟩
    · have reads := Arrival.length_reads_le small
      have owed := act'.le_owed missing'
      have pos : 0 < missing' := waits.pos
      omega
    · rw [connect_append, here]
      exact round_handshake waits some fits written

theorem waits_for_missing_bytes_ahead :
    let k := Secrets.vectors
    let three := k.transcript.actThree k.static k.se
    let role := Role.responder k.responderSide
    let arrivals := [.data (k.transcript.actOne.take 49), .data (k.transcript.actOne.drop 49 ++ three.take 65)]
    let l := Link.listening (.responder k.responderAwaiting) (three.take 65) 100
    Role.Fresh role ∧ Arrival.Small arrivals ∧ connect role 100 arrivals = .waiting l k.transcript.actTwo ∧
      l.Lacks .actThree 1 ∧
      ∀ x, Round .actThree 1 [x] k.transcript.actTwo (connect role 100 (arrivals ++ [.data [x]])) := by
  intro k three role arrivals l
  have lawful := Suite.standard_lawful
  have one : k.transcript.actOne.length = 50 := k.length_actOne lawful
  have size : three.length = 66 := k.length_actThree lawful
  have fresh : Role.Fresh role := .responder _ _
  have small : Arrival.Small arrivals := by
    simp [Arrival.Small, Arrival.reads, arrivals, handshakeReadSize, actThreeSize, publicKeySize, macSize, one, size]
  have here : connect role 100 arrivals = .waiting l k.transcript.actTwo := by
    have cut : k.transcript.actOne.take 49 ++ (k.transcript.actOne.drop 49 ++ three.take 65) =
        k.transcript.actOne ++ three.take 65 := by
      rw [← List.append_assoc, List.take_append_drop]
    exact connect_ahead k lawful 100 cut (by simp [one, actOneSize, publicKeySize, macSize])
  obtain ⟨-, act, missing, waits, -, round⟩ := (waits_for_missing_bytes fresh 100 small).2.2 l _ here
  obtain ⟨rfl, adds⟩ := waits.inv
  obtain rfl : missing = 1 := by
    have held : (three.take 65).length = 65 := by simp [size]
    rw [held] at adds
    exact Nat.add_left_cancel adds
  exact ⟨fresh, small, here, waits, fun x => round [x] Nat.one_pos (Nat.le_add_left 1 65)⟩

end Stream
end NoiseLink
