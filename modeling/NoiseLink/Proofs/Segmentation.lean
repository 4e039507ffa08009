import NoiseLink.Proofs.ActScripts
import NoiseLink.Proofs.StreamReads

namespace NoiseLink

variable {S : Suite}

namespace Link

def listening (role : Role S) (buffer : Bytes) (limit : Nat) : Link S := .handshaking role buffer role.known limit

/-- What a whole act does to a link, by what it comes to. -/
inductive Receives (rest : Bytes) (limit : Nat) :
    Except NoiseError (Heard S) → Except LinkError HandshakeStep × Link S → Prop
  | rejected (e : NoiseError) (l : Link S) : Receives rest limit (.error e) (.error (.noise e), l)
  | answered (reply : Bytes) (role : Role S) :
      Receives rest limit (.ok (.answered reply role)) (.ok (.send reply), listening role rest limit)
  | completed (reply : Option Bytes) (remote : S.Point) (session : Session S) :
      Receives rest limit (.ok (.completed (reply.getD []) remote session))
        (.ok (.ready reply), ready session.sealer ((Decoder.new session.opener).feed rest) remote limit)

theorem receives {role : Role S} {n : Nat} (listens : role.Listens n) (act rest : Bytes) (limit : Nat) :
    Receives rest limit (role.hear act) ((listening role rest limit).receiveAct n act role) := by
  cases listens with
  | @initiator i turn =>
      simp only [Role.hear, receiveAct]
      rcases i.receiveActTwo act with ⟨e | ⟨reply, session⟩, i'⟩
      · exact .rejected e _
      · exact .completed (some reply) i.remote session
  | @first r turn =>
      simp only [Role.hear_first turn, receiveAct, if_true]
      rcases r.receiveActOne act with ⟨e | reply, r'⟩
      · exact .rejected e _
      · exact .answered reply (.responder r')
  | @last r turn keyed =>
      have longer : actThreeSize ≠ actOneSize := by decide
      simp only [Role.hear_last turn, receiveAct, if_neg longer]
      rcases r.receiveActThree act with ⟨e | ⟨remote, session⟩, r'⟩
      · exact .rejected e _
      · exact .completed none remote session

end Link

namespace Stream

def handshakeReads (l : Link S) : List Arrival → List Bytes
  | .data b :: rest =>
    b :: match l.feedHandshake b with
      | (.ok (.needMore _), l) | (.ok (.send _), l) => handshakeReads l rest
      | _ => []
  | .pause :: rest => handshakeReads l rest
  | _ => []

/-- What an attempt to connect comes to, with at most `few` arrivals left before the end. -/
inductive Reached (limit : Nat) (written : Bytes) (few : Nat) : Meeting S → Connected S → Prop
  | failed (halt : Halt) : Reached limit written few (.halted halt) (.failed halt.error written)
  | done {remote : S.Point} {outward inward : Epoch S} {rest buffered : Bytes} {inbound : List Arrival}
      (whole : rest = buffered ++ Arrival.bytes inbound) (ongoing : .finish ∉ inbound) (le : inbound.length ≤ few) :
      Reached limit written few (.done remote outward inward rest)
        (.done ⟨Reader.before (inward.between 0 buffered) inbound, ⟨⟨outward.sealer 0, limit⟩, written⟩, remote⟩)

theorem Reached.later {limit few few' : Nat} {written : Bytes} {meeting : Meeting S} {c : Connected S}
    (h : Reached limit written few meeting c) (le : few ≤ few') : Reached limit written few' meeting c := by
  cases h with
  | failed halt => exact .failed halt
  | done whole ongoing le' => exact .done whole ongoing (Nat.le_trans le' le)

theorem finish_listening {role : Role S} {n : Nat} (awaits : role.expectedSize = some n) (buffer : Bytes) (m : Nat) :
    (Link.listening role buffer m).finish =
      if buffer = [] then .ok () else .error (.truncatedRecord n buffer.length) := by
  simp only [Link.finish, Link.listening, Link.handshaking, awaits]
  rfl

section Feeding

variable {role : Role S} {buffer b : Bytes} (m : Nat) (later : List Arrival)

section Short

variable {n : Nat} (awaits : role.expectedSize = some n) (short : (buffer ++ b).length < n)
include awaits short

theorem handshake_short (written : Bytes) :
    handshake (.listening role buffer m) written (.data b :: later) =
      handshake (.listening role (buffer ++ b) m) written later := by
  have fed : (Link.listening role buffer m).feedHandshake b = _ := Link.feedHandshake_short awaits role.known m short
  simp only [handshake, fed]
  rfl

theorem handshakeReads_short :
    handshakeReads (.listening role buffer m) (.data b :: later) =
      b :: handshakeReads (.listening role (buffer ++ b) m) later := by
  have fed : (Link.listening role buffer m).feedHandshake b = _ := Link.feedHandshake_short awaits role.known m short
  simp only [handshakeReads, fed]
  rfl

end Short

section Whole

variable {act rest : Bytes} (listens : role.Listens act.length) (whole : buffer ++ b = act ++ rest)
include listens whole

theorem receives_feedHandshake :
    Link.Receives rest m (role.hear act) ((Link.listening role buffer m).feedHandshake b) := by
  have fed : (Link.listening role buffer m).feedHandshake b = _ :=
    Link.feedHandshake_whole listens.awaits role.known m whole rfl
  rw [fed]
  exact Link.receives listens act rest m

theorem handshake_whole (written : Bytes) :
    handshake (.listening role buffer m) written (.data b :: later) =
      match role.hear act with
      | .error e => .failed (.link (.noise e)) written
      | .ok (.answered reply role') => handshake (.listening role' rest m) (written ++ reply) later
      | .ok (.completed reply remote session) =>
        .done ⟨⟨(Decoder.new session.opener).feed rest, later⟩,
          ⟨⟨session.sealer, min m maxMessageSize⟩, written ++ reply⟩, remote⟩ := by
  have receives := receives_feedHandshake m listens whole
  simp only [handshake]
  generalize (Link.listening role buffer m).feedHandshake b = r at receives
  generalize role.hear act = heard at receives
  cases receives <;> rfl

theorem handshakeReads_whole :
    handshakeReads (.listening role buffer m) (.data b :: later) =
      b :: match role.hear act with
        | .ok (.answered _ role') => handshakeReads (.listening role' rest m) later
        | _ => [] := by
  have receives := receives_feedHandshake m listens whole
  simp only [handshakeReads]
  generalize (Link.listening role buffer m).feedHandshake b = r at receives
  generalize role.hear act = heard at receives
  cases receives <;> rfl

omit listens in
theorem left_lt (short : buffer.length < act.length) (small : b.length ≤ handshakeReadSize) :
    rest.length < actThreeSize := by
  have sizes := congrArg List.length whole
  rw [List.length_append, List.length_append] at sizes
  unfold handshakeReadSize at small
  omega

end Whole
end Feeding

theorem reached_handshake {role : Role S} {n : Nat} (listens : role.Listens n) {buffer : Bytes}
    (short : buffer.length < n) {arrivals : List Arrival} (ongoing : .finish ∉ arrivals) {m : Nat}
    (reads : ∀ b ∈ handshakeReads (.listening role buffer m) (arrivals ++ [.finish]), b.length ≤ handshakeReadSize)
    {answers : Bytes} {meeting : Meeting S} (meets : role.Meets (buffer ++ Arrival.bytes arrivals) answers meeting)
    (written : Bytes) :
    Reached (min m maxMessageSize) (written ++ answers) arrivals.length meeting
      (handshake (.listening role buffer m) written (arrivals ++ [.finish])) := by
  -- what is buffered and what is to come are the script, and at any time the buffer is too short for a whole act
  induction arrivals generalizing role n buffer answers written with
  | nil =>
      rw [Arrival.bytes_nil, List.append_nil] at meets
      obtain ⟨rfl, rfl⟩ := meets.short listens.awaits short
      rw [List.append_nil, List.nil_append, handshake, finish_listening listens.awaits]
      by_cases empty : buffer = []
      · simp only [if_pos empty]
        exact .failed .between
      · simp only [if_neg empty]
        exact .failed (.inside n buffer.length)
  | cons a arrivals ih =>
      rw [List.mem_cons, not_or] at ongoing
      obtain ⟨later, ongoing⟩ := ongoing
      cases a with
      | finish => exact absurd rfl later
      | pause => exact (ih listens short ongoing reads meets written).later (Nat.le_succ _)
      | data b =>
          rw [Arrival.bytes_data, ← List.append_assoc] at meets
          rw [List.cons_append] at reads ⊢
          by_cases short' : (buffer ++ b).length < n
          · rw [handshakeReads_short m _ listens.awaits short'] at reads
            rw [handshake_short m _ listens.awaits short']
            exact (ih listens short' ongoing (List.forall_mem_cons.1 reads).2 meets written).later (Nat.le_succ _)
          · obtain ⟨act, rest, whole, rfl⟩ := exists_append_of_le (Nat.le_of_not_lt short')
            rw [whole, List.append_assoc] at meets
            rw [handshakeReads_whole m _ listens whole] at reads
            rw [handshake_whole m _ listens whole]
            have continues := meets.whole listens
            have checked := listens.hear act
            obtain ⟨small, reads⟩ := List.forall_mem_cons.1 reads
            generalize role.hear act = heard at continues checked reads
            cases continues with
            | rejected e =>
                rw [List.append_nil]
                exact .failed (.rejected e)
            | answered meets' =>
                cases checked.result rfl with
                | answered listens' =>
                    -- here a longer read could leave a whole act three behind, which nothing would look at
                    have left := left_lt whole short small
                    rw [← List.append_assoc]
                    exact (ih listens' left ongoing reads meets' _).later (Nat.le_succ _)
            | completed reply remote sending receiving chain => exact .done rfl ongoing (Nat.le_succ _)

theorem start_opening {role : Role S} (fresh : role.Fresh) (limit : Nat) :
    ∃ step, (Link.new.withLimit limit).start role =
        (.ok step, .listening role.opening.2 [] (min limit maxMessageSize)) ∧
      ∀ inbound, connect role limit inbound =
        handshake (.listening role.opening.2 [] (min limit maxMessageSize)) role.opening.1 inbound := by
  cases fresh with
  | initiator static ephemeral remote =>
      have sent := Initiator.sendActOne_new static ephemeral remote [] remote
      have new : (Link.new.withLimit limit : Link S).isFresh = true := rfl
      simp only [connect, Link.start, Role.opening, sent, new, if_true]
      exact ⟨_, rfl, fun _ => rfl⟩
  | responder static ephemeral => exact ⟨_, rfl, fun _ => rfl⟩

def connectReads (role : Role S) (limit : Nat) (inbound : List Arrival) : List Bytes :=
  match (Link.new.withLimit limit).start role with
  | (.ok _, l) => handshakeReads l inbound
  | (.error _, _) => []

/-- Arrivals that bring the script and then its end. No read of the handshake is longer than its longest act. -/
structure Carries (role : Role S) (limit : Nat) (script : Bytes) (arrivals : List Arrival) : Prop where
  whole : ∃ before, arrivals = before ++ [.finish] ∧ .finish ∉ before ∧ Arrival.bytes before = script
  reads : ∀ b ∈ connectReads role limit arrivals, b.length ≤ handshakeReadSize

theorem mem_of_mem_handshakeReads {l : Link S} {arrivals : List Arrival} {b : Bytes}
    (h : b ∈ handshakeReads l arrivals) : .data b ∈ arrivals := by
  induction arrivals generalizing l with
  | nil => cases h
  | cons a arrivals ih =>
      cases a with
      | finish => cases h
      | pause => exact List.mem_cons_of_mem _ (ih h)
      | data c =>
          rw [handshakeReads] at h
          rcases List.mem_cons.1 h with rfl | h
          · exact List.mem_cons_self
          · refine List.mem_cons_of_mem _ ?_
            split at h
            · exact ih h
            · exact ih h
            · cases h

theorem Carries.of_small (role : Role S) (limit : Nat) {before : List Arrival} (ongoing : .finish ∉ before)
    (small : ∀ b, .data b ∈ before → b.length ≤ handshakeReadSize) :
    Carries role limit (Arrival.bytes before) (before ++ [.finish]) where
  whole := ⟨before, rfl, ongoing, rfl⟩
  reads b mem := by
    rw [connectReads] at mem
    split at mem
    · have arrived := mem_of_mem_handshakeReads mem
      rw [List.mem_append, List.mem_singleton] at arrived
      rcases arrived with arrived | same
      · exact small b arrived
      · cases same
    · cases mem

theorem Carries.bytewise (role : Role S) (limit : Nat) (script : Bytes) :
    Carries role limit script (script.map (fun b => Arrival.data [b]) ++ [.finish]) := by
  have whole : Arrival.bytes (script.map fun b => Arrival.data [b]) = script := by
    simp [Arrival.bytes, List.flatMap_map]
  have small : ∀ b, .data b ∈ script.map (fun b => Arrival.data [b]) → b.length ≤ handshakeReadSize := by
    intro b mem
    simp only [List.mem_map, Arrival.data.injEq] at mem
    obtain ⟨x, -, rfl⟩ := mem
    exact Nat.le_add_left 1 65
  have ongoing : .finish ∉ script.map fun b => Arrival.data [b] := by simp
  have carries := Carries.of_small role limit ongoing small
  rw [whole] at carries
  exact carries

theorem reached_connect {role : Role S} (fresh : role.Fresh) {limit : Nat} {script written : Bytes}
    {meeting : Meeting S} (faces : role.Faces script written meeting) {arrivals : List Arrival}
    (carries : Carries role limit script arrivals) :
    Reached (min (min limit maxMessageSize) maxMessageSize) written (arrivals.length - 1) meeting
      (connect role limit arrivals) := by
  obtain ⟨n, listens⟩ := fresh.listens
  obtain ⟨step, started, connected⟩ := start_opening fresh limit
  obtain ⟨answers, meets, rfl⟩ := faces
  obtain ⟨⟨before, rfl, ongoing, rfl⟩, reads⟩ := carries
  rw [connectReads, started] at reads
  rw [connected, List.length_append, List.length_singleton, Nat.add_sub_cancel]
  have empty : ([] : Bytes).length < n := listens.pos
  exact reached_handshake listens empty ongoing reads meets role.opening.1

structure Observed (S : Suite) where
  written : Bytes
  remote : Option S.Point
  payloads : List Bytes
  error : Option StreamError

/-- An attempt to connect, and then reads, each patient or not, until the first error. -/
def observe (role : Role S) (limit : Nat) (arrivals : List Arrival) (choices : List Bool) : Observed S :=
  match connect role limit arrivals with
  | .failed e written => ⟨written, none, [], some e⟩
  | .waiting _ written => ⟨written, none, [], none⟩
  | .done stream =>
    ⟨stream.writer.written, some stream.remote, (stream.reader.mix choices).1, (stream.reader.mix choices).2⟩

/-- What the bytes of the remote end decide. -/
inductive Decides (role : Role S) (script : Bytes) : Observed S → Prop
  | halted {written : Bytes} {halt : Halt} (faces : role.Faces script written (.halted halt)) :
      Decides role script ⟨written, none, [], some halt.error⟩
  | established {written rest tail : Bytes} {remote : S.Point} {outward inward : Epoch S}
      {records payloads : List Bytes} {halt : Halt} (faces : role.Faces script written (.done remote outward inward rest))
      (holds : inward.Holds 0 rest records payloads tail halt) :
      Decides role script ⟨written, some remote, payloads, some halt.error⟩

theorem exists_decides {role : Role S} (fresh : role.Fresh) (script : Bytes) : ∃ o, Decides role script o := by
  obtain ⟨n, listens⟩ := fresh.listens
  obtain ⟨answers, meeting, meets⟩ := listens.exists_meets script
  cases meeting with
  | halted halt => exact ⟨_, .halted ⟨answers, meets, rfl⟩⟩
  | done remote outward inward rest =>
      obtain ⟨records, payloads, tail, halt, holds⟩ := Epoch.exists_holds (e := inward) 0 rest
      exact ⟨_, .established ⟨answers, meets, rfl⟩ holds⟩

theorem outcome_of_holds {e : Epoch S} {buffered tail : Bytes} {inbound : List Arrival} {records payloads : List Bytes}
    {halt : Halt} (holds : e.Holds 0 (buffered ++ Arrival.bytes inbound) records payloads tail halt) :
    Reader.outcome (e.between 0 buffered) inbound = (payloads, halt.error) := by
  obtain ⟨returned, ended⟩ := holds.drain
  have whole : (e.between 0 buffered).feed (Arrival.bytes inbound) = e.between 0 (buffered ++ Arrival.bytes inbound) := rfl
  rw [Reader.outcome, whole, returned, ended]

theorem Reached.mix {limit few : Nat} {written rest tail : Bytes} {remote : S.Point} {outward inward : Epoch S}
    {stream : Stream S} {records payloads : List Bytes} {halt : Halt}
    (reached : Reached limit written few (.done remote outward inward rest) (.done stream))
    (holds : inward.Holds 0 rest records payloads tail halt) {choices : List Bool}
    (enough : rest.length + few < choices.length) : stream.reader.mix choices = (payloads, some halt.error) := by
  cases reached with
  | @done _ _ _ _ buffered inbound whole ongoing le =>
      subst whole
      have size : (Reader.before (inward.between 0 buffered) inbound).available =
          (buffered ++ Arrival.bytes inbound).length := by
        rw [Reader.available_before, List.length_append]
        rfl
      have enough' : (Reader.before (inward.between 0 buffered) inbound).available + inbound.length < choices.length := by
        omega
      have all := Reader.mix_eq (inward.between 0 buffered) ongoing enough'
      rw [outcome_of_holds holds] at all
      exact all

theorem Reached.readAll {limit few : Nat} {written rest tail : Bytes} {remote : S.Point} {outward inward : Epoch S}
    {stream : Stream S} {records payloads : List Bytes} {halt : Halt}
    (reached : Reached limit written few (.done remote outward inward rest) (.done stream))
    (holds : inward.Holds 0 rest records payloads tail halt) :
    stream.reader.readAll.1 = payloads ∧ stream.reader.readAll.2.1 = .failed halt.error := by
  cases reached with
  | @done _ _ _ _ buffered inbound whole ongoing le =>
      subst whole
      have all := Reader.collect_readFrame (inward.between 0 buffered) ongoing (Nat.lt_succ_self _)
      rw [outcome_of_holds holds] at all
      exact all

/-- Only the bytes decide what a stream does: however they arrive, and however the reads that follow are made, an attempt
ends, and all that shows of it is what its script has it be. -/
theorem bytes_decide {role : Role S} (fresh : role.Fresh) (limit : Nat) (script : Bytes) :
    (∃ o, Decides role script o) ∧
    ∀ o, Decides role script o → ∀ arrivals choices, Carries role limit script arrivals →
      script.length + arrivals.length ≤ choices.length → observe role limit arrivals choices = o := by
  refine ⟨exists_decides fresh script, fun o decides arrivals choices carries enough => ?_⟩
  cases decides with
  | halted faces =>
      have reached := reached_connect fresh faces carries
      rw [observe]
      generalize connect role limit arrivals = c at reached
      cases reached
      rfl
  | @established written rest _ _ _ _ _ _ _ faces holds =>
      have reached := reached_connect fresh faces carries
      rw [observe]
      generalize connect role limit arrivals = c at reached
      cases c with
      | failed | waiting => cases reached
      | done stream =>
          obtain ⟨answers, meets, -⟩ := faces
          obtain ⟨⟨before, rfl, -⟩, -⟩ := carries
          have fewer := meets.length_rest_le
          have enough' : rest.length + ((before ++ [Arrival.finish]).length - 1) < choices.length := by
            rw [List.length_append, List.length_singleton] at enough ⊢
            omega
          have all := reached.mix holds enough'
          cases reached
          simp only [all]

theorem bytes_decide_bytewise :
    let k := Secrets.vectors
    let role := Role.responder k.responderSide
    let acts : List Arrival := [.data k.transcript.actOne, .data (k.transcript.actThree k.static k.se),
      .data ((k.outward.records 0 [[1, 2, 3]]).flatten ++ Bytes.zeros 5)]
    let single := (Arrival.bytes acts).map fun b => Arrival.data [b]
    let shown : Observed .standard := ⟨k.transcript.actTwo, some (Suite.standard.publicKey k.initiator), [[1, 2, 3]],
      some (.link (.truncatedRecord headerSize 5))⟩
    Role.Fresh role ∧ Decides role (Arrival.bytes acts) shown ∧
      Carries role 100 (Arrival.bytes acts) (acts ++ [.finish]) ∧
      Carries role 100 (Arrival.bytes acts) (single ++ [.finish]) ∧
      observe role 100 (acts ++ [.finish]) (List.replicate 1000 true) = shown ∧
      observe role 100 (single ++ [.finish]) (List.replicate 1000 false) = shown := by
  intro k role acts single shown
  have lawful := Suite.standard_lawful
  have fresh : Role.Fresh role := .responder _ _
  have record : (k.outward.records 0 [[1, 2, 3]]).flatten.length = 37 := by
    rw [Epoch.flatten_records_cons, List.length_append, List.length_append, k.outward.length_header lawful.toSealing,
      k.outward.length_body lawful.toSealing]
    rfl
  have script : Arrival.bytes acts = k.transcript.actOne ++ (k.transcript.actThree k.static k.se ++
      ((k.outward.records 0 [[1, 2, 3]]).flatten ++ Bytes.zeros 5)) := by
    simp [acts]
  have length : (Arrival.bytes acts).length = 158 := by
    simp [script, record, k.length_actOne lawful, k.length_actThree lawful, actOneSize, actThreeSize, publicKeySize,
      macSize]
  have holds : k.outward.Holds 0 ((k.outward.records 0 [[1, 2, 3]]).flatten ++ Bytes.zeros 5)
      (k.outward.records 0 [[1, 2, 3]]) [[1, 2, 3]] (Bytes.zeros 5) (.inside headerSize 5) :=
    ⟨rfl, Epoch.opens_records lawful.toSealing 0 (by decide), .insideHeader (by decide) (by decide)⟩
  have decides : Decides role (Arrival.bytes acts) shown := by
    rw [script]
    exact .established (k.responder_faces lawful _) holds
  have carries : Carries role 100 (Arrival.bytes acts) (acts ++ [.finish]) := by
    refine .of_small role 100 (by simp [acts]) fun b mem => ?_
    simp only [acts, List.mem_cons, Arrival.data.injEq, List.not_mem_nil, or_false] at mem
    rcases mem with rfl | rfl | rfl
    · rw [k.length_actOne lawful]
      decide
    · rw [k.length_actThree lawful]
      decide
    · rw [List.length_append, record]
      decide
  have carries' : Carries role 100 (Arrival.bytes acts) (single ++ [.finish]) := .bytewise role 100 _
  have agree := (bytes_decide fresh 100 (Arrival.bytes acts)).2 shown decides
  have enough : (Arrival.bytes acts).length + (acts ++ [Arrival.finish]).length ≤ (List.replicate 1000 true).length := by
    rw [length, List.length_replicate]
    decide
  have enough' : (Arrival.bytes acts).length + (single ++ [Arrival.finish]).length ≤ (List.replicate 1000 false).length := by
    rw [List.length_append, List.length_map, length, List.length_replicate]
    decide
  exact ⟨fresh, decides, carries, carries', agree _ _ carries enough, agree _ _ carries' enough'⟩

end Stream
end NoiseLink
