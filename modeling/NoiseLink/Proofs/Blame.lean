import NoiseLink.Proofs.ArrivalFaults
import NoiseLink.Proofs.ConnectionReports
import NoiseLink.Proofs.RefusedSends

namespace NoiseLink

variable {S : Suite}

theorem Encoder.encode_eq_error_iff {enc : Encoder S} (stands : enc.Stands) {p : Bytes} {err : LinkError} :
    (enc.encode p).1 = .error err ↔
      enc.limit < p.length ∧ err = .messageTooLarge p.length ∨
        p.length ≤ enc.limit ∧ enc.sealer.cipher.isErased = true ∧ err = .noise .keyErased := by
  obtain ⟨sealer, limit⟩ := enc
  obtain ⟨fits, kept⟩ := stands
  by_cases large : limit < p.length
  · have refused : (⟨sealer, limit⟩ : Encoder S).encode p = (.error (.messageTooLarge p.length), ⟨sealer, limit⟩) :=
      if_pos large
    rw [refused]
    constructor
    · rintro ⟨⟩
      exact .inl ⟨large, rfl⟩
    · rintro (⟨-, rfl⟩ | ⟨small, -⟩)
      · rfl
      · exact absurd large (Nat.not_lt.2 small)
  · have small := Nat.le_of_not_lt large
    cases kept with
    | live e i =>
        have encoded := e.encode_sealer i fits small
        refine iff_of_false (fun failed => ?_) ?_
        · cases (congrArg Prod.fst encoded).symm.trans failed
        · rintro (⟨large', -⟩ | ⟨-, gone, -⟩)
          · exact large large'
          · exact Sealer.not_isErased_live e i gone
    | erased c =>
        rw [encode_of_isErased rfl small fits]
        constructor
        · rintro ⟨⟩
          exact .inr ⟨small, rfl, rfl⟩
        · rintro (⟨large', -⟩ | ⟨-, -, rfl⟩)
          · exact absurd large' large
          · rfl

namespace Writer

theorem writeFrame_eq_error_iff {w : Writer S} {p : Bytes} {e : StreamError} :
    (w.writeFrame p).1 = .error e ↔ ∃ err, (w.encoder.encode p).1 = .error err ∧ e = .link err := by
  rw [writeFrame]
  rcases w.encoder.encode p with ⟨err | record, enc⟩ <;> simp [eq_comm]

theorem encoder_writeFrame (w : Writer S) (p : Bytes) : (w.writeFrame p).2.encoder = (w.encoder.encode p).2 := by
  rw [writeFrame]
  rcases w.encoder.encode p with ⟨err | record, enc⟩ <;> rfl

end Writer

def Reading.result : Reading → Except StreamError (Option Bytes)
  | frame payload => .ok (some payload)
  | waiting => .ok none
  | failed e => .error e

theorem Reading.result_eq_error_iff {x : Reading} {e : StreamError} : x.result = .error e ↔ x = .failed e := by
  cases x <;> simp [result]

namespace Stream

inductive Call where
  | writeFrame (payload : Bytes)
  | shutdown
  | readFrame
  | tryReadFrame

def call (s : Stream S) : Call → Except StreamError (Option Bytes) × Stream S
  | .writeFrame p => ((s.writer.writeFrame p).1.map fun _ => none, { s with writer := (s.writer.writeFrame p).2 })
  | .shutdown => (.ok none, { s with writer := s.writer.shutdown })
  | .readFrame => (s.reader.readFrame.1.result, { s with reader := s.reader.readFrame.2 })
  | .tryReadFrame => (s.reader.tryReadFrame.1.result, { s with reader := s.reader.tryReadFrame.2 })

/-- A payload that is refused for what the caller has asked for. -/
inductive Refuses (limit : Nat) (before : List Call) : Call → StreamError → Prop
  | large {p : Bytes} (large : limit < p.length) : Refuses limit before (.writeFrame p) (.link (.messageTooLarge p.length))
  | shut {p : Bytes} (fits : p.length ≤ limit) (shut : .shutdown ∈ before) :
      Refuses limit before (.writeFrame p) (.link (.noise .keyErased))

theorem Refuses.isProtocolFailure {limit : Nat} {before : List Call} {c : Call} {e : StreamError}
    (h : Refuses limit before c e) : e.isProtocolFailure = true := by
  cases h <;> rfl

/-- A record that was received does not open, which is what the error tells of, or of the key that went with it. -/
def Owed (role : Role S) (received : Bytes) (e : StreamError) : Prop :=
  ∃ err, role.Forged received err ∧ err.isAuthenticationFailure = true ∧
    (e = .link (.noise err) ∨ e = .link (.noise .keyErased))

theorem ReadFault.owed {role : Role S} {received : Bytes} {inbound : List Arrival} {e : StreamError}
    (h : ReadFault role received inbound e) (failure : e.isProtocolFailure = true) : Owed role received e := by
  cases h with
  | ended closed ends =>
      rw [ends.isProtocolFailure] at failure
      cases failure
  | forged forged => exact ⟨_, forged, forged.isAuthenticationFailure, .inl rfl⟩
  | keyless forged => exact ⟨_, forged, forged.isAuthenticationFailure, .inr rfl⟩

structure Stands (role : Role S) (limit : Nat) (arrivals : List Arrival) (s : Stream S) : Prop where
  limit : s.writer.encoder.limit = limit
  encoder : s.writer.encoder.Stands
  reader : ∃ taken, arrivals = taken ++ s.reader.inbound ∧ Behind role (Arrival.bytes taken) s.reader.decoder

def Shut (s : Stream S) : Prop := s.writer.encoder.sealer.cipher.isErased = true

section Runs

variable {role : Role S} {limit : Nat} {arrivals : List Arrival} {s : Stream S}

theorem stands_connect (made : role.Made) (connected : connect role limit arrivals = .done s) :
    Stands role (min limit maxMessageSize) arrivals s ∧ ¬s.Shut := by
  have attempt := attempt_connect made limit arrivals
  rw [connected] at attempt
  cases attempt with
  | @done taken inbound split written rest remote outward inward faces =>
      have reached : inward.Reached rest [] (inward.between 0 rest) := .between (List.nil_append _).symm .nil
      refine ⟨⟨rfl, ⟨Nat.min_le_right _ _, .live outward 0⟩, taken, split, .live faces reached⟩, ?_⟩
      exact Sealer.not_isErased_live outward 0

theorem Stands.read (stands : Stands role limit arrivals s) (patient : Bool) :
    let read := Reader.readFrom patient s.reader.decoder s.reader.inbound
    Stands role limit arrivals { s with reader := read.2 } ∧
      ∀ e, read.1 = .failed e → e.isProtocolFailure = true →
        ∃ taken, arrivals = taken ++ read.2.inbound ∧ Owed role (Arrival.bytes taken) e := by
  obtain ⟨taken, split, behind⟩ := stands.reader
  obtain ⟨more, takes⟩ := behind.readFrom patient s.reader.inbound
  have whole : Takes role [] arrivals _ _ (taken ++ more) := takes.after split
  refine ⟨⟨stands.limit, stands.encoder, taken ++ more, whole.split, whole.behind⟩, fun e failed failure => ?_⟩
  exact ⟨taken ++ more, whole.split, (whole.fault e failed).owed failure⟩

theorem Stands.call (stands : Stands role limit arrivals s) (c : Call) :
    Stands role limit arrivals (s.call c).2 ∧ ((s.call c).2.Shut ↔ s.Shut ∨ c = .shutdown) := by
  cases c with
  | writeFrame p =>
      obtain ⟨still, same⟩ := stands.encoder.encode p
      have kept := (s.writer.encoder.limit_encode p).trans stands.limit
      rw [← s.writer.encoder_writeFrame p] at still same kept
      exact ⟨⟨kept, still, stands.reader⟩, by simp [Shut, Stream.call, same]⟩
  | shutdown =>
      obtain ⟨still, gone⟩ := stands.encoder.call .erase
      exact ⟨⟨stands.limit, still, stands.reader⟩, iff_of_true rfl (.inr rfl)⟩
  | readFrame => exact ⟨(stands.read true).1, by simp [Shut, Stream.call]⟩
  | tryReadFrame => exact ⟨(stands.read false).1, by simp [Shut, Stream.call]⟩

theorem Stands.writeFrame_iff (stands : Stands role limit arrivals s) {before : List Call}
    (shut : s.Shut ↔ .shutdown ∈ before) (p : Bytes) (e : StreamError) :
    (s.call (.writeFrame p)).1 = .error e ↔ Refuses limit before (.writeFrame p) e := by
  have wrote : (s.call (.writeFrame p)).1 = .error e ↔ (s.writer.writeFrame p).1 = .error e := by
    simp only [Stream.call]
    cases (s.writer.writeFrame p).1 <;> simp [Except.map]
  rw [wrote, Writer.writeFrame_eq_error_iff]
  simp only [Encoder.encode_eq_error_iff stands.encoder, stands.limit]
  constructor
  · rintro ⟨err, ⟨large, rfl⟩ | ⟨fits, gone, rfl⟩, rfl⟩
    · exact .large large
    · exact .shut fits (shut.1 gone)
  · intro refuses
    cases refuses with
    | large large => exact ⟨_, .inl ⟨large, rfl⟩, rfl⟩
    | shut fits mem => exact ⟨_, .inr ⟨fits, shut.2 mem, rfl⟩, rfl⟩

/-- The protocol failures of the calls on a stream, with what they are owed to. A payload that is refused is always one
of them. -/
structure Traced (role : Role S) (limit : Nat) (arrivals : List Arrival) (stream : Stream S) : Prop where
  traced : ∀ before c e, ((Calls.run call stream before).call c).1 = .error e → e.isProtocolFailure = true →
    (∃ taken, arrivals = taken ++ ((Calls.run call stream before).call c).2.reader.inbound ∧
      Owed role (Arrival.bytes taken) e) ∨ Refuses limit before c e
  refused : ∀ before p e, ((Calls.run call stream before).call (.writeFrame p)).1 = .error e ↔
    Refuses limit before (.writeFrame p) e
  blamed : ∀ before p e, ((Calls.run call stream before).call (.writeFrame p)).1 = .error e → e.isProtocolFailure = true

theorem Stands.traced (stands : Stands role limit arrivals s) (unshut : ¬s.Shut) : Traced role limit arrivals s := by
  have stood : ∀ before, Stands role limit arrivals (Calls.run Stream.call s before) ∧
      ((Calls.run Stream.call s before).Shut ↔ .shutdown ∈ before) := fun before => by
    obtain ⟨last, shut⟩ := Calls.marked (M := Shut) (fun _ stands => Stands.call stands) stands before
    exact ⟨last, shut.trans (or_iff_right unshut)⟩
  have refused : ∀ before p e, ((Calls.run Stream.call s before).call (.writeFrame p)).1 = .error e ↔
      Refuses limit before (.writeFrame p) e := fun before => (stood before).1.writeFrame_iff (stood before).2
  refine ⟨fun before c e failed failure => ?_, refused, fun before p e failed => ?_⟩
  · cases c with
    | writeFrame p => exact .inr ((refused before p e).1 failed)
    | shutdown => cases failed
    | readFrame => exact .inl (((stood before).1.read true).2 e (Reading.result_eq_error_iff.1 failed) failure)
    | tryReadFrame => exact .inl (((stood before).1.read false).2 e (Reading.result_eq_error_iff.1 failed) failure)
  · exact ((refused before p e).1 failed).isProtocolFailure

theorem Stands.greet_iff (stands : Stands role limit arrivals s) (unshut : ¬s.Shut) (text : String) (e : StreamError) :
    (s.writer.greet (some text)).1 = .error e ↔
      limit < (Text.utf8 text.toList).length ∧ e = .link (.messageTooLarge (Text.utf8 text.toList).length) := by
  rw [Writer.greet, Writer.writeFrame_eq_error_iff]
  simp only [Encoder.encode_eq_error_iff stands.encoder, stands.limit]
  constructor
  · rintro ⟨err, ⟨large, rfl⟩ | ⟨-, gone, -⟩, rfl⟩
    · exact ⟨large, rfl⟩
    · exact absurd gone unshut
  · rintro ⟨large, rfl⟩
    exact ⟨_, .inl ⟨large, rfl⟩, rfl⟩

theorem Stands.readAll (stands : Stands role limit arrivals s) {e : StreamError}
    (failed : s.reader.readAll.2.1 = .failed e) (failure : e.isProtocolFailure = true) :
    ∃ taken later, arrivals = taken ++ later ∧ Owed role (Arrival.bytes taken) e := by
  obtain ⟨taken, split, behind⟩ := stands.reader
  obtain ⟨more, takes⟩ := behind.collect (s.reader.available + 1)
  have whole : Takes role [] arrivals _ _ (taken ++ more) := takes.after split
  exact ⟨taken ++ more, _, whole.split, (whole.fault e failed).owed failure⟩

theorem Stands.serve (stands : Stands role limit arrivals s) {greeting : Option String} {e : StreamError}
    (failed : (s.serve greeting).2.1 = .failed e) (failure : e.isProtocolFailure = true) :
    (∃ taken later, arrivals = taken ++ later ∧ Owed role (Arrival.bytes taken) e) ∨
      ∃ text, greeting = some text ∧ (s.writer.greet (some text)).1 = .error e := by
  rw [Stream.serve] at failed
  cases greeting with
  | none => exact .inl (stands.readAll failed failure)
  | some text =>
      generalize greeted : s.writer.greet (some text) = r at failed
      obtain ⟨answer, w⟩ := r
      cases answer with
      | ok => exact .inl (stands.readAll failed failure)
      | error err =>
          cases failed
          exact .inr ⟨text, rfl, by rw [greeted]⟩

end Runs
end Stream

def Status.error : Status S → Option PeerError
  | listenerShutdown e | dialFailed _ e | handshakeFailed _ e => some e
  | connected _ _ => none
  | disconnected _ e => e

theorem PeerError.ofHandshake_ne (e e' : StreamError) : ofHandshake e ≠ .connectionAborted e' := by
  rw [ofHandshake]
  split <;> simp

theorem PeerError.of_ofTransport {e e' : StreamError} (h : ofTransport e = .connectionAborted e') :
    e = e' ∧ e.isProtocolFailure = true := by
  rw [ofTransport] at h
  split at h
  · rename_i failure
    cases h
    exact ⟨rfl, failure⟩
  · cases h

theorem Status.of_ofEnding {address : String} {ending : Reading} {st : Status S} {e : StreamError}
    (ended : ofEnding address ending = some st) (aborted : st.error = some (.connectionAborted e)) :
    ending = .failed e ∧ e.isProtocolFailure = true := by
  cases ending with
  | frame | waiting => cases ended
  | failed err =>
      cases err with
      | socketClosed =>
          cases ended
          cases aborted
      | link | channelReceive | channelSend | system =>
          cases ended
          obtain ⟨rfl, failure⟩ := PeerError.of_ofTransport (Option.some.inj aborted)
          exact ⟨rfl, failure⟩

namespace Settings

inductive Refuses (settings : Settings) : StreamError → Prop
  | greeting {text : String} (greets : settings.greeting = some text)
      (large : min settings.limit maxMessageSize < (Text.utf8 text.toList).length) :
      Refuses settings (.link (.messageTooLarge (Text.utf8 text.toList).length))

/-- The connections that are reported as aborted, and what for. One that was to begin with a greeting that is refused is
always one of them. -/
structure Aborts (settings : Settings) (role : Role S) (arrivals : List Arrival) (address : String) : Prop where
  owed : ∀ st ∈ (settings.handle role ⟨address, arrivals⟩).statuses, ∀ e, st.error = some (.connectionAborted e) →
    (∃ taken later, arrivals = taken ++ later ∧ Stream.Owed role (Arrival.bytes taken) e) ∨ settings.Refuses e
  greeted : ∀ stream e, settings.connect role ⟨address, arrivals⟩ = .done stream → settings.Refuses e →
    (settings.handle role ⟨address, arrivals⟩).statuses =
        [.connected address stream.remote, .disconnected address (some (.connectionAborted e))] ∧
      (settings.handle role ⟨address, arrivals⟩).received = 0

theorem aborts {role : Role S} (made : role.Made) (settings : Settings) (arrivals : List Arrival) (address : String) :
    settings.Aborts role arrivals address := by
  constructor
  · intro st mem e aborted
    simp only [handle, Settings.connect] at mem
    cases connected : Stream.connect role settings.limit arrivals with
    | failed err written =>
        simp only [connected, Status.ofConnected, List.mem_singleton] at mem
        subst mem
        exact absurd (Option.some.inj aborted) (PeerError.ofHandshake_ne err e)
    | waiting l written =>
        simp only [connected, Status.ofConnected, List.mem_singleton] at mem
        subst mem
        cases aborted
    | done stream =>
        obtain ⟨stands, unshut⟩ := Stream.stands_connect made connected
        have served : (stream.serve settings.greeting).2.1 = .failed e → e.isProtocolFailure = true → _ :=
          stands.serve
        simp only [connected, Status.ofConnected] at mem
        generalize stream.serve settings.greeting = r at mem served
        obtain ⟨n, ending, sent⟩ := r
        cases ended : Status.ofEnding (S := S) address ending with
        | none =>
            simp only [ended, List.mem_singleton] at mem
            subst mem
            cases aborted
        | some last =>
            simp only [ended, List.mem_cons, List.not_mem_nil, or_false] at mem
            rcases mem with rfl | rfl
            · cases aborted
            · obtain ⟨failed, failure⟩ := Status.of_ofEnding ended aborted
              rcases served failed failure with owed | ⟨text, greets, refused⟩
              · exact .inl owed
              · obtain ⟨large, rfl⟩ := (stands.greet_iff unshut text e).1 refused
                exact .inr (.greeting greets large)
  · intro stream e connected refuses
    cases refuses with
    | @greeting text greets large =>
        obtain ⟨stands, unshut⟩ := Stream.stands_connect made connected
        have refused := (stands.greet_iff unshut text _).2 ⟨large, rfl⟩
        simp only [handle, connected, greets, Stream.serve]
        generalize stream.writer.greet (some text) = r at refused
        obtain ⟨answer, w⟩ := r
        cases refused
        exact ⟨rfl, rfl⟩

end Settings

/-- A protocol failure has its cause. An attempt to connect has one when an act that was received is rejected, or when its
role has been used before and cannot be started with. A call on a stream has one when a record that was received does not
open, or for a payload that is above the limit or comes after the writer was shut down; and such a payload always makes
one, whatever the remote end has sent. So a connection is reported as aborted for a record that does not open, or for a
greeting that is above the limit, and always for such a greeting. -/
theorem protocol_failures_traced {role : Role S} (made : role.Made) (arrivals : List Arrival) :
    (∀ limit e written, Stream.connect role limit arrivals = .failed e written → e.isProtocolFailure = true →
      (∃ taken later err, arrivals = taken ++ later ∧ role.Rejects (Arrival.bytes taken) err ∧
        err.isAuthenticationFailure = true ∧ e = .link (.noise err)) ∨
      ¬role.Fresh ∧ (e = .link (.noise .handshakeAborted) ∨ e = .link (.noise .unexpectedHandshakeMessage))) ∧
    (∀ limit stream, Stream.connect role limit arrivals = .done stream →
      Stream.Traced role (min limit maxMessageSize) arrivals stream) ∧
    ∀ (settings : Settings) (address : String), settings.Aborts role arrivals address := by
  refine ⟨fun limit e written failed failure => ?_, fun limit stream connected => ?_, fun settings address => ?_⟩
  · have attempt := Stream.attempt_connect made limit arrivals
    rw [failed] at attempt
    cases attempt with
    | ended closed ends =>
        rw [ends.isProtocolFailure] at failure
        cases failure
    | declined unfit refused =>
        refine .inr ⟨unfit, refused.imp ?_ ?_⟩
        · rintro rfl
          rfl
        · rintro rfl
          rfl
    | @rejected taken later split err bad _ faces => exact .inl ⟨taken, later, err, split, ⟨written, faces⟩, bad, rfl⟩
  · obtain ⟨stands, unshut⟩ := Stream.stands_connect made connected
    exact stands.traced unshut
  · exact settings.aborts made arrivals address

theorem protocol_failures_traced_version :
    let role : Role .standard := .responder Secrets.vectors.responderSide
    let arrivals := [Arrival.data (1 :: Bytes.zeros 49)]
    let e := NoiseError.unsupportedVersion .one 1
    role.Made ∧ Stream.connect role 100 arrivals = .failed (.link (.noise e)) [] ∧
      (StreamError.link (.noise e)).isProtocolFailure = true ∧
      ∃ taken later, arrivals = taken ++ later ∧ role.Rejects (Arrival.bytes taken) e := by
  intro role arrivals e
  have fresh : role.Fresh := .responder _ _
  have failed : Stream.connect role 100 arrivals = .failed (.link (.noise e)) [] := rfl
  refine ⟨fresh.made, failed, rfl, ?_⟩
  rcases (protocol_failures_traced fresh.made arrivals).1 100 _ [] failed rfl with
    ⟨taken, later, err, split, rejects, -, same⟩ | ⟨used, -⟩
  · cases same
    exact ⟨taken, later, split, rejects⟩
  · exact absurd fresh used

theorem Stream.Carries.bytes {role : Role S} {limit : Nat} {script : Bytes} {arrivals : List Arrival}
    (carries : Stream.Carries role limit script arrivals) : Arrival.bytes arrivals = script := by
  obtain ⟨⟨before, rfl, -, rfl⟩, -⟩ := carries
  rw [Arrival.bytes_append]
  exact List.append_nil _

theorem Role.Faces.exists_done {role : Role S} {script written rest : Bytes} {remote : S.Point} {outward inward : Epoch S}
    (faces : role.Faces script written (.done remote outward inward rest)) (fresh : role.Fresh) {limit : Nat}
    {arrivals : List Arrival} (carries : Stream.Carries role limit script arrivals) :
    ∃ stream, Stream.connect role limit arrivals = .done stream ∧
      Stream.Reached (min (min limit maxMessageSize) maxMessageSize) written (arrivals.length - 1)
        (.done remote outward inward rest) (.done stream) := by
  have reached := Stream.reached_connect fresh faces carries
  generalize Stream.connect role limit arrivals = c at reached
  cases c with
  | failed | waiting => cases reached
  | done stream => exact ⟨stream, rfl, reached⟩

/-- A script that leads to no rejection has no act and no record that is to be blamed on anyone. -/
theorem Role.Faces.blameless {role : Role S} {script written rest tail : Bytes} {remote : S.Point}
    {outward inward : Epoch S} (faces : role.Faces script written (.done remote outward inward rest)) (fresh : role.Fresh)
    {records payloads : List Bytes} {halt : Halt} (holds : inward.Holds 0 rest records payloads tail halt)
    (honest : ∀ e, halt.error ≠ .link (.noise e)) (e : NoiseError) : ¬role.Rejects script e ∧ ¬role.Forged script e := by
  have carries := Stream.Carries.bytewise role 0 script
  obtain ⟨stream, connected, reached⟩ := faces.exists_done fresh carries
  constructor
  · rintro ⟨written', faces'⟩
    have reached' := Stream.reached_connect fresh faces' carries
    rw [connected] at reached'
    cases reached'
  · rintro ⟨written', remote', outward', inward', rest', faces', records', payloads', tail', holds'⟩
    have reached' := Stream.reached_connect fresh faces' carries
    rw [connected] at reached'
    have ends := (reached.readAll holds).2.symm.trans (reached'.readAll holds').2
    exact honest e (Reading.failed.inj ends)

/-- The remote end completes the handshake and closes. A payload above the limit, a payload after the writer was shut down
and a greeting above the limit all make a protocol failure, though nothing that was received is rejected. -/
theorem refused_writes_blamed :
    let k := Secrets.vectors
    let role : Role .standard := .initiator k.initiatorSide
    let arrivals := k.transcript.actTwo.map (fun b => Arrival.data [b]) ++ [.finish]
    let settings : Settings := ⟨⟨10, 0⟩, 2, some "hello"⟩
    let large := StreamError.link (.messageTooLarge 3)
    let shut := StreamError.link (.noise .keyErased)
    (∀ e, ¬role.Rejects (Arrival.bytes arrivals) e ∧ ¬role.Forged (Arrival.bytes arrivals) e) ∧
    ∃ stream, Stream.connect role 2 arrivals = .done stream ∧
      (stream.call (.writeFrame [1, 2, 3])).1 = .error large ∧ large.isProtocolFailure = true ∧
      ((Calls.run Stream.call stream [.shutdown]).call (.writeFrame [])).1 = .error shut ∧
      shut.isProtocolFailure = true ∧
      (settings.handle role ⟨"127.0.0.1:9735", arrivals⟩).statuses = [.connected "127.0.0.1:9735" stream.remote,
        .disconnected "127.0.0.1:9735" (some (.connectionAborted (.link (.messageTooLarge 5))))] := by
  intro k role arrivals settings large shut
  have lawful := Suite.standard_lawful
  have fresh : role.Fresh := .initiator _ _ _
  have carries : Stream.Carries role 2 k.transcript.actTwo arrivals := .bytewise role 2 k.transcript.actTwo
  have faces := k.initiator_faces lawful []
  rw [List.append_nil] at faces
  have holds : k.inward.Holds 0 [] [] [] [] .between := ⟨rfl, .nil, .between⟩
  obtain ⟨stream, connected, -⟩ := faces.exists_done fresh carries
  obtain ⟨stands, unshut⟩ := Stream.stands_connect fresh.made connected
  have traced := stands.traced unshut
  have refused := (traced.refused [] [1, 2, 3] large).2 (.large (by decide))
  have refused' := (traced.refused [.shutdown] [] shut).2 (.shut (by decide) (by simp))
  have size : (Text.utf8 "hello".toList).length = 5 := by decide
  have longer : min 2 maxMessageSize < (Text.utf8 "hello".toList).length := by decide
  have greeted : settings.Refuses (.link (.messageTooLarge (Text.utf8 "hello".toList).length)) := .greeting rfl longer
  rw [size] at greeted
  have aborts := settings.aborts fresh.made arrivals "127.0.0.1:9735"
  refine ⟨fun e => ?_, stream, connected, refused, rfl, refused', rfl, (aborts.greeted stream _ connected greeted).1⟩
  rw [carries.bytes]
  exact faces.blameless fresh holds (fun e => by simp [Halt.error]) e

end NoiseLink
