import NoiseLink.Peer.Handler
import NoiseLink.Proofs.Segmentation

namespace NoiseLink

variable {S : Suite}

/-- What a handshake that ends so is reported with. Only an act that was rejected is held against the peer. -/
def Halt.refusal : Halt → PeerError
  | between => .network .socketClosed
  | inside expected received => .network (.link (.truncatedRecord expected received))
  | rejected e => .handshakeFailed (.link (.noise e))

def Halt.disconnection : Halt → Option PeerError
  | between => none
  | inside expected received => some (.network (.link (.truncatedRecord expected received)))
  | rejected e => some (.connectionAborted (.link (.noise e)))

theorem Halt.ofHandshake_error {halt : Halt} (h : ∀ e, halt = .rejected e → e.Rejection) :
    PeerError.ofHandshake halt.error = halt.refusal := by
  cases halt with
  | between | inside => rfl
  | rejected e =>
      have blamed : (Halt.rejected e).error.isHandshakeFailure = true := (h e rfl).isHandshakeFailure
      rw [PeerError.ofHandshake, if_pos blamed]
      rfl

theorem Halt.ofEnding_error (halt : Halt) (address : String) :
    Status.ofEnding address (.failed halt.error) = some (.disconnected (S := S) address halt.disconnection) := by
  cases halt <;> rfl

def Settings.Fits (settings : Settings) : Prop :=
  ∀ text, settings.greeting = some text → (Text.utf8 text.toList).length ≤ min settings.limit maxMessageSize

theorem Epoch.writeFrame_sealer (e : Epoch S) (i : Nat) {limit : Nat} {payload : Bytes}
    (fits : payload.length ≤ min limit maxMessageSize) (written : Bytes) :
    (⟨⟨e.sealer i, limit⟩, written⟩ : Writer S).writeFrame payload =
      (.ok (), ⟨⟨e.sealer (i + 1), limit⟩, written ++ (e.header i payload ++ e.body i payload)⟩) := by
  obtain ⟨within, small⟩ := Nat.le_min.1 fits
  simp only [Writer.writeFrame, Encoder.encode, gt_iff_lt, if_neg (Nat.not_lt.2 within), e.encrypt_sealer i small]

theorem Stream.serve_of_reached {limit few : Nat} {written rest tail : Bytes} {remote : S.Point}
    {outward inward : Epoch S} {stream : Stream S} {records payloads : List Bytes} {halt : Halt}
    (reached : Reached limit written few (.done remote outward inward rest) (.done stream))
    (holds : inward.Holds 0 rest records payloads tail halt) {greeting : Option String}
    (fits : ∀ text, greeting = some text → (Text.utf8 text.toList).length ≤ min limit maxMessageSize) :
    (stream.serve greeting).1 = records.length ∧ (stream.serve greeting).2.1 = .failed halt.error := by
  obtain ⟨returned, ended⟩ := reached.readAll holds
  have greeted : ∃ w, stream.writer.greet greeting = (.ok (), w) := by
    cases reached
    cases greeting with
    | none => exact ⟨_, rfl⟩
    | some text => exact ⟨_, outward.writeFrame_sealer 0 (fits text rfl) written⟩
  obtain ⟨w, greeted⟩ := greeted
  simp only [serve, greeted, returned, ended, holds.opens.length_eq]
  exact ⟨trivial, trivial⟩

namespace Settings

variable {settings : Settings} {role : Role S} (fresh : role.Fresh) {script written : Bytes} {arrivals : List Arrival}
  (carries : Stream.Carries role settings.limit script arrivals) (address : String)
include fresh carries

theorem handle_halted {halt : Halt} (faces : role.Faces script written (.halted halt)) :
    settings.handle role ⟨address, arrivals⟩ = ⟨[.handshakeFailed address halt.refusal], 0, written, true⟩ := by
  have reached := Stream.reached_connect fresh faces carries
  have blamed : ∀ e, halt = .rejected e → e.Rejection := by
    rintro e rfl
    obtain ⟨n, listens⟩ := fresh.listens
    obtain ⟨answers, meets, -⟩ := faces
    exact meets.rejection listens
  rw [handle]
  simp only [Settings.connect]
  generalize Stream.connect role settings.limit arrivals = c at reached
  cases reached
  rw [Status.ofConnected, Halt.ofHandshake_error blamed]
  rfl

theorem handle_done {rest tail : Bytes} {remote : S.Point} {outward inward : Epoch S}
    {records payloads : List Bytes} {halt : Halt} (fits : settings.Fits)
    (faces : role.Faces script written (.done remote outward inward rest))
    (holds : inward.Holds 0 rest records payloads tail halt) :
    (settings.handle role ⟨address, arrivals⟩).statuses =
        [.connected address remote, .disconnected address halt.disconnection] ∧
      (settings.handle role ⟨address, arrivals⟩).received = records.length ∧
      (settings.handle role ⟨address, arrivals⟩).ended = true := by
  have reached := Stream.reached_connect fresh faces carries
  simp only [handle, Settings.connect]
  generalize Stream.connect role settings.limit arrivals = c at reached
  cases c with
  | failed | waiting => cases reached
  | done stream =>
      have fits' : ∀ text, settings.greeting = some text →
          (Text.utf8 text.toList).length ≤ min (min (min settings.limit maxMessageSize) maxMessageSize) maxMessageSize := by
        intro text greets
        have small := fits text greets
        omega
      obtain ⟨counted, ended⟩ := Stream.serve_of_reached reached holds fits'
      have remote_eq : stream.remote = remote := by
        cases reached
        rfl
      simp only [counted, ended, Halt.ofEnding_error, Status.ofConnected, remote_eq]
      exact ⟨trivial, trivial, trivial⟩

end Settings

/-- What is reported about a connection, as its script has it. -/
structure Reports (address : String) (role : Role S) (script : Bytes) (h : Handled S) : Prop where
  ended : h.ended = true
  shape : (∃ e, h.statuses = [.handshakeFailed address e] ∧ h.received = 0) ∨
    ∃ remote e, h.statuses = [.connected address remote, .disconnected address e]
  refused : ∀ e, h.statuses = [.handshakeFailed address e] ↔
    ∃ written halt, role.Faces script written (.halted halt) ∧ e = halt.refusal
  connected : ∀ remote e, h.statuses = [.connected address remote, .disconnected address e] ↔
    ∃ written outward inward rest records payloads tail halt,
      role.Faces script written (.done remote outward inward rest) ∧
      inward.Holds 0 rest records payloads tail halt ∧ e = halt.disconnection
  counted : ∀ {written remote outward inward rest records payloads tail halt},
    role.Faces script written (.done remote outward inward rest) → inward.Holds 0 rest records payloads tail halt →
      h.received = records.length

/-- What a node reports about a connection is decided by the bytes of the remote end, and tells in which way they end:
with an act that is rejected, inside an act or between two, with a record that is forged, inside a record, or where the
next record would begin. -/
theorem reports_decided {role : Role S} (fresh : role.Fresh) {settings : Settings} (fits : settings.Fits)
    {script : Bytes} {arrivals : List Arrival} (carries : Stream.Carries role settings.limit script arrivals)
    (address : String) : Reports address role script (settings.handle role ⟨address, arrivals⟩) := by
  obtain ⟨n, listens⟩ := fresh.listens
  obtain ⟨answers, meeting, meets⟩ := listens.exists_meets script
  have faces : role.Faces script (role.opening.1 ++ answers) meeting := ⟨answers, meets, rfl⟩
  cases meeting with
  | halted halt =>
      have handled := Settings.handle_halted fresh carries address faces
      rw [handled]
      refine ⟨rfl, .inl ⟨_, rfl, rfl⟩, fun e => ⟨fun same => ?_, ?_⟩, fun remote e => ⟨nofun, ?_⟩, ?_⟩
      · cases same
        exact ⟨_, halt, faces, rfl⟩
      · rintro ⟨written, halt', faces', rfl⟩
        have handled' := Settings.handle_halted fresh carries address faces'
        exact congrArg Handled.statuses (handled.symm.trans handled')
      · rintro ⟨written, outward, inward, rest, records, payloads, tail, halt', faces', holds, rfl⟩
        obtain ⟨statuses, -⟩ := Settings.handle_done fresh carries address fits faces' holds
        rw [handled] at statuses
        exact statuses
      · intro written remote outward inward rest records payloads tail halt' faces' holds
        obtain ⟨statuses, -⟩ := Settings.handle_done fresh carries address fits faces' holds
        rw [handled] at statuses
        cases statuses
  | done remote outward inward rest =>
      obtain ⟨records, payloads, tail, halt, holds⟩ := Epoch.exists_holds (e := inward) 0 rest
      obtain ⟨statuses, received, ended⟩ := Settings.handle_done fresh carries address fits faces holds
      refine ⟨ended, .inr ⟨_, _, statuses⟩, fun e => ⟨fun same => ?_, ?_⟩, fun remote' e => ⟨fun same => ?_, ?_⟩, ?_⟩
      · rw [statuses] at same
        cases same
      · rintro ⟨written, halt', faces', rfl⟩
        rw [Settings.handle_halted fresh carries address faces']
      · rw [statuses] at same
        cases same
        exact ⟨_, _, _, _, _, _, _, _, faces, holds, rfl⟩
      · rintro ⟨written, outward', inward', rest', records', payloads', tail', halt', faces', holds', rfl⟩
        exact (Settings.handle_done fresh carries address fits faces' holds').1
      · intro written remote' outward' inward' rest' records' payloads' tail' halt' faces' holds'
        exact (Settings.handle_done fresh carries address fits faces' holds').2.1

theorem reports_decided_greeting :
    let k := Secrets.vectors
    let role := Role.initiator k.initiatorSide
    let settings : Settings := ⟨⟨10, 0⟩, 100, some "hi"⟩
    let script := k.transcript.actTwo ++ (k.inward.records 0 [[1, 2, 3], [4]]).flatten
    let arrivals := script.map (fun b => Arrival.data [b]) ++ [.finish]
    Role.Fresh role ∧ settings.Fits ∧ Stream.Carries role settings.limit script arrivals ∧
      (settings.handle role ⟨"127.0.0.1:9735", arrivals⟩).statuses =
        [.connected "127.0.0.1:9735" (Suite.standard.publicKey k.responder), .disconnected "127.0.0.1:9735" none] ∧
      (settings.handle role ⟨"127.0.0.1:9735", arrivals⟩).received = 2 := by
  intro k role settings script arrivals
  have lawful := Suite.standard_lawful
  have fresh : Role.Fresh role := .initiator _ _ _
  have fits : settings.Fits := by
    rintro _ ⟨⟩
    decide
  have carries : Stream.Carries role settings.limit script arrivals := .bytewise role _ script
  have faces := k.initiator_faces lawful (k.inward.records 0 [[1, 2, 3], [4]]).flatten
  have holds : k.inward.Holds 0 (k.inward.records 0 [[1, 2, 3], [4]]).flatten (k.inward.records 0 [[1, 2, 3], [4]])
      [[1, 2, 3], [4]] [] .between :=
    ⟨(List.append_nil _).symm, Epoch.opens_records lawful.toSealing 0 (by decide), .between⟩
  have reports := reports_decided fresh fits carries "127.0.0.1:9735"
  have statuses := (reports.connected (Suite.standard.publicKey k.responder) none).2
    ⟨_, _, _, _, _, _, _, _, faces, holds, rfl⟩
  have received := (reports.counted faces holds).trans holds.opens.length_eq
  exact ⟨fresh, fits, carries, statuses, received⟩

end NoiseLink
