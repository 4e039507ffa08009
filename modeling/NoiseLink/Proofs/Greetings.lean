import NoiseLink.Peer.Config
import NoiseLink.Proofs.Blame

namespace NoiseLink

variable {S : Suite}

/-- What is looked at before a node is started. The greeting is not. -/
theorem Config.validate_eq_ok_iff {config : Config S} : config.validate = .ok () ↔
    config.limit ≤ maxMessageSize ∧ config.timeout.isZero = false ∧ (config.listen ≠ none ∨ config.contacts ≠ []) := by
  rw [validate, fault?]
  by_cases large : config.limit > maxMessageSize
  · rw [if_pos large]
    exact iff_of_false nofun fun h => absurd h.1 (Nat.not_le.2 large)
  · rw [if_neg large]
    cases timeout : config.timeout.isZero with
    | true => exact iff_of_false nofun fun h => absurd h.2.1 nofun
    | false =>
        cases config.listen <;> cases config.contacts <;> simp [Nat.le_of_not_lt large]

namespace Stream

variable {role : Role S} {limit : Nat} {arrivals : List Arrival} {s : Stream S}

theorem serve_greeted {text : String} {w : Writer S} (greeted : s.writer.greet (some text) = (.ok (), w)) :
    s.serve (some text) = ((s.serve none).1, (s.serve none).2.1, w.written) := by
  rw [serve, greeted]
  rfl

theorem serve_refused {text : String} {e : StreamError}
    (refused : (s.writer.greet (some text)).1 = .error e) :
    s.serve (some text) = (0, .failed e, s.writer.written) := by
  have unsent : (s.writer.greet (some text)).2.written = s.writer.written := by
    simp only [Writer.greet, Writer.writeFrame] at refused ⊢
    generalize s.writer.encoder.encode (Text.utf8 text.toList) = r at refused
    obtain ⟨err | record, enc⟩ := r
    · rfl
    · cases refused
  rw [serve]
  generalize s.writer.greet (some text) = r at refused unsent
  obtain ⟨answer, w⟩ := r
  cases refused
  rw [← unsent]

/-- On a new stream a payload that fits becomes one record, which everyone opens that shares the state of the writer. -/
theorem writeFrame_connect (sealing : S.Sealing) (made : role.Made) (connected : connect role limit arrivals = .done s)
    {p : Bytes} (fits : p.length ≤ min limit maxMessageSize) :
    ∃ record w, s.writer.writeFrame p = (.ok (), w) ∧ w.written = s.writer.written ++ record ∧
      (s.writer.encoder.encode p).1 = .ok record ∧
      ∀ o : Opener S, o.cipher = s.writer.encoder.sealer.cipher → (o.decryptMessage record).1 = .ok p := by
  have attempt := attempt_connect made limit arrivals
  rw [connected] at attempt
  cases attempt with
  | @done taken inbound split written rest remote outward inward faces =>
      have small : p.length ≤ maxMessageSize := fits.trans (Nat.min_le_right _ _)
      have encoded := outward.encode_sealer 0 (Nat.min_le_right limit _) fits
      refine ⟨_, _, outward.writeFrame_sealer 0 (Nat.le_min.2 ⟨fits, small⟩) written, rfl, congrArg Prod.fst encoded, ?_⟩
      intro o same
      obtain ⟨header, body, o', whole, -, size, length, opened⟩ :=
        opens_of_encrypt same.symm sealing (outward.encrypt_sealer 0 small)
      exact congrArg Prod.fst (Opener.decryptMessage_eq_ok_iff.2 ⟨header, body, _, o', whole, size, length, opened⟩)

end Stream

namespace Settings

theorem handle_established {settings : Settings} {role : Role S} {socket : Socket} {stream : Stream S} {n : Nat}
    {ending : Reading} {sent : Bytes} (connected : settings.connect role socket = .done stream)
    (served : stream.serve settings.greeting = (n, ending, sent)) :
    settings.handle role socket =
      ⟨.connected socket.address stream.remote :: (Status.ofEnding socket.address ending).toList, n, sent,
        (Status.ofEnding (S := S) socket.address ending).isSome⟩ := by
  simp only [handle, connected, served]
  cases Status.ofEnding (S := S) socket.address ending <;> rfl

def ungreeted (settings : Settings) : Settings := { settings with greeting := none }

/-- The greeting `text` goes out as one record on a connection that has been established as `stream`, and is all that
goes out. -/
structure Greets (settings : Settings) (text : String) (role : Role S) (socket : Socket) (stream : Stream S) : Prop where
  sent : ∃ record, (stream.writer.encoder.encode (Text.utf8 text.toList)).1 = .ok record ∧
    (settings.handle role socket).sent = stream.writer.written ++ record ∧
    ∀ o : Opener S, o.cipher = stream.writer.encoder.sealer.cipher →
      (o.decryptMessage record).1 = .ok (Text.utf8 text.toList)
  unread : ∀ reader, ({ stream with reader }.serve (some text)).2.2 = (settings.handle role socket).sent
  reported : settings.handle role socket =
    { settings.ungreeted.handle role socket with sent := (settings.handle role socket).sent }
  /-- If the connection is aborted, it is for what the remote end has sent. -/
  owed : ∀ st ∈ (settings.handle role socket).statuses, ∀ e, st.error = some (.connectionAborted e) →
    ∃ taken later, socket.inbound = taken ++ later ∧ Stream.Owed role (Arrival.bytes taken) e

variable {settings : Settings} {text : String} (greets : settings.greeting = some text) {role : Role S} (made : role.Made)
  {socket : Socket} {stream : Stream S} (connected : settings.connect role socket = .done stream)
include greets made connected

theorem greets_of_fits (sealing : S.Sealing) (fits : (Text.utf8 text.toList).length ≤ min settings.limit maxMessageSize) :
    settings.Greets text role socket stream := by
  obtain ⟨record, w, wrote, written, encoded, opens⟩ := Stream.writeFrame_connect sealing made connected fits
  have served (reader : Reader S) : ({ stream with reader }.serve (some text)) = _ := Stream.serve_greeted wrote
  have here := served stream.reader
  rw [← greets] at here
  have handled := handle_established connected here
  have bare : settings.ungreeted.handle role socket = _ := handle_established connected rfl
  refine ⟨⟨record, encoded, ?_, opens⟩, fun reader => ?_, ?_, fun st mem e aborted => ?_⟩
  · rw [handled, written]
  · rw [served, handled]
  · rw [bare, handled]
    rfl
  · rcases (settings.aborts made socket.inbound socket.address).owed st mem e aborted with owed | refused
    · exact owed
    · cases refused with
      | greeting greets' large =>
          cases greets.symm.trans greets'
          exact absurd large (Nat.not_lt.2 fits)

/-- A greeting that is refused ends the connection, before anything is sent or read. -/
theorem handle_of_large (large : min settings.limit maxMessageSize < (Text.utf8 text.toList).length) :
    settings.handle role socket = ⟨[.connected socket.address stream.remote, .disconnected socket.address
      (some (.connectionAborted (.link (.messageTooLarge (Text.utf8 text.toList).length))))], 0, stream.writer.written,
      true⟩ := by
  obtain ⟨stands, unshut⟩ := Stream.stands_connect made connected
  have served := Stream.serve_refused ((stands.greet_iff unshut text _).2 ⟨large, rfl⟩)
  rw [← greets] at served
  exact handle_established connected served

omit greets made connected in
theorem Greets.statuses_ne (greeted : settings.Greets text role socket stream) (address : String) (remote : S.Point)
    (n : Nat) : (settings.handle role socket).statuses ≠
      [.connected address remote, .disconnected address (some (.connectionAborted (.link (.messageTooLarge n))))] := by
  intro same
  have mem : .disconnected address (some (.connectionAborted (.link (.messageTooLarge n)))) ∈
      (settings.handle role socket).statuses := by
    rw [same]
    exact List.mem_cons_of_mem _ List.mem_cons_self
  obtain ⟨taken, later, -, err, -, -, blamed | blamed⟩ := greeted.owed _ mem _ rfl
  · cases blamed
  · cases blamed

end Settings

/-- A greeting in a configuration that was accepted is sent, in one record and before anything is read, on each
connection that is established, if it is not above the limit of the configuration. Otherwise nothing is sent and the
connection ends, whatever the remote end does. -/
theorem greeting_sent_iff_fits (sealing : S.Sealing) {config : Config S} (valid : config.validate = .ok ()) {text : String}
    (greets : config.greeting = some text) {role : Role S} (made : role.Made) {socket : Socket} {stream : Stream S}
    (connected : config.settings.connect role socket = .done stream) :
    ((Text.utf8 text.toList).length ≤ config.limit ↔ config.settings.Greets text role socket stream) ∧
    (config.limit < (Text.utf8 text.toList).length ↔
      config.settings.handle role socket = ⟨[.connected socket.address stream.remote, .disconnected socket.address
        (some (.connectionAborted (.link (.messageTooLarge (Text.utf8 text.toList).length))))], 0, stream.writer.written,
        true⟩) := by
  have limit : min config.settings.limit maxMessageSize = config.limit :=
    Nat.min_eq_left (Config.validate_eq_ok_iff.1 valid).1
  have greets' : config.settings.greeting = some text := greets
  have sent := Settings.greets_of_fits greets' made connected sealing
  have refused := Settings.handle_of_large greets' made connected
  rw [limit] at sent refused
  refine ⟨⟨sent, fun greeted => ?_⟩, refused, fun same => ?_⟩
  · by_contra large
    exact greeted.statuses_ne _ _ _ (congrArg Handled.statuses (refused (Nat.lt_of_not_le large)))
  · by_contra fits
    exact (sent (Nat.le_of_not_lt fits)).statuses_ne _ _ _ (congrArg Handled.statuses same)

section Dialing

def Secrets.dialing (k : Secrets S) (limit : Nat) : Config S :=
  ⟨none, k.initiator, ⟨10, 0⟩, limit, [⟨"127.0.0.1:9735", S.publicKey k.responder⟩], some "hello", none⟩

def Secrets.answers (k : Secrets S) : Socket :=
  ⟨"127.0.0.1:9735", k.transcript.actTwo.map (fun b => .data [b]) ++ [.finish]⟩

theorem Secrets.connect_dialing (k : Secrets S) (lawful : S.Lawful) (limit : Nat) :
    ∃ stream, (k.dialing limit).settings.connect (.initiator k.initiatorSide) k.answers = .done stream := by
  have faces := k.initiator_faces lawful []
  rw [List.append_nil] at faces
  have carries := Stream.Carries.bytewise (.initiator k.initiatorSide) limit k.transcript.actTwo
  obtain ⟨stream, connected, -⟩ := faces.exists_done (.initiator _ _ _) carries
  exact ⟨stream, connected⟩

theorem length_hello : (Text.utf8 "hello".toList).length = 5 := by decide

theorem greeting_sent_iff_fits_hello :
    let k := Secrets.vectors
    let role : Role .standard := .initiator k.initiatorSide
    Suite.standard.Sealing ∧ (k.dialing 5).validate = .ok () ∧ (k.dialing 5).greeting = some "hello" ∧ role.Made ∧
      ∃ stream, (k.dialing 5).settings.connect role k.answers = .done stream ∧
        (k.dialing 5).settings.Greets "hello" role k.answers stream := by
  intro k role
  have sealing := Suite.standard_sealing
  have valid : (k.dialing 5).validate = .ok () := rfl
  have made : role.Made := (Role.Fresh.initiator _ _ _).made
  obtain ⟨stream, connected⟩ := k.connect_dialing Suite.standard_lawful 5
  have sent := (greeting_sent_iff_fits sealing valid rfl made connected).1.1 (by rw [length_hello]; decide)
  exact ⟨sealing, valid, rfl, made, stream, connected, sent⟩

/-- Where four bytes are allowed, a configuration that was accepted makes a connection end, and the greeting is not
sent. -/
theorem accepted_greeting_unsent :
    let k := Secrets.vectors
    let role : Role .standard := .initiator k.initiatorSide
    (k.dialing 4).validate = .ok () ∧ (k.dialing 4).greeting = some "hello" ∧
      ∃ stream, (k.dialing 4).settings.connect role k.answers = .done stream ∧
        ((k.dialing 4).settings.handle role k.answers).sent = stream.writer.written ∧
        ((k.dialing 4).settings.handle role k.answers).statuses = [.connected "127.0.0.1:9735" stream.remote,
          .disconnected "127.0.0.1:9735" (some (.connectionAborted (.link (.messageTooLarge 5))))] ∧
        ¬(k.dialing 4).settings.Greets "hello" role k.answers stream := by
  intro k role
  obtain ⟨stream, connected⟩ := k.connect_dialing Suite.standard_lawful 4
  have large : min 4 maxMessageSize < (Text.utf8 "hello".toList).length := by
    rw [length_hello]
    decide
  have made : role.Made := (Role.Fresh.initiator _ _ _).made
  have greets : (k.dialing 4).settings.greeting = some "hello" := rfl
  have handled := Settings.handle_of_large greets made connected large
  rw [length_hello] at handled
  refine ⟨rfl, rfl, stream, connected, ?_, ?_, fun greeted => ?_⟩
  · rw [handled]
  · rw [handled]
    rfl
  · exact greeted.statuses_ne _ _ _ (congrArg Handled.statuses handled)

end Dialing

end NoiseLink
