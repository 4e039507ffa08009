import NoiseLink.Proofs.LinkStates
import NoiseLink.Proofs.NonceUse

namespace NoiseLink

variable {S : Suite}

inductive NoiseError.OfAct : NoiseError → Prop
  | rejected {e : NoiseError} (rejection : e.Rejection) : OfAct e
  | aborted : OfAct .handshakeAborted
  | unexpected : OfAct .unexpectedHandshakeMessage

theorem Turns.Lawful.ofAct {σ κ α : Type} {M : Turns σ κ α} (lawful : M.Lawful) {s : σ} (sound : M.Sound s)
    (calls : List κ) : ∀ x ∈ Calls.answers M.call s calls, ∀ e, x.2 = .error e → e.OfAct := by
  have kept := Calls.preserved M.call calls M.Sound (fun _ a => ∀ e, a = .error e → NoiseError.OfAct e)
    (fun s sound c _ => ⟨fun e failed => ?_, (lawful.step sound c).2⟩) sound
  · exact kept.1
  · have answered := lawful.answered sound c
    generalize M.call s c = r at answered failed
    obtain ⟨a, s'⟩ := r
    cases failed
    cases answered with
    | dead => exact .aborted
    | refused => exact .unexpected
    | failed turn rejection gone => exact .rejected rejection

namespace LinkError

inductive OfHandshake : LinkError → Prop
  | rejected {e : NoiseError} (rejection : e.Rejection) : OfHandshake (.noise e)
  | aborted : OfHandshake (.noise .handshakeAborted)

theorem OfHandshake.isHandshakeFailure {e : LinkError} (h : e.OfHandshake) : e.isHandshakeFailure = true := by
  cases h with
  | rejected rejection => exact rejection.isHandshakeFailure
  | aborted => rfl

inductive Forged : LinkError → Prop
  | length : Forged (.noise (.authenticationFailed .recordLength))
  | body : Forged (.noise (.authenticationFailed .recordBody))

theorem forged_of_isRecord {stage : Stage} (h : stage.isRecord = true) :
    Forged (.noise (.authenticationFailed stage)) := by
  cases stage with
  | recordLength => exact .length
  | recordBody => exact .body
  | actOne | actTwo | actThreeStaticKey | actThree => cases h

theorem error_of_map {α β : Type} {f : α → β} {x : Except LinkError α} {e : LinkError} (h : x.map f = .error e) :
    x = .error e := by
  cases x with
  | ok a => cases h
  | error err =>
      cases h
      rfl

end LinkError

theorem Decoder.truncated_of_finish {d : Decoder S} {e : LinkError} (h : d.finish = .error e) :
    ∃ expected received, e = .truncatedRecord expected received := by
  rw [Decoder.finish] at h
  split at h
  · split at h
    · cases h
    · cases h
      exact ⟨_, _, rfl⟩
  · cases h
    exact ⟨_, _, rfl⟩

namespace Link

inductive Fails : Call S → LinkError → Prop
  | large (payload : Bytes) : Fails (.encrypt payload) (.messageTooLarge payload.length)
  | forged {e : LinkError} (forged : e.Forged) : Fails .next e
  | truncated (expected received : Nat) : Fails .finish (.truncatedRecord expected received)
  | misplaced {c : Call S} {q : Phase} (belongs : c.phase = some q) (other : q ≠ .established) : Fails c .unexpectedState

theorem Fails.isHandshakeFailure {c : Call S} {e : LinkError} (h : Fails c e) : e.isHandshakeFailure = false := by
  cases h with
  | forged forged => cases forged <;> rfl
  | large | truncated | misplaced => rfl

/-- The errors of a link belong to its phase. -/
structure Classified (l : Link S) : Prop where
  fresh : l.phase = .fresh → ∀ role : Role S, role.Fresh → ∃ step, (l.start role).1 = .ok step
  handshake : l.phase = .handshake → ∀ b e, (l.feedHandshake b).1 = .error e →
    e.isHandshakeFailure = true ∧ e.OfHandshake
  established : l.phase = .established → ∀ c e, (l.call c).1 = .error e → e.isHandshakeFailure = false ∧ Fails c e

theorem ofHandshake_feedHandshake {l : Link S} (sound : l.Sound) (here : l.phase = .handshake) {b : Bytes} {e : LinkError}
    (failed : (l.feedHandshake b).1 = .error e) : e.OfHandshake := by
  cases sound with
  | fresh | established | closed => cases here
  | deaf deaf =>
      rw [(deaf.feedHandshake b).1] at failed
      cases failed
      exact .aborted
  | listening listens buffer remote limit =>
      have heard := listened listens buffer b remote limit
      generalize (handshaking _ buffer remote limit).feedHandshake b = r at heard failed
      cases heard with
      | short => cases failed
      | whole whole size acted =>
          cases acted with
          | rejected rejection =>
              cases failed
              exact .rejected rejection
          | answered | completed => cases failed

section Established

variable (outward : Epoch S) {inward : Epoch S} (i : Nat) {size : Nat} (fits : size ≤ maxMessageSize)
  {decoder : Decoder S} (follows : inward.Follows decoder) (remote : Option S.Point) (limit : Nat) {e : LinkError}

include fits in
theorem fails_encrypt {payload : Bytes}
    (failed : ((⟨.established ⟨outward.sealer i, size⟩ decoder, [], remote, limit⟩ : Link S).encrypt payload).1 =
      .error e) : e = .messageTooLarge payload.length := by
  by_cases large : payload.length > size
  · simp only [encrypt, Encoder.encode, if_pos large] at failed
    cases failed
    rfl
  · simp only [encrypt, outward.encode_sealer i fits (Nat.le_of_not_lt large)] at failed
    cases failed

include follows in
theorem fails_next
    (failed : (⟨.established ⟨outward.sealer i, size⟩ decoder, [], remote, limit⟩ : Link S).next.1 = .error e) :
    e.Forged := by
  have reading := follows.reading
  simp only [next] at failed
  generalize decoder.next = r at reading failed
  cases reading with
  | payload | missing => cases failed
  | failed record t =>
      cases failed
      exact LinkError.forged_of_isRecord record

end Established

theorem fails_call {l : Link S} (sound : l.Sound) (here : l.phase = .established) {c : Call S} {e : LinkError}
    (failed : (l.call c).1 = .error e) : Fails c e := by
  cases sound with
  | fresh | listening | closed => cases here
  | deaf deaf => exact absurd (deaf.phase.symm.trans here) nofun
  | @established outward inward i size fits decoder follows remote limit =>
      cases c with
      | withLimit | feed | close | split => cases failed
      | start role | feedHandshake b =>
          rw [call_of_phase_ne rfl (by rw [here]; exact nofun)] at failed
          cases failed
          exact .misplaced rfl nofun
      | encrypt payload =>
          rw [fails_encrypt outward i fits remote limit (LinkError.error_of_map failed)]
          exact .large payload
      | next => exact .forged (fails_next outward i follows remote limit (LinkError.error_of_map failed))
      | finish =>
          obtain ⟨expected, received, rfl⟩ := Decoder.truncated_of_finish (LinkError.error_of_map failed)
          exact .truncated expected received

theorem Sound.classified {l : Link S} (sound : l.Sound) : l.Classified where
  fresh here role new := by
    cases sound with
    | listening | established | closed => cases here
    | deaf deaf => exact absurd (deaf.phase.symm.trans here) nofun
    | fresh remote limit =>
        obtain ⟨step, remote', started, -⟩ := start_fresh new remote limit
        exact ⟨step, congrArg Prod.fst started⟩
  handshake here b e failed := by
    have ofHandshake := ofHandshake_feedHandshake sound here failed
    exact ⟨ofHandshake.isHandshakeFailure, ofHandshake⟩
  established here c e failed := by
    have fails := fails_call sound here failed
    exact ⟨fails.isHandshakeFailure, fails⟩

end Link

namespace Decoder

/-- What a run of a decoder fails with: with a text that does not open before anything else, and after that for want of
a key. -/
structure Confined (r : List (Except LinkError Bytes) × Decoder S) : Prop where
  first : ∀ err, fault r.1 = some err → err.Forged
  answers : ∀ err, .error err ∈ r.1 → (∃ n, err = .missingBytes n) ∨ err.Forged ∨ err = .noise .keyErased
  finish : ∀ err, r.2.finish = .error err → ∃ expected received, err = .truncatedRecord expected received

theorem confined_run {e : Epoch S} {d : Decoder S} (follows : e.Follows d) (inputs : List Input) :
    Confined (d.run inputs) := by
  induction inputs generalizing d with
  | nil => exact ⟨nofun, nofun, fun err => truncated_of_finish⟩
  | cons input inputs ih =>
      cases input with
      | feed b => exact ih (follows.feed b)
      | next =>
          have reading := follows.reading
          simp only [run]
          generalize d.next = r at reading
          cases reading with
          | payload p follows =>
              obtain ⟨first, answers, finish⟩ := ih follows
              refine ⟨first, fun err mem => ?_, finish⟩
              rcases List.mem_cons.1 mem with same | mem
              · cases same
              · exact answers err mem
          | missing n follows =>
              obtain ⟨first, answers, finish⟩ := ih follows
              refine ⟨first, fun err mem => ?_, finish⟩
              rcases List.mem_cons.1 mem with same | mem
              · cases same
                exact .inl ⟨n, rfl⟩
              · exact answers err mem
          | @failed stage record t =>
              have forged := LinkError.forged_of_isRecord record
              -- the key is gone with the record, and all that comes later fails for want of it
              have dead := (run_of_isErased (d := e.failed t) rfl inputs).1
              refine ⟨fun err failed => ?_, fun err mem => ?_, fun err => truncated_of_finish⟩
              · cases failed
                exact forged
              · rcases List.mem_cons.1 mem with same | mem
                · cases same
                  exact .inr (.inl forged)
                · cases dead _ mem
                  exact .inr (.inr rfl)

theorem follows_new {e : Epoch S} {calls : List Opener.Call} (usable : (e.openings calls).half.isErased = false) :
    e.Follows (new (e.openings calls).half) := by
  have opened := Ledger.opened_openings e calls
  generalize e.openings calls = l at opened usable
  cases opened with
  | live => exact .between _ []
  | erased => cases usable

end Decoder

namespace Encoder

inductive Call where
  | encode (payload : Bytes)
  | setLimit (size : Nat)
  | erase

def call (enc : Encoder S) : Call → Except LinkError Bytes × Encoder S
  | .encode payload => enc.encode payload
  | .setLimit size => (.ok [], enc.setLimit size)
  | .erase => (.ok [], enc.erase)

/-- An encoder whose key follows the schedule, or is gone. -/
def Keeps (e : Epoch S) (calls : List Call) (enc : Encoder S) : Prop :=
  enc.limit ≤ maxMessageSize ∧
    ((∃ i, enc.sealer = e.sealer i) ∨ enc.sealer.cipher.isErased = true ∧ .erase ∈ calls)

def Refuses (calls : List Call) (c : Call) (r : Except LinkError Bytes) : Prop :=
  ∀ err, r = .error err →
    (∃ payload, c = .encode payload ∧ err = .messageTooLarge payload.length) ∨
      err = .noise .keyErased ∧ .erase ∈ calls

theorem encode_of_isErased {enc : Encoder S} (gone : enc.sealer.cipher.isErased = true) {payload : Bytes}
    (small : payload.length ≤ enc.limit) (fits : enc.limit ≤ maxMessageSize) :
    enc.encode payload = (.error (.noise .keyErased), enc) := by
  have refused : enc.sealer.cipher.ready = .error .keyErased := if_pos gone
  have small' : payload.length ≤ maxMessageSize := Nat.le_trans small fits
  simp only [encode, if_neg (Nat.not_lt.2 small), Sealer.encrypt, if_neg (Nat.not_lt.2 small'), RecordCipher.encrypt,
    refused]

theorem Keeps.call {e : Epoch S} {calls : List Call} {enc : Encoder S} (keeps : Keeps e calls enc) {c : Call}
    (mem : c ∈ calls) : Refuses calls c (enc.call c).1 ∧ Keeps e calls (enc.call c).2 := by
  obtain ⟨fits, sealer⟩ := keeps
  cases c with
  | setLimit size => exact ⟨nofun, Nat.min_le_right _ _, sealer⟩
  | erase => exact ⟨nofun, fits, .inr ⟨rfl, mem⟩⟩
  | encode payload =>
      by_cases large : payload.length > enc.limit
      · have refused : enc.encode payload = (.error (.messageTooLarge payload.length), enc) := if_pos large
        rw [Encoder.call, refused]
        refine ⟨fun err failed => ?_, fits, sealer⟩
        cases failed
        exact .inl ⟨payload, rfl, rfl⟩
      · have small := Nat.le_of_not_lt large
        rcases sealer with ⟨i, live⟩ | ⟨gone, erased⟩
        · have encoded := e.encode_sealer i fits small
          rw [← live] at encoded
          rw [Encoder.call, encoded]
          refine ⟨?_, fits, .inl ⟨i + 1, rfl⟩⟩
          rintro err ⟨⟩
        · rw [Encoder.call, encode_of_isErased gone small fits]
          refine ⟨fun err failed => ?_, fits, .inr ⟨gone, erased⟩⟩
          cases failed
          exact .inr ⟨rfl, erased⟩

theorem refuses_run (e : Epoch S) (before : List Bytes) (calls : List Call) :
    ∀ x ∈ Calls.answers call (new (e.sealings before).half) calls, Refuses calls x.1 x.2 := by
  have start : Keeps e calls (new (e.sealings before).half) :=
    ⟨Nat.le_refl _, .inl ⟨_, (Ledger.sealed_sealings e before).half⟩⟩
  exact (Calls.preserved call calls (Keeps e calls) (Refuses calls) (fun enc keeps c mem => keeps.call mem) start).1

end Encoder

/-- Every error tells of the phase that it comes from. Links that are started with new roles fail in the handshake
with what acts fail with, and once they are ready with what their records fail with. The same holds of what they are
made of: decoders, after any use of the key before it was theirs and with any bytes in any pieces, encoders, and either
side of a handshake under any calls. -/
theorem errors_by_phase :
    (∀ calls : List (Link.Call S), Link.Startable calls → (Calls.run Link.call Link.new calls).Classified) ∧
    (∀ (e : Epoch S) (before : List Opener.Call), (e.openings before).half.isErased = false →
      ∀ inputs, Decoder.Confined ((Decoder.new (e.openings before).half).run inputs)) ∧
    (∀ (e : Epoch S) (before : List Bytes) (calls : List Encoder.Call),
      ∀ x ∈ Calls.answers Encoder.call (.new (e.sealings before).half) calls, Encoder.Refuses calls x.1 x.2) ∧
    (∀ (static ephemeral : S.Secret) (remote : S.Point) (calls : List Initiator.Call),
      ∀ x ∈ Calls.answers Initiator.call (.new static ephemeral remote) calls, ∀ e, x.2 = .error e → e.OfAct) ∧
    ∀ (static ephemeral : S.Secret) (calls : List Responder.Call),
      ∀ x ∈ Calls.answers Responder.call (.new static ephemeral) calls, ∀ e, x.2 = .error e → e.OfAct := by
  refine ⟨fun calls startable => ?_, fun e before usable inputs => ?_, Encoder.refuses_run, ?_, ?_⟩
  · exact (Link.sound_run startable).classified
  · exact Decoder.confined_run (Decoder.follows_new usable) inputs
  · intro static ephemeral remote calls
    exact Initiator.lawful_turns.ofAct trivial calls
  · intro static ephemeral calls
    exact Responder.lawful_turns.ofAct (Responder.sound_new static ephemeral) calls

theorem errors_by_phase_damaged :
    let calls : List (Link.Call .standard) := [.start (.responder Secrets.vectors.responderSide)]
    let l := Calls.run Link.call Link.new calls
    let act : Bytes := 1 :: Bytes.zeros 49
    let o := (Epoch.blank.openings []).half
    let inputs : List Decoder.Input := [.feed Decoder.damaged, .next, .next, .next]
    Link.Startable calls ∧ l.phase = .handshake ∧
      (l.feedHandshake act).1 = .error (.noise (.unsupportedVersion .one 1)) ∧
      (LinkError.noise (.unsupportedVersion .one 1)).isHandshakeFailure = true ∧
      o.isErased = false ∧
      Decoder.fault ((Decoder.new o).run inputs).1 = some (.noise (.authenticationFailed .recordLength)) ∧
      (LinkError.noise (.authenticationFailed .recordLength)).Forged := by
  intro calls l act o inputs
  have startable : Link.Startable calls := by
    intro role mem
    obtain ⟨rfl⟩ : Link.Call.start role = _ := List.mem_singleton.1 mem
    exact .responder _ _
  have here : l.phase = .handshake := rfl
  have rejected : (l.feedHandshake act).1 = .error (.noise (.unsupportedVersion .one 1)) := rfl
  have usable : o.isErased = false := rfl
  have failed : Decoder.fault ((Decoder.new o).run inputs).1 = some (.noise (.authenticationFailed .recordLength)) := by
    decide +kernel
  obtain ⟨links, decoders, -⟩ := errors_by_phase (S := .standard)
  exact ⟨startable, here, rejected, ((links calls startable).handshake here act _ rejected).1, usable, failed,
    (decoders Epoch.blank [] usable inputs).first _ failed⟩

end NoiseLink
