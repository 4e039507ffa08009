import NoiseLink.Proofs.ErrorPhases
import NoiseLink.Proofs.RejectedBytes
import NoiseLink.Proofs.Segmentation

namespace NoiseLink

variable {S : Suite}

inductive StreamError.Ends : StreamError → Prop
  | closed : Ends .socketClosed
  | truncated (expected received : Nat) : Ends (.link (.truncatedRecord expected received))

theorem StreamError.Ends.isProtocolFailure {e : StreamError} (h : e.Ends) : e.isProtocolFailure = false := by
  cases h <;> rfl

theorem Decoder.ends_ending (d : Decoder S) : (Decoder.ending (none, d)).Ends := by
  rw [Decoder.ending]
  cases h : d.finish with
  | ok => exact .closed
  | error e =>
      obtain ⟨expected, received, rfl⟩ := Decoder.truncated_of_finish h
      exact .truncated expected received

theorem Link.truncated_of_finish {l : Link S} {e : LinkError} (h : l.finish = .error e) :
    ∃ expected received, e = .truncatedRecord expected received := by
  rw [Link.finish] at h
  split at h
  · exact Decoder.truncated_of_finish h
  · split at h
    · cases h
    · cases h
      exact ⟨_, _, rfl⟩
  · cases h

/-- A role that anything may have been asked of before. -/
inductive Role.Made : Role S → Prop
  | initiator (static ephemeral : S.Secret) (remote : S.Point) (calls : List Initiator.Call) :
      Made (.initiator (Calls.run Initiator.call (.new static ephemeral remote) calls))
  | responder (static ephemeral : S.Secret) (calls : List Responder.Call) :
      Made (.responder (Calls.run Responder.call (.new static ephemeral) calls))

theorem Role.Fresh.made {role : Role S} (h : role.Fresh) : role.Made := by
  cases h with
  | initiator static ephemeral remote => exact .initiator static ephemeral remote []
  | responder static ephemeral => exact .responder static ephemeral []

theorem Responder.sound_run (static ephemeral : S.Secret) (calls : List Call) :
    (Calls.run call (new static ephemeral) calls).Sound := by
  have kept := Calls.preserved call calls Sound (fun _ _ => True)
    (fun r sound c _ => ⟨trivial, (lawful_turns.step sound c).2⟩) (sound_new static ephemeral)
  exact kept.2

theorem Initiator.exists_actOne (i : Initiator S) : ∃ r, i.actOne = .ok r := by
  obtain ⟨hash, chain, key, keyed⟩ := Symmetric.keyed_mixKey
    (i.party.sym.mixHash (S.point.encode (S.publicKey i.party.ephemeral))) (S.agree i.party.ephemeral i.remote)
  have first : 0 < lastNonce := by decide
  simp only [actOne, keyed, Symmetric.encryptAndHash_keyed first]
  exact ⟨_, rfl⟩

namespace Stream

/-- What an attempt to connect comes to over any arrivals. A failure is laid to an act, if it is none of the ordinary
ends and the role is fit to be started with. -/
inductive Attempt (limit : Nat) (Unfit : Prop) (Leads : Bytes → Bytes → Meeting S → Prop) (arrivals : List Arrival) :
    Connected S → Prop
  | waiting (l : Link S) (written : Bytes) : Attempt limit Unfit Leads arrivals (.waiting l written)
  | ended (closed : .finish ∈ arrivals) {e : StreamError} (ends : e.Ends) (written : Bytes) :
      Attempt limit Unfit Leads arrivals (.failed e written)
  | declined (unfit : Unfit) {e : NoiseError} (refused : e = .handshakeAborted ∨ e = .unexpectedHandshakeMessage)
      (written : Bytes) : Attempt limit Unfit Leads arrivals (.failed (.link (.noise e)) written)
  | rejected {taken later : List Arrival} (split : arrivals = taken ++ later) {e : NoiseError}
      (bad : e.isAuthenticationFailure = true) {written : Bytes}
      (leads : Leads (Arrival.bytes taken) written (.halted (.rejected e))) :
      Attempt limit Unfit Leads arrivals (.failed (.link (.noise e)) written)
  | done {taken inbound : List Arrival} (split : arrivals = taken ++ inbound) {written rest : Bytes} {remote : S.Point}
      {outward inward : Epoch S} (leads : Leads (Arrival.bytes taken) written (.done remote outward inward rest)) :
      Attempt limit Unfit Leads arrivals
        (.done ⟨⟨inward.between 0 rest, inbound⟩, ⟨⟨outward.sealer 0, limit⟩, written⟩, remote⟩)

variable {limit : Nat} {Unfit : Prop} {Leads Leads' : Bytes → Bytes → Meeting S → Prop} {arrivals : List Arrival}
  {c : Connected S}

theorem Attempt.behind {a : Arrival}
    (h : ∀ script written meeting, Leads' script written meeting → Leads (Arrival.bytes [a] ++ script) written meeting)
    (attempt : Attempt limit Unfit Leads' arrivals c) : Attempt limit Unfit Leads (a :: arrivals) c := by
  have further : ∀ taken, Arrival.bytes [a] ++ Arrival.bytes taken = Arrival.bytes (a :: taken) := fun taken =>
    (Arrival.bytes_append [a] taken).symm
  cases attempt with
  | waiting l written => exact .waiting l written
  | ended closed ends written => exact .ended (List.mem_cons_of_mem _ closed) ends written
  | declined unfit refused written => exact .declined unfit refused written
  | @rejected taken later split e bad written leads =>
      have onward := h _ _ _ leads
      rw [further] at onward
      exact .rejected (congrArg (List.cons a) split) bad onward
  | @done taken inbound split written rest remote outward inward leads =>
      have onward := h _ _ _ leads
      rw [further] at onward
      exact .done (congrArg (List.cons a) split) onward

theorem attempt_finish (l : Link S) (written : Bytes) (rest : List Arrival) :
    Attempt limit Unfit Leads (.finish :: rest) (handshake l written (.finish :: rest)) := by
  rw [handshake]
  cases h : l.finish with
  | ok => exact .ended List.mem_cons_self .closed written
  | error e =>
      obtain ⟨expected, received, rfl⟩ := Link.truncated_of_finish h
      exact .ended List.mem_cons_self (.truncated expected received) written

def Onward (role : Role S) (buffer before script written : Bytes) (meeting : Meeting S) : Prop :=
  ∃ answers, role.Meets (buffer ++ script) answers meeting ∧ written = before ++ answers

theorem Onward.of_data {role : Role S} {buffer b before script written : Bytes} {meeting : Meeting S}
    (h : Onward role (buffer ++ b) before script written meeting) :
    Onward role buffer before (Arrival.bytes [.data b] ++ script) written meeting := by
  obtain ⟨answers, meets, rfl⟩ := h
  refine ⟨answers, ?_, rfl⟩
  simpa using meets

theorem attempt_handshake (Unfit : Prop) {role : Role S} {n : Nat} (listens : role.Listens n) (buffer written : Bytes)
    (m : Nat) (arrivals : List Arrival) :
    Attempt (min m maxMessageSize) Unfit (Onward role buffer written) arrivals
      (handshake (.listening role buffer m) written arrivals) := by
  induction arrivals generalizing role n buffer written with
  | nil => exact .waiting _ _
  | cons a arrivals ih =>
      cases a with
      | pause => exact (ih listens buffer written).behind fun _ _ _ h => h
      | finish => exact attempt_finish _ written arrivals
      | data b =>
          by_cases short : (buffer ++ b).length < n
          · rw [handshake_short m _ listens.awaits short]
            exact (ih listens (buffer ++ b) written).behind fun _ _ _ h => h.of_data
          · obtain ⟨act, rest, whole, rfl⟩ := exists_append_of_le (Nat.le_of_not_lt short)
            have fed : buffer ++ Arrival.bytes [.data b] = act ++ rest := by
              rw [Arrival.bytes_data, Arrival.bytes_nil, List.append_nil, whole]
            have first : Arrival.data b :: arrivals = [.data b] ++ arrivals := List.singleton_append.symm
            have checked := listens.hear act
            rw [handshake_whole m _ listens whole]
            cases heard : role.hear act with
            | error e =>
                have onward : Onward role buffer written (Arrival.bytes [.data b]) written (.halted (.rejected e)) :=
                  ⟨[], fed ▸ .rejected listens.awaits heard rest, (List.append_nil written).symm⟩
                exact .rejected first (listens.isAuthenticationFailure heard) onward
            | ok good =>
                cases checked.result heard with
                | @answered reply role' listens' =>
                    -- the rest may hold a whole act already, which is not looked at before more bytes come
                    refine (ih listens' rest (written ++ reply)).behind ?_
                    rintro script _ meeting ⟨answers, meets, rfl⟩
                    refine ⟨reply ++ answers, ?_, List.append_assoc _ _ _⟩
                    rw [← List.append_assoc, fed, List.append_assoc]
                    exact .answered listens.awaits heard meets
                | @completed reply remote session fresh =>
                    obtain ⟨sending, receiving, chain, rfl⟩ := fresh
                    have onward : Onward role buffer written (Arrival.bytes [.data b]) (written ++ reply)
                        (.done remote ⟨sending, chain⟩ ⟨receiving, chain⟩ rest) :=
                      ⟨reply, fed ▸ .completed listens.awaits heard rest, rfl⟩
                    exact .done first onward

theorem attempt_deaf (unfit : Unfit) {l : Link S} (deaf : l.Deaf) (written : Bytes) (arrivals : List Arrival) :
    Attempt limit Unfit Leads arrivals (handshake l written arrivals) := by
  induction arrivals with
  | nil => exact .waiting _ _
  | cons a arrivals ih =>
      cases a with
      | pause => exact ih.behind fun _ _ _ h => h
      | finish => exact attempt_finish l written arrivals
      | data b =>
          obtain ⟨aborted, -⟩ := deaf.feedHandshake b
          rw [handshake]
          generalize l.feedHandshake b = r at aborted
          obtain ⟨answer, l'⟩ := r
          cases aborted
          exact .declined unfit (.inl rfl) written

theorem attempt_of_listens (Unfit : Prop) {role : Role S} {n : Nat} (listens : role.opening.2.Listens n) (limit : Nat)
    (arrivals : List Arrival) :
    Attempt (min limit maxMessageSize) Unfit role.Faces arrivals
      (handshake (.listening role.opening.2 [] (min limit maxMessageSize)) role.opening.1 arrivals) := by
  have attempt := attempt_handshake Unfit listens [] role.opening.1 (min limit maxMessageSize) arrivals
  rw [Nat.min_eq_left (Nat.min_le_right limit maxMessageSize)] at attempt
  exact attempt

theorem attempt_initiator (i : Initiator S) (limit : Nat) (arrivals : List Arrival) :
    Attempt (min limit maxMessageSize) (¬(Role.initiator i).Fresh) (Role.initiator i).Faces arrivals
      (connect (.initiator i) limit arrivals) := by
  have new : (Link.new.withLimit limit : Link S).isFresh = true := rfl
  by_cases turn : i.party.progress = .actOne
  · obtain ⟨⟨act, sym⟩, made⟩ := i.exists_actOne
    have sent : i.sendActOne = (.ok act, { i with party := { i.party with sym, progress := .actTwo } }) := by
      rw [Initiator.sendActOne, turn, Progress.expect_self, made]
      rfl
    have opening : (Role.initiator i).opening =
        (act, .initiator { i with party := { i.party with sym, progress := .actTwo } }) := by
      rw [Role.opening, sent]
      rfl
    have listens : (Role.initiator i).opening.2.Listens actTwoSize := by
      rw [opening]
      exact .initiator rfl
    have attempt := attempt_of_listens (¬(Role.initiator i).Fresh) listens limit arrivals
    simp only [opening] at attempt
    simp only [connect, Link.start, new, if_true, sent]
    exact attempt
  · have unfit : ¬(Role.initiator i).Fresh := by
      rintro ⟨⟩
      exact turn rfl
    have refused : ∃ e, (e = .handshakeAborted ∨ e = .unexpectedHandshakeMessage) ∧ i.sendActOne = (.error e, i) := by
      rw [Initiator.sendActOne]
      by_cases gone : i.party.progress = .aborted
      · rw [gone]
        exact ⟨_, .inl rfl, rfl⟩
      · rw [Progress.expect_of_ne turn gone]
        exact ⟨_, .inr rfl, rfl⟩
    obtain ⟨e, kind, sent⟩ := refused
    simp only [connect, Link.start, new, if_true, sent]
    exact .declined unfit kind []

theorem attempt_responder {r : Responder S} (sound : r.Sound) (limit : Nat) (arrivals : List Arrival) :
    Attempt (min limit maxMessageSize) (¬(Role.responder r).Fresh) (Role.responder r).Faces arrivals
      (connect (.responder r) limit arrivals) := by
  have connected : connect (.responder r) limit arrivals =
      handshake (.listening (.responder r) [] (min limit maxMessageSize)) [] arrivals := rfl
  rw [connected]
  -- a responder that has answered act one goes on from there, and one that is through with its acts hears no more
  by_cases first : r.party.progress = .actOne
  · have listens : (Role.responder r).opening.2.Listens actOneSize := .first first
    exact attempt_of_listens _ listens limit arrivals
  · by_cases last : r.party.progress = .actThree
    · have listens : (Role.responder r).opening.2.Listens actThreeSize := .last last (sound.keyed last)
      exact attempt_of_listens _ listens limit arrivals
    · have unfit : ¬(Role.responder r).Fresh := by
        rintro ⟨⟩
        exact first rfl
      have deaf : (Role.responder r).expectedSize = none := by
        cases awaits : (Role.responder r).expectedSize with
        | none => rfl
        | some n =>
            rcases Responder.expectedSize_eq_some_iff.1 awaits with ⟨turn, -⟩ | ⟨turn, -⟩
            · exact absurd turn first
            · exact absurd turn last
      exact attempt_deaf unfit ⟨_, rfl, deaf⟩ [] arrivals

theorem attempt_connect {role : Role S} (made : role.Made) (limit : Nat) (arrivals : List Arrival) :
    Attempt (min limit maxMessageSize) (¬role.Fresh) role.Faces arrivals (connect role limit arrivals) := by
  cases made with
  | initiator static ephemeral remote calls => exact attempt_initiator _ limit arrivals
  | responder static ephemeral calls =>
      exact attempt_responder (Responder.sound_run static ephemeral calls) limit arrivals

/-- A decoder behind the acts of `received`, with its keys as long as no record of these has failed. -/
inductive Behind (role : Role S) (received : Bytes) : Decoder S → Prop
  | live {written rest : Bytes} {remote : S.Point} {outward inward : Epoch S} {payloads : List Bytes} {d : Decoder S}
      (faces : role.Faces received written (.done remote outward inward rest))
      (reached : inward.Reached rest payloads d) : Behind role received d
  | dead {e : NoiseError} (forged : role.Forged received e) {d : Decoder S} (gone : d.opener.isErased = true) :
      Behind role received d

inductive ReadFault (role : Role S) (received : Bytes) (inbound : List Arrival) : StreamError → Prop
  | ended (closed : .finish ∈ inbound) {e : StreamError} (ends : e.Ends) : ReadFault role received inbound e
  | forged {e : NoiseError} (forged : role.Forged received e) : ReadFault role received inbound (.link (.noise e))
  | keyless {e : NoiseError} (forged : role.Forged received e) :
      ReadFault role received inbound (.link (.noise .keyErased))

section Reads

variable {role : Role S} {received : Bytes} {d d' : Decoder S}

theorem Behind.feed (h : Behind role received d) (b : Bytes) : Behind role (received ++ b) (d.feed b) := by
  cases h with
  | live faces reached => exact .live (faces.append b) (reached.feed b)
  | dead forged gone => exact .dead (forged.append b) gone

inductive Behind.Next (role : Role S) (received : Bytes) : Except LinkError Bytes × Decoder S → Prop
  | payload (p : Bytes) {d : Decoder S} (behind : Behind role received d) : Next role received (.ok p, d)
  | missing (n : Nat) {d : Decoder S} (behind : Behind role received d) :
      Next role received (.error (.missingBytes n), d)
  | failed {err : LinkError} (fatal : err.isFatal = true)
      (fault : ∀ inbound, ReadFault role received inbound (.link err)) {d : Decoder S}
      (behind : Behind role received d.erase) : Next role received (.error err, d)

theorem Behind.next (h : Behind role received d) : Behind.Next role received d.next := by
  cases h with
  | dead forged gone =>
      rw [Decoder.next_of_isErased gone]
      exact .failed rfl (fun _ => .keyless forged) (.dead forged rfl)
  | @live written rest remote outward inward payloads d faces reached =>
      have next := reached.next
      obtain ⟨payload, d', found⟩ | ⟨n, d', found⟩ | ⟨err, d', fatal, found⟩ := d.next_cases
      · rw [found] at next ⊢
        cases next with
        | payload reached => exact .payload payload (.live faces reached)
      · rw [found] at next ⊢
        cases next with
        | missing reached => exact .missing n (.live faces reached)
        | failed fatal => cases fatal
      · obtain ⟨bad, rfl, broken⟩ := reached.broken found fatal
        have forged : role.Forged received bad := ⟨written, remote, outward, inward, rest, faces, broken⟩
        rw [found]
        exact .failed rfl (fun _ => .forged forged) (.dead forged rfl)

structure Takes (role : Role S) (received : Bytes) (inbound : List Arrival) (x : Reading) (r : Reader S)
    (taken : List Arrival) : Prop where
  split : inbound = taken ++ r.inbound
  behind : Behind role (received ++ Arrival.bytes taken) r.decoder
  fault : ∀ e, x = .failed e → ReadFault role (received ++ Arrival.bytes taken) inbound e

variable {x : Reading} {r : Reader S} {inbound later first taken : List Arrival}

theorem Takes.after (h : Takes role (received ++ Arrival.bytes first) later x r taken)
    (split : inbound = first ++ later) : Takes role received inbound x r (first ++ taken) := by
  have bytes : received ++ Arrival.bytes (first ++ taken) = received ++ Arrival.bytes first ++ Arrival.bytes taken := by
    rw [Arrival.bytes_append, List.append_assoc]
  refine ⟨?_, bytes ▸ h.behind, fun e failed => ?_⟩
  · rw [split, h.split, List.append_assoc]
  · rw [bytes]
    cases h.fault e failed with
    | ended closed ends => exact .ended (split ▸ List.mem_append_right first closed) ends
    | forged forged => exact .forged forged
    | keyless forged => exact .keyless forged

theorem Takes.nothing (behind : Behind role received d)
    (sound : ∀ e, x = .failed e → ReadFault role received inbound e) : Takes role received inbound x ⟨d, inbound⟩ [] := by
  have bytes : received ++ Arrival.bytes [] = received := List.append_nil received
  exact ⟨rfl, bytes.symm ▸ behind, bytes.symm ▸ sound⟩

theorem Behind.readFrom_of_ok (h : Behind role received d) {payload : Bytes} (found : d.next = (.ok payload, d'))
    (patient : Bool) (inbound : List Arrival) :
    Takes role received inbound (Reader.readFrom patient d inbound).1 (Reader.readFrom patient d inbound).2 [] := by
  have next := h.next
  rw [found] at next
  rw [Reader.readFrom_of_ok patient found]
  cases next with
  | payload p behind =>
      refine .nothing behind ?_
      rintro e ⟨⟩

theorem Behind.readFrom_of_fatal (h : Behind role received d) {err : LinkError} (found : d.next = (.error err, d'))
    (fatal : err.isFatal = true) (patient : Bool) (inbound : List Arrival) :
    Takes role received inbound (Reader.readFrom patient d inbound).1 (Reader.readFrom patient d inbound).2 [] := by
  have next := h.next
  rw [found] at next
  rw [Reader.readFrom_of_fatal patient found fatal]
  cases next with
  | missing => cases fatal
  | failed _ fault behind =>
      refine .nothing behind ?_
      rintro e ⟨⟩
      exact fault inbound

theorem Behind.next_of_missing (h : Behind role received d) {n : Nat}
    (found : d.next = (.error (.missingBytes n), d')) : Behind role received d' := by
  have next := h.next
  rw [found] at next
  cases next with
  | missing _ behind => exact behind
  | failed fatal => cases fatal

theorem Behind.readFrom (h : Behind role received d) (patient : Bool) (inbound : List Arrival) :
    ∃ taken, Takes role received inbound (Reader.readFrom patient d inbound).1 (Reader.readFrom patient d inbound).2
      taken := by
  induction inbound generalizing received d with
  | nil =>
      obtain ⟨payload, d', found⟩ | ⟨n, d', found⟩ | ⟨err, d', fatal, found⟩ := d.next_cases
      · exact ⟨[], h.readFrom_of_ok found patient []⟩
      · have waits : Reader.readFrom patient d [] = (.waiting, ⟨d', []⟩) := by
          simp only [Reader.readFrom, Reader.poll_of_missing found]
        rw [waits]
        refine ⟨[], .nothing (h.next_of_missing found) ?_⟩
        rintro e ⟨⟩
      · exact ⟨[], h.readFrom_of_fatal found fatal patient []⟩
  | cons a inbound ih =>
      -- the arrivals are looked at only when what has been received gives no payload and no failure
      obtain ⟨payload, d', found⟩ | ⟨n, d', found⟩ | ⟨err, d', fatal, found⟩ := d.next_cases
      · exact ⟨[], h.readFrom_of_ok found patient _⟩
      · have behind := h.next_of_missing found
        cases a with
        | data b =>
            rw [Reader.readFrom_data patient found]
            obtain ⟨taken, takes⟩ := ih (behind.feed b)
            have bytes : received ++ b = received ++ Arrival.bytes [.data b] := by simp
            rw [bytes] at takes
            exact ⟨_, takes.after rfl⟩
        | pause =>
            have bytes : received = received ++ Arrival.bytes [.pause] := (List.append_nil received).symm
            rw [bytes] at behind
            rw [Reader.readFrom_pause patient found]
            cases patient with
            | true =>
                obtain ⟨taken, takes⟩ := ih behind
                exact ⟨_, takes.after rfl⟩
            | false =>
                refine ⟨[.pause], rfl, behind, ?_⟩
                rintro e ⟨⟩
        | finish =>
            rw [Reader.readFrom_finish patient found]
            refine ⟨[], .nothing behind ?_⟩
            rintro e ⟨⟩
            exact .ended List.mem_cons_self (Decoder.ends_ending d')
      · exact ⟨[], h.readFrom_of_fatal found fatal patient _⟩

theorem Behind.collect {r : Reader S} (h : Behind role received r.decoder) (fuel : Nat) :
    ∃ taken, Takes role received r.inbound (Reader.collect Reader.readFrame fuel r).2.1
      (Reader.collect Reader.readFrame fuel r).2.2 taken := by
  induction fuel generalizing received r with
  | zero =>
      refine ⟨[], .nothing h ?_⟩
      rintro e ⟨⟩
  | succ fuel ih =>
      obtain ⟨taken, takes⟩ := h.readFrom true r.inbound
      change Takes role received r.inbound r.readFrame.1 r.readFrame.2 taken at takes
      rw [Reader.collect]
      generalize r.readFrame = read at takes
      obtain ⟨x, r'⟩ := read
      cases x with
      | waiting | failed => exact ⟨taken, takes⟩
      | frame payload =>
          obtain ⟨taken', takes'⟩ := ih takes.behind
          exact ⟨taken ++ taken', takes'.after takes.split⟩

end Reads

end Stream

end NoiseLink
