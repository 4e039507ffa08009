import NoiseLink.Link.Basic
import NoiseLink.Proofs.ActOrder
import NoiseLink.Proofs.DecoderReads

namespace NoiseLink.Link

variable {S : Suite}

inductive Call (S : Suite) where
  | withLimit (size : Nat)
  | start (role : Role S)
  | feedHandshake (b : Bytes)
  | encrypt (payload : Bytes)
  | feed (b : Bytes)
  | next
  | finish
  | close
  | split

inductive Output (S : Suite) where
  | step (step : HandshakeStep)
  | record (record : Bytes)
  | payload (payload : Option Bytes)
  | halves (encoder : Encoder S) (decoder : Decoder S)
  | done

/-- A link is gone once it is split. That it stays here allows more runs than there are. -/
def call (l : Link S) : Call S → Except LinkError (Output S) × Link S
  | .withLimit size => (.ok .done, l.withLimit size)
  | .start role => ((l.start role).1.map .step, (l.start role).2)
  | .feedHandshake b => ((l.feedHandshake b).1.map .step, (l.feedHandshake b).2)
  | .encrypt payload => ((l.encrypt payload).1.map .record, (l.encrypt payload).2)
  | .feed b => ((l.feed b).1.map fun _ => .done, (l.feed b).2)
  | .next => (l.next.1.map .payload, l.next.2)
  | .finish => (l.finish.map fun _ => .done, l)
  | .close => (.ok .done, l.close)
  | .split => (l.split.map fun (encoder, decoder) => .halves encoder decoder, l)

inductive Phase where
  | fresh
  | handshake
  | established
  | closed
  deriving DecidableEq

def Phase.rank : Phase → Nat
  | .fresh => 0
  | .handshake => 1
  | .established => 2
  | .closed => 3

def phase (l : Link S) : Phase :=
  match l.state with
  | .fresh => .fresh
  | .handshake _ => .handshake
  | .established _ _ => .established
  | .closed => .closed

def Call.phase : Call S → Option Phase
  | .start _ => some .fresh
  | .feedHandshake _ => some .handshake
  | .encrypt _ | .feed _ | .next | .split => some .established
  | .withLimit _ | .finish | .close => none

/-- All that a call can do: what it answers in which phase, and the phase after it. -/
inductive Move : Phase → Call S → Except LinkError (Output S) → Phase → Prop
  | refused {p q : Phase} {c : Call S} (belongs : c.phase = some q) (other : p ≠ q) :
      Move p c (.error .unexpectedState) p
  | started (role : Role S) (step : HandshakeStep) : Move .fresh (.start role) (.ok (.step step)) .handshake
  | spent (role : Role S) (e : NoiseError) : Move .fresh (.start role) (.error (.noise e)) .fresh
  | ready (b : Bytes) (reply : Option Bytes) :
      Move .handshake (.feedHandshake b) (.ok (.step (.ready reply))) .established
  | fed (b : Bytes) {step : HandshakeStep} (going : ∀ reply, step ≠ .ready reply) :
      Move .handshake (.feedHandshake b) (.ok (.step step)) .handshake
  | aborted (b : Bytes) (e : NoiseError) : Move .handshake (.feedHandshake b) (.error (.noise e)) .handshake
  | sent (payload : Bytes) (r : Except LinkError Bytes) :
      Move .established (.encrypt payload) (r.map .record) .established
  | taken (b : Bytes) : Move .established (.feed b) (.ok .done) .established
  | read (payload : Option Bytes) : Move .established .next (.ok (.payload payload)) .established
  | failed {e : LinkError} (fatal : e.isFatal = true) : Move .established .next (.error e) .closed
  | parted (encoder : Encoder S) (decoder : Decoder S) :
      Move .established .split (.ok (.halves encoder decoder)) .established
  | limited (p : Phase) (size : Nat) : Move p (.withLimit size) (.ok .done) p
  | judged (p : Phase) (r : Except LinkError Unit) : Move p .finish (r.map fun _ => .done) p
  | closed (p : Phase) : Move p .close (.ok .done) .closed

theorem call_of_phase_ne {l : Link S} {c : Call S} {q : Phase} (belongs : c.phase = some q) (other : l.phase ≠ q) :
    l.call c = (.error .unexpectedState, l) := by
  obtain ⟨state, buffer, remote, limit⟩ := l
  cases c with
  | withLimit | finish | close => cases belongs
  | start role =>
      cases belongs
      cases role <;> cases state <;> first | rfl | exact absurd rfl other
  | feedHandshake | encrypt | feed | next | split =>
      cases belongs
      cases state <;> first | rfl | exact absurd rfl other

theorem refused_or_here (l : Link S) (c : Call S) :
    l.call c = (.error .unexpectedState, l) ∨ ∀ q, c.phase = some q → l.phase = q := by
  by_cases other : ∃ q, c.phase = some q ∧ l.phase ≠ q
  · obtain ⟨q, belongs, other⟩ := other
    exact .inl (call_of_phase_ne belongs other)
  · refine .inr fun q belongs => ?_
    by_contra ne
    exact other ⟨q, belongs, ne⟩

inductive Fed : Except LinkError HandshakeStep → Link S → Prop
  | ready (reply : Option Bytes) {l : Link S} (done : l.phase = .established) : Fed (.ok (.ready reply)) l
  | going {step : HandshakeStep} (more : ∀ reply, step ≠ .ready reply) {l : Link S} (still : l.phase = .handshake) :
      Fed (.ok step) l
  | failed (e : NoiseError) {l : Link S} {role : Role S} (still : l.state = .handshake role)
      (deaf : role.expectedSize = none) : Fed (.error (.noise e)) l

theorem fed_receiveAct {role : Role S} {size : Nat} (awaits : role.expectedSize = some size) (l : Link S) (act : Bytes) :
    Fed (l.receiveAct size act role).1 (l.receiveAct size act role).2 := by
  cases role with
  | initiator i =>
      obtain ⟨turn, -⟩ := Initiator.expectedSize_eq_some_iff.1 awaits
      simp only [receiveAct, Initiator.receiveActTwo, turn, Progress.expect_self]
      cases i.actThree act with
      | error e => exact .failed e rfl rfl
      | ok => exact .ready _ rfl
  | responder r =>
      rcases Responder.expectedSize_eq_some_iff.1 awaits with ⟨turn, rfl⟩ | ⟨turn, rfl⟩
      · simp only [receiveAct, Responder.receiveActOne, turn, Progress.expect_self]
        cases r.actTwo act with
        | error e => exact .failed e rfl rfl
        | ok =>
            refine .going (fun reply => ?_) rfl
            rintro ⟨⟩
      · simp only [receiveAct, Responder.receiveActThree, turn, Progress.expect_self]
        cases r.openActThree act with
        | error e => exact .failed e rfl rfl
        | ok => exact .ready _ rfl

theorem fed_feedHandshake {l : Link S} {role : Role S} (h : l.state = .handshake role) (b : Bytes) :
    Fed (l.feedHandshake b).1 (l.feedHandshake b).2 := by
  simp only [feedHandshake, h]
  split
  · rename_i deaf
    exact .failed _ rfl deaf
  · rename_i size awaits
    split
    · refine .going (fun reply => ?_) rfl
      exact nofun
    · exact fed_receiveAct awaits _ _

theorem phase_of_handshake {l : Link S} {role : Role S} (h : l.state = .handshake role) : l.phase = .handshake := by
  rw [phase, h]

theorem move_of_phase_ne {l : Link S} {c : Call S} {q : Phase} (belongs : c.phase = some q) (other : l.phase ≠ q) :
    Move l.phase c (l.call c).1 (l.call c).2.phase := by
  rw [call_of_phase_ne belongs other]
  exact .refused belongs other

theorem move (l : Link S) (c : Call S) : Move l.phase c (l.call c).1 (l.call c).2.phase := by
  obtain ⟨state, buffer, remote, limit⟩ := l
  cases c with
  | withLimit size => exact .limited _ size
  | finish => exact .judged _ _
  | close => exact .closed _
  | start role =>
      cases state with
      | fresh =>
          cases role with
          | responder r => exact .started _ _
          | initiator i =>
              simp only [call, start, isFresh]
              rcases i.sendActOne with ⟨_ | act, i'⟩
              · exact .spent _ _
              · exact .started _ _
      | handshake | established | closed => exact move_of_phase_ne rfl nofun
  | feedHandshake b =>
      cases state with
      | handshake role =>
          have fed := fed_feedHandshake (l := ⟨.handshake role, buffer, remote, limit⟩) rfl b
          simp only [call]
          generalize feedHandshake _ b = r at fed
          obtain ⟨r, l'⟩ := r
          cases fed with
          | ready reply done =>
              rw [done]
              exact .ready b reply
          | going more still =>
              rw [still]
              exact .fed b more
          | failed e still deaf =>
              rw [phase_of_handshake still]
              exact .aborted b e
      | fresh | established | closed => exact move_of_phase_ne rfl nofun
  | encrypt payload =>
      cases state with
      | established encoder decoder => exact .sent payload _
      | fresh | handshake | closed => exact move_of_phase_ne rfl nofun
  | feed b =>
      cases state with
      | established encoder decoder => exact .taken b
      | fresh | handshake | closed => exact move_of_phase_ne rfl nofun
  | next =>
      cases state with
      | established encoder decoder =>
          simp only [call, next]
          rcases decoder.next_cases with ⟨payload, d, found⟩ | ⟨n, d, found⟩ | ⟨e, d, fatal, found⟩
          · rw [found]
            exact .read _
          · rw [found]
            exact .read _
          · rw [found]
            cases e with
            | missingBytes => cases fatal
            | noise | truncatedRecord | unexpectedState | messageTooLarge => exact .failed fatal
      | fresh | handshake | closed => exact move_of_phase_ne rfl nofun
  | split =>
      cases state with
      | established encoder decoder => exact .parted encoder decoder
      | fresh | handshake | closed => exact move_of_phase_ne rfl nofun

theorem Move.rank_le {p q : Phase} {c : Call S} {a : Except LinkError (Output S)} (h : Move p c a q) :
    p.rank ≤ q.rank := by
  cases h with
  | closed => cases p <;> decide
  | started | ready | failed => decide
  | refused | spent | fed | aborted | sent | taken | read | parted | limited | judged => exact Nat.le_refl _

theorem isReady_iff (l : Link S) : l.isReady = true ↔ l.phase = .established := by
  rw [isReady, phase]
  cases l.state <;> simp

def Ends (x : Call S × Except LinkError (Output S)) : Prop := x.1 = .close ∨ ∃ e, x = (.next, .error e)

def Lasts (t : List (Call S × Except LinkError (Output S))) : Prop :=
  ∃ before b reply since, t = before ++ (.feedHandshake b, .ok (.step (.ready reply))) :: since ∧ ∀ x ∈ since, ¬Ends x

section Histories

variable {t : List (Call S × Except LinkError (Output S))}

theorem lasts_ready (t : List (Call S × Except LinkError (Output S))) (b : Bytes) (reply : Option Bytes) :
    Lasts (t ++ [(.feedHandshake b, .ok (.step (.ready reply)))]) :=
  ⟨t, b, reply, [], rfl, by simp⟩

theorem lasts_concat {x : Call S × Except LinkError (Output S)}
    (other : ∀ b reply, x ≠ (.feedHandshake b, .ok (.step (.ready reply)))) : Lasts (t ++ [x]) ↔ Lasts t ∧ ¬Ends x := by
  constructor
  · rintro ⟨before, b, reply, since, same, lasting⟩
    rcases List.eq_nil_or_concat since with rfl | ⟨since, y, rfl⟩
    · exact absurd (List.append_inj' same rfl).2 (by simpa using other b reply)
    · rw [List.concat_eq_append, ← List.cons_append, ← List.append_assoc] at same
      obtain ⟨rfl, last⟩ := List.append_inj' same rfl
      cases last
      exact ⟨⟨before, b, reply, since, rfl, fun z mem => lasting z (by simp [mem])⟩, lasting x (by simp)⟩
  · rintro ⟨⟨before, b, reply, since, rfl, lasting⟩, still⟩
    refine ⟨before, b, reply, since ++ [x], by simp, fun z mem => ?_⟩
    rcases List.mem_append.1 mem with mem | mem
    · exact lasting z mem
    · cases List.mem_singleton.1 mem
      exact still

theorem Move.lasts {p q : Phase} {c : Call S} {a : Except LinkError (Output S)} (h : Move p c a q)
    (ih : p = .established ↔ Lasts t) : q = .established ↔ Lasts (t ++ [(c, a)]) := by
  cases h with
  | ready b reply => exact ⟨fun _ => lasts_ready t b reply, fun _ => rfl⟩
  | fed b more =>
      rw [lasts_concat (by simpa using fun _ reply _ => more reply), ← ih]
      simp
  | refused belongs other =>
      rw [lasts_concat (by simp), ← ih]
      constructor
      · rintro rfl
        refine ⟨rfl, ?_⟩
        rintro (rfl | ⟨e, same⟩)
        · cases belongs
        · cases same
          cases belongs
          exact other rfl
      · exact fun h => h.1
  | _ =>
      rw [lasts_concat (by simp), ← ih]
      simp [Ends]

end Histories

theorem isReady_run (calls : List (Call S)) :
    (Calls.run call new calls).isReady = true ↔ Lasts (Calls.answers call (new (S := S)) calls) := by
  rw [isReady_iff]
  induction calls using List.reverseRecOn with
  | nil =>
      refine ⟨nofun, ?_⟩
      rintro ⟨before, b, reply, since, same, -⟩
      simp [Calls.answers] at same
  | append_singleton calls c ih =>
      rw [Calls.run_concat, Calls.answers_concat]
      exact (move _ c).lasts ih

def Deaf (l : Link S) : Prop := ∃ role, l.state = .handshake role ∧ role.expectedSize = none

theorem Deaf.phase {l : Link S} (deaf : l.Deaf) : l.phase = .handshake := by
  obtain ⟨role, here, -⟩ := deaf
  exact phase_of_handshake here

theorem Deaf.feedHandshake {l : Link S} (deaf : l.Deaf) (b : Bytes) :
    (l.feedHandshake b).1 = .error (.noise .handshakeAborted) ∧ (l.feedHandshake b).2.Deaf := by
  obtain ⟨role, here, none⟩ := deaf
  simp only [Link.feedHandshake, here, none]
  exact ⟨trivial, role, rfl, none⟩

theorem Deaf.call {l : Link S} (deaf : l.Deaf) {c : Call S} (goes : c ≠ .close) :
    (∀ b, c = .feedHandshake b → (l.call c).1 = .error (.noise .handshakeAborted)) ∧ (l.call c).2.Deaf := by
  have still := deaf.phase
  cases c with
  | close => exact absurd rfl goes
  | withLimit | finish => exact ⟨nofun, deaf⟩
  | feedHandshake b =>
      obtain ⟨aborted, stays⟩ := deaf.feedHandshake b
      refine ⟨fun _ _ => ?_, stays⟩
      simp only [Link.call, aborted]
      rfl
  | start | encrypt | feed | next | split =>
      rw [call_of_phase_ne rfl (by rw [still]; exact nofun)]
      exact ⟨nofun, deaf⟩

theorem call_of_closed {l : Link S} (closed : l.state = .closed) (c : Call S) :
    (∀ o, (l.call c).1 = .ok o → o = .done) ∧ (l.call c).2.state = .closed := by
  have gone : l.phase = .closed := by rw [phase, closed]
  cases c with
  | withLimit => exact ⟨fun o h => (Except.ok.inj h).symm, closed⟩
  | close => exact ⟨fun o h => (Except.ok.inj h).symm, rfl⟩
  | finish =>
      refine ⟨fun o h => ?_, closed⟩
      simp only [call, finish, closed] at h
      exact (Except.ok.inj h).symm
  | start | feedHandshake | encrypt | feed | next | split =>
      rw [call_of_phase_ne rfl (by rw [gone]; exact nofun)]
      exact ⟨nofun, closed⟩

theorem next_failed {l : Link S} (here : l.phase = .established) {e : LinkError} (failed : l.next.1 = .error e) :
    l.next.2 = l.close := by
  obtain ⟨state, buffer, remote, limit⟩ := l
  cases state with
  | fresh | handshake | closed => cases here
  | established encoder decoder =>
      rcases decoder.next_cases with ⟨payload, d, found⟩ | ⟨n, d, found⟩ | ⟨err, d, fatal, found⟩
      · simp [next, found] at failed
      · simp [next, found] at failed
      · simp only [next, found]
        cases err with
        | missingBytes => cases fatal
        | noise | truncatedRecord | unexpectedState | messageTooLarge => rfl

/-- What every run of calls on a new link shows, for the call after it and for all that may follow. -/
structure LifeCycle (calls : List (Call S)) (l : Link S) : Prop where
  moves : ∀ c, Move l.phase c (l.call c).1 (l.call c).2.phase
  neverBack : ∀ later, l.phase.rank ≤ (Calls.run call l later).phase.rank
  ready : l.isReady = true ↔ Lasts (Calls.answers call new calls)
  refused : ∀ c q, c.phase = some q → l.phase ≠ q → l.call c = (.error .unexpectedState, l)
  deaf : ∀ b e, l.phase = .handshake → (l.call (.feedHandshake b)).1 = .error e → ∀ later,
    (Calls.run call (l.call (.feedHandshake b)).2 later).isReady = false ∧
      (.close ∉ later → ∀ x ∈ Calls.answers call (l.call (.feedHandshake b)).2 later, ∀ b',
        x.1 = .feedHandshake b' → x.2 = .error (.noise .handshakeAborted))
  /-- A closed link has neither half left, so that nothing more is sealed or opened. -/
  closed : ∀ c, c = .close ∨ l.phase = .established ∧ c = .next ∧ (∃ e, (l.call c).1 = .error e) →
    (l.call c).2 = l.close ∧ ∀ later, (Calls.run call l.close later).state = .closed ∧
      ∀ x ∈ Calls.answers call l.close later, ∀ o, x.2 = .ok o → o = .done

theorem rank_le_run (l : Link S) (calls : List (Call S)) : l.phase.rank ≤ (Calls.run call l calls).phase.rank := by
  have kept := Calls.preserved call calls (fun l' => l.phase.rank ≤ l'.phase.rank) (fun _ _ => True)
    (fun l' h c _ => ⟨trivial, h.trans (move l' c).rank_le⟩) (Nat.le_refl _)
  exact kept.2

theorem deaf_of_failed {l : Link S} (here : l.phase = .handshake) {b : Bytes} {e : LinkError}
    (failed : (l.call (.feedHandshake b)).1 = .error e) : (l.call (.feedHandshake b)).2.Deaf := by
  cases h : l.state with
  | fresh | established | closed => simp [phase, h] at here
  | handshake role =>
      have fed := fed_feedHandshake h b
      simp only [call] at failed ⊢
      generalize l.feedHandshake b = r at fed failed
      obtain ⟨r, l'⟩ := r
      cases fed with
      | ready | going => cases failed
      | failed _ still deaf => exact ⟨_, still, deaf⟩

theorem isReady_run_of_deaf {l : Link S} (deaf : l.Deaf) (later : List (Call S)) :
    (Calls.run call l later).isReady = false := by
  -- closing it is all that changes a deaf link
  have kept := Calls.preserved call later (fun l => l.Deaf ∨ l.state = .closed) (fun _ _ => True)
    (by
      rintro l (deaf | closed) c -
      · by_cases closes : c = .close
        · subst closes
          exact ⟨trivial, .inr rfl⟩
        · exact ⟨trivial, .inl (deaf.call closes).2⟩
      · exact ⟨trivial, .inr (call_of_closed closed c).2⟩) (.inl deaf)
  rw [isReady]
  rcases kept.2 with ⟨role, here, -⟩ | closed
  · rw [here]
  · rw [closed]

theorem life_cycle (calls : List (Call S)) : LifeCycle calls (Calls.run call new calls) where
  moves := move _
  neverBack := rank_le_run _
  ready := isReady_run calls
  refused c q := call_of_phase_ne
  deaf b e here failed later := by
    have deaf := deaf_of_failed here failed
    refine ⟨isReady_run_of_deaf deaf later, fun goes x mem b' same => ?_⟩
    have kept := Calls.preserved call later Deaf
      (fun c a => ∀ b, c = .feedHandshake b → a = .error (.noise .handshakeAborted))
      (fun l deaf c mem => deaf.call (by rintro rfl; exact goes mem)) deaf
    exact kept.1 x mem b' same
  closed c closes := by
    have ended : ((Calls.run call new calls).call c).2 = (Calls.run call new calls).close := by
      rcases closes with rfl | ⟨here, rfl, e, failed⟩
      · rfl
      · cases h : (Calls.run call new calls).next.1 with
        | ok payload => simp [call, h, Except.map] at failed
        | error e => exact next_failed here h
    refine ⟨ended, fun later => ?_⟩
    have kept := Calls.preserved call later (fun l : Link S => l.state = .closed)
      (fun _ a => ∀ o, a = .ok o → o = .done) (fun l closed c _ => call_of_closed closed c)
      (s := (Calls.run call new calls).close) rfl
    exact ⟨kept.2, kept.1⟩

end NoiseLink.Link
