import NoiseLink.Proofs.KeyAgreement
import NoiseLink.Proofs.LinkLifeCycle

namespace NoiseLink.Link

variable {S : Suite}

def Call.remote? : Call S → Option S.Point
  | .start (.initiator i) => some i.remote
  | _ => none

def tried (calls : List (Call S)) : Option S.Point := (calls.filterMap Call.remote?).getLast?

/-- The act three that `b` completes is opened, and proves `p`. -/
def Proves (l : Link S) (b : Bytes) (p : S.Point) : Prop :=
  ∃ r r' session, l.state = .handshake (.responder r) ∧
    r.receiveActThree ((l.buffer ++ b).take actThreeSize) = (.ok (p, session), r')

inductive Learns (l : Link S) (b : Bytes) : Except LinkError HandshakeStep × Link S → Prop
  | nothing {answer : Except LinkError HandshakeStep} {l' : Link S} (other : answer ≠ .ok (.ready none))
      (same : l'.remote = l.remote) (still : ∀ r, l'.state = .handshake (.responder r) →
        ∃ r, l.state = .handshake (.responder r)) : Learns l b (answer, l')
  | key {p : S.Point} {l' : Link S} (proves : l.Proves b p) (known : l'.remote = some p)
      (done : l'.phase = .established) : Learns l b (.ok (.ready none), l')

theorem learns_feedHandshake (l : Link S) (b : Bytes) : Learns l b (l.feedHandshake b) := by
  obtain ⟨state, buffer, remote, limit⟩ := l
  cases state with
  | fresh | established | closed => exact .nothing (by simp) rfl (by simp)
  | handshake role =>
      simp only [feedHandshake]
      split
      · exact .nothing (by simp) rfl fun r here => ⟨r, here⟩
      · rename_i size awaits
        split
        · exact .nothing (by simp) rfl fun r here => ⟨r, here⟩
        · cases role with
          | initiator i =>
              simp only [receiveAct]
              rcases i.receiveActTwo _ with ⟨e | ⟨reply, session⟩, i'⟩
              · exact .nothing (by simp) rfl (by simp)
              · exact .nothing (by simp) rfl (by simp [establish])
          | responder r =>
              simp only [receiveAct]
              split
              · rcases r.receiveActOne _ with ⟨e | reply, r'⟩
                · exact .nothing (by simp) rfl fun _ _ => ⟨r, rfl⟩
                · exact .nothing (by simp) rfl fun _ _ => ⟨r, rfl⟩
              · rename_i other
                obtain rfl : size = actThreeSize := by
                  rcases Responder.expectedSize_eq_some_iff.1 awaits with ⟨-, rfl⟩ | ⟨-, rfl⟩
                  · exact absurd rfl other
                  · rfl
                rcases opened : r.receiveActThree _ with ⟨e | ⟨p, session⟩, r'⟩
                · exact .nothing (by simp) rfl fun _ _ => ⟨r, rfl⟩
                · exact .key ⟨r, r', session, rfl, opened⟩ rfl rfl

/-- A start that fails leaves all but the remote key as it was. -/
theorem start_of_error {l : Link S} {role : Role S} {e : LinkError} (failed : (l.start role).1 = .error e) :
    l.phase ≠ .fresh ∧ (l.start role).2 = l ∨
      l.phase = .fresh ∧ ∃ i, role = .initiator i ∧ (l.start role).2 = { l with remote := some i.remote } := by
  obtain ⟨state, buffer, remote, limit⟩ := l
  cases state with
  | handshake | established | closed => cases role <;> exact .inl ⟨by simp [phase], rfl⟩
  | fresh =>
      cases role with
      | responder r => cases failed
      | initiator i =>
          refine .inr ⟨rfl, i, rfl, ?_⟩
          simp only [start, isFresh, if_true] at failed ⊢
          generalize i.sendActOne = sent at failed
          rcases sent with ⟨e | act, i'⟩
          · rfl
          · cases failed

theorem remote_start {l : Link S} (here : l.phase = .fresh) (role : Role S) :
    (l.start role).2.remote = ((Call.start role).remote?.or l.remote) := by
  obtain ⟨state, buffer, remote, limit⟩ := l
  cases state with
  | handshake | established | closed => cases here
  | fresh =>
      cases role with
      | responder r => rfl
      | initiator i =>
          simp only [start, isFresh, if_true]
          rcases i.sendActOne with ⟨e | act, i'⟩ <;> rfl

theorem remote_call (l : Link S) {c : Call S} (start : l.phase = .fresh → ∀ role, c ≠ .start role)
    (handshake : ∀ b, c ≠ .feedHandshake b) : (l.call c).2.remote = l.remote := by
  rcases l.refused_or_here c with refused | here
  · rw [refused]
  · cases c with
    | start role => exact absurd rfl (start (here _ rfl) role)
    | feedHandshake b => exact absurd rfl (handshake b)
    | withLimit | finish | close | split => rfl
    | encrypt p =>
        simp only [call, encrypt]
        split <;> rfl
    | feed b =>
        simp only [call, feed]
        split <;> rfl
    | next =>
        simp only [call, next]
        split
        · split <;> rfl
        · rfl

theorem phase_ne_fresh_call {l : Link S} (begun : l.phase ≠ .fresh) (c : Call S) : (l.call c).2.phase ≠ .fresh := by
  intro fresh
  have later := (move l c).rank_le
  rw [fresh] at later
  generalize l.phase = p at begun later
  cases p with
  | fresh => exact begun rfl
  | handshake | established | closed => cases later

theorem state_of_handshake_call {l : Link S} {c : Call S} {role : Role S} (begun : l.phase ≠ .fresh)
    (other : ∀ b, c ≠ .feedHandshake b) (after : (l.call c).2.state = .handshake role) : l.state = .handshake role := by
  have later := (move l c).rank_le
  rw [phase_of_handshake after] at later
  rcases l.refused_or_here c with refused | here
  · rw [refused] at after
    exact after
  · cases c with
    | start role => exact absurd (here _ rfl) begun
    | feedHandshake b => exact absurd rfl (other b)
    | withLimit | finish => exact after
    | close => cases after
    | encrypt | feed | next | split =>
        rw [here _ rfl] at later
        exact absurd later (by decide)

structure Shows (known : Option S.Point) (l : Link S) : Prop where
  begun : l.phase ≠ .fresh
  remote : l.remote = known

theorem Shows.call {known : Option S.Point} {l : Link S} (shows : Shows known l) {c : Call S}
    (unproved : (l.call c).1 ≠ .ok (.step (.ready none))) : Shows known (l.call c).2 := by
  refine ⟨phase_ne_fresh_call shows.begun c, ?_⟩
  by_cases handshake : ∃ b, c = .feedHandshake b
  · obtain ⟨b, rfl⟩ := handshake
    have learns := l.learns_feedHandshake b
    simp only [Link.call] at unproved ⊢
    generalize l.feedHandshake b = result at learns unproved
    cases learns with
    | nothing other same => exact same.trans shows.remote
    | key => exact absurd rfl unproved
  · have same := l.remote_call (c := c) (fun here => absurd here shows.begun) fun b same => handshake ⟨b, same⟩
    exact same.trans shows.remote

/-- No act three is awaited any more, so that the key stays. -/
structure Keeps (known : Option S.Point) (l : Link S) : Prop extends Shows known l where
  unawaited : ∀ r, l.state ≠ .handshake (.responder r)

theorem Keeps.call {known : Option S.Point} {l : Link S} (keeps : Keeps known l) (c : Call S) :
    Keeps known (l.call c).2 := by
  by_cases handshake : ∃ b, c = .feedHandshake b
  · obtain ⟨b, rfl⟩ := handshake
    have begun := phase_ne_fresh_call keeps.begun (.feedHandshake b)
    have learns := l.learns_feedHandshake b
    simp only [Link.call] at begun ⊢
    generalize l.feedHandshake b = result at learns begun
    cases learns with
    | nothing other same still =>
        refine ⟨⟨begun, same.trans keeps.remote⟩, fun r here => ?_⟩
        obtain ⟨r, before⟩ := still r here
        exact keeps.unawaited r before
    | key proves =>
        obtain ⟨r, _, _, here, -⟩ := proves
        exact absurd here (keeps.unawaited r)
  · have other : ∀ b, c ≠ .feedHandshake b := fun b same => handshake ⟨b, same⟩
    have same := l.remote_call (fun here => absurd here keeps.begun) other
    refine ⟨⟨phase_ne_fresh_call keeps.begun c, same.trans keeps.remote⟩, fun r here => ?_⟩
    exact keeps.unawaited r (state_of_handshake_call keeps.begun other here)

theorem Keeps.run {known : Option S.Point} {l : Link S} (keeps : Keeps known l) (later : List (Call S)) :
    Keeps known (Calls.run Link.call l later) := by
  have kept := Calls.preserved Link.call later (Keeps known) (fun _ _ => True)
    (fun l keeps c _ => ⟨trivial, keeps.call c⟩) keeps
  exact kept.2

theorem Shows.run {known : Option S.Point} {l : Link S} (shows : Shows known l) {later : List (Call S)}
    (unproved : ∀ x ∈ Calls.answers Link.call l later, x.2 ≠ .ok (.step (.ready none))) :
    Shows known (Calls.run Link.call l later) := by
  induction later generalizing l with
  | nil => exact shows
  | cons c later ih =>
      obtain ⟨here, rest⟩ := List.forall_mem_cons.1 unproved
      exact ih (shows.call here) rest

theorem tried_concat (calls : List (Call S)) (c : Call S) : tried (calls ++ [c]) = c.remote?.or (tried calls) := by
  rw [tried, List.filterMap_append]
  cases h : c.remote? <;> simp [tried, h]

theorem tried_eq_none_iff {calls : List (Call S)} : tried calls = none ↔ ∀ i, .start (.initiator i) ∉ calls := by
  rw [tried, List.getLast?_eq_none_iff, List.filterMap_eq_nil_iff]
  constructor
  · intro none i mem
    cases none _ mem
  · intro absent c mem
    match c with
    | .start (.initiator i) => exact absurd mem (absent i)
    | .start (.responder _) | .withLimit _ | .feedHandshake _ | .encrypt _ => rfl
    | .feed _ | .next | .finish | .close | .split => rfl

theorem remote_of_fresh {calls : List (Call S)} (fresh : (Calls.run call new calls).phase = .fresh) :
    (Calls.run call new calls).remote = tried calls := by
  induction calls using List.reverseRecOn with
  | nil => rfl
  | append_singleton calls c ih =>
      rw [Calls.run_concat] at fresh ⊢
      rw [tried_concat]
      have before : (Calls.run call new calls).phase = .fresh := by
        by_contra begun
        exact phase_ne_fresh_call begun c fresh
      cases c with
      | start role => exact (remote_start before role).trans (congrArg _ (ih before))
      | feedHandshake b =>
          rw [call_of_phase_ne rfl (by rw [before]; decide)]
          exact ih before
      | withLimit | encrypt | feed | next | finish | close | split =>
          rw [remote_call _ (by simp) (by simp)]
          exact ih before

theorem shows_start {l : Link S} (fresh : l.phase = .fresh) (r : Responder S) :
    Shows l.remote (l.call (.start (.responder r))).2 := by
  obtain ⟨state, buffer, remote, limit⟩ := l
  cases state with
  | handshake | established | closed => cases fresh
  | fresh => exact ⟨by simp [phase, call, start, isFresh], rfl⟩

theorem keeps_start {l : Link S} {i : Initiator S} {step : HandshakeStep}
    (started : (l.start (.initiator i)).1 = .ok step) :
    Keeps (some i.remote) (l.call (.start (.initiator i))).2 := by
  obtain ⟨state, buffer, remote, limit⟩ := l
  cases state with
  | handshake | established | closed => cases started
  | fresh =>
      simp only [call, start, isFresh, if_true] at started ⊢
      generalize i.sendActOne = sent at started
      rcases sent with ⟨e | act, i'⟩
      · cases started
      · exact ⟨⟨by simp [phase], rfl⟩, by simp⟩

/-- The remote key of a link that was started after the calls `first`. Before an act three is opened, there is none
exactly if the link was not to start with an initiator before. -/
structure Responds (first : List (Call S)) (started : Link S) : Prop where
  unproved : ∀ later, (∀ x ∈ Calls.answers call started later, x.2 ≠ .ok (.step (.ready none))) →
    (Calls.run call started later).remote = tried first ∧
    ((Calls.run call started later).remote = none ↔ ∀ i, .start (.initiator i) ∉ first)
  proved : ∀ before b after, ((Calls.run call started before).call (.feedHandshake b)).1 = .ok (.step (.ready none)) →
    ∃ p, (Calls.run call started before).Proves b p ∧
      (Calls.run call started (before ++ .feedHandshake b :: after)).remote = some p

theorem keeps_of_ready {l : Link S} {b : Bytes} (ready : (l.call (.feedHandshake b)).1 = .ok (.step (.ready none))) :
    ∃ p, l.Proves b p ∧ Keeps (some p) (l.call (.feedHandshake b)).2 := by
  have learns := l.learns_feedHandshake b
  simp only [call] at ready ⊢
  generalize l.feedHandshake b = result at learns ready
  cases learns with
  | @nothing answer l' other =>
      cases answer with
      | error e => cases ready
      | ok step =>
          cases ready
          exact absurd rfl other
  | @key p l' proves known done =>
      refine ⟨p, proves, ⟨by rw [done]; decide, known⟩, fun r here => ?_⟩
      cases done.symm.trans (phase_of_handshake here)

theorem responds {first : List (Call S)} (fresh : (Calls.run call new first).phase = .fresh) (r : Responder S) :
    Responds first ((Calls.run call new first).call (.start (.responder r))).2 := by
  have begins := shows_start fresh r
  rw [remote_of_fresh fresh] at begins
  refine ⟨fun later unproved => ?_, fun before b after proved => ?_⟩
  · have shown := (begins.run unproved).remote
    exact ⟨shown, by rw [shown, tried_eq_none_iff]⟩
  · obtain ⟨p, proves, keeps⟩ := keeps_of_ready proved
    refine ⟨p, proves, ?_⟩
    rw [Calls.run_append]
    exact (keeps.run after).remote

/-- A start that fails changes nothing but the remote key, and that only if a new link was to start with an initiator of
another one. A link that is started later as a responder shows that key, instead of none, until an act three is opened;
from then on it shows the key which that act proves. An initiator's link shows its key from the start. -/
theorem remote_after_starts :
    (∀ (l : Link S) (role : Role S) (e : LinkError), (l.start role).1 = .error e →
      (l.start role).2.state = l.state ∧ (l.start role).2.buffer = l.buffer ∧ (l.start role).2.limit = l.limit ∧
      ((l.start role).2.remote = l.remote ↔
        ∀ i, l.phase = .fresh → role = .initiator i → l.remote = some i.remote)) ∧
    (∀ first : List (Call S), (Calls.run call new first).phase = .fresh → ∀ r : Responder S,
      Responds first ((Calls.run call new first).call (.start (.responder r))).2) ∧
    ∀ (first : List (Call S)) (i : Initiator S) (step : HandshakeStep) (later : List (Call S)),
      ((Calls.run call new first).start (.initiator i)).1 = .ok step →
        (Calls.run call ((Calls.run call new first).call (.start (.initiator i))).2 later).remote = some i.remote := by
  refine ⟨fun l role e failed => ?_, fun first fresh => responds fresh, fun first i step later started => ?_⟩
  · rcases start_of_error failed with ⟨begun, same⟩ | ⟨fresh, i, rfl, changed⟩
    · rw [same]
      exact ⟨rfl, rfl, rfl, iff_of_true rfl fun i fresh => absurd fresh begun⟩
    · rw [changed]
      refine ⟨rfl, rfl, rfl, fun same i' _ asked => ?_, fun known => ?_⟩
      · cases asked
        exact same.symm
      · exact (known i fresh rfl).symm
  · exact ((keeps_start started).run later).remote

theorem remote_after_starts_spent :
    let spent : Role .standard := .initiator Secrets.vectors.initiatorAwaiting
    let first : List (Call .standard) := [.start spent]
    let started := ((Calls.run call new first).call (.start (.responder Secrets.vectors.responderSide))).2
    (new.start spent).1 = .error (.noise .unexpectedHandshakeMessage) ∧ (Calls.run call new first).phase = .fresh ∧
      (Calls.run call started [.feedHandshake [0]]).remote = some Secrets.vectors.initiatorAwaiting.remote := by
  intro spent first started
  have failed : (new.start spent).1 = .error (.noise .unexpectedHandshakeMessage) := rfl
  have fresh : (Calls.run call new first).phase = .fresh := rfl
  have unproved : ∀ x ∈ Calls.answers call started [.feedHandshake [0]], x.2 ≠ .ok (.step (.ready none)) := by
    intro x mem
    obtain rfl := List.mem_singleton.1 mem
    intro proved
    cases proved
  have responds := (remote_after_starts (S := .standard)).2.1 first fresh Secrets.vectors.responderSide
  exact ⟨failed, fresh, (responds.unproved _ unproved).1⟩

/-- A new link shows no remote key. When it was to start with an initiator that has been used, it shows the key of that
initiator, and goes on to do so as a responder. -/
theorem spent_initiator_leaves_remote :
    let spent : Role .standard := .initiator Secrets.vectors.initiatorAwaiting
    let l : Link .standard := (new.start spent).2
    let started := (l.start (.responder Secrets.vectors.responderSide)).2
    Secrets.vectors.initiatorSide.sendActOne.2 = Secrets.vectors.initiatorAwaiting ∧
      (new.start spent).1 = .error (.noise .unexpectedHandshakeMessage) ∧ l.remote ≠ (new : Link .standard).remote ∧
      (l.start (.responder Secrets.vectors.responderSide)).1 = .ok (.needMore 50) ∧ started.remote ≠ none := by
  refine ⟨congrArg Prod.snd Secrets.vectors.sendActOne, rfl, ?_, rfl, ?_⟩
  · exact Option.some_ne_none _
  · exact Option.some_ne_none _

end NoiseLink.Link
