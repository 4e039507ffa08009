import NoiseLink.Proofs.HandshakeChunks
import NoiseLink.Proofs.LinkArrivals

namespace NoiseLink.Link

variable {S : Suite}

inductive Waits : Link S → Prop
  | established {decoder : Decoder S} (short : decoder.Short) (encoder : Encoder S) (buffer : Bytes)
      (remote : Option S.Point) (limit : Nat) : Waits ⟨.established encoder decoder, buffer, remote, limit⟩
  | closed {l : Link S} (closed : l.state = .closed) : Waits l

theorem waits_of_next {l : Link S} (none : (l.call .next).1 = .ok (.payload none)) : (l.call .next).2.Waits := by
  obtain ⟨state, buffer, remote, limit⟩ := l
  cases state with
  | fresh | handshake | closed => cases none
  | established encoder decoder =>
      simp only [call, next] at none ⊢
      rcases decoder.next_cases with ⟨p, d, found⟩ | ⟨n, d, found⟩ | ⟨err, d, fatal, found⟩
      · rw [found] at none
        cases none
      · rw [found]
        exact .established ((Decoder.Read.of_next found).short rfl) _ _ _ _
      · rw [found] at none
        cases err with
        | missingBytes => cases fatal
        | _ => cases none

theorem Waits.call {l : Link S} (h : l.Waits) {c : Call S} (kept : c ≠ .next ∧ ∀ b, c ≠ .feed b) :
    (l.call c).2.Waits := by
  cases h with
  | closed closed => exact .closed (call_of_closed closed c).2
  | established short encoder buffer remote limit =>
      cases c with
      | next => exact absurd rfl kept.1
      | feed b => exact absurd rfl (kept.2 b)
      | close => exact .closed rfl
      | start role => cases role <;> exact .established short _ _ _ _
      | withLimit | feedHandshake | encrypt | finish | split => exact .established short _ _ _ _

inductive Pauses (role : Role S) (bytes : Bytes) : Link S → Prop
  | waiting (remote : Option S.Point) (limit : Nat) : Pauses role bytes (handshaking role bytes remote limit)
  | closed {l : Link S} (closed : l.phase = .closed) : Pauses role bytes l

theorem Pauses.call {role : Role S} {bytes : Bytes} {l : Link S} (h : l.Pauses role bytes) {c : Call S}
    (kept : (∀ role, c ≠ .start role) ∧ ∀ b, c ≠ .feedHandshake b) :
    Plain (c, (l.call c).1) ∧ (l.call c).2.Pauses role bytes := by
  rcases l.refused_or_here c with refused | here
  · rw [refused]
    exact ⟨plain_refused c _, h⟩
  · cases c with
    | start role => exact absurd rfl (kept.1 role)
    | feedHandshake b => exact absurd rfl (kept.2 b)
    | finish => exact ⟨⟨rfl, rfl, rfl⟩, h⟩
    | close => exact ⟨⟨rfl, rfl, rfl⟩, .closed rfl⟩
    | withLimit size =>
        cases h with
        | waiting remote limit => exact ⟨⟨rfl, rfl, rfl⟩, .waiting remote _⟩
        | closed closed => exact ⟨⟨rfl, rfl, rfl⟩, .closed closed⟩
    | encrypt | feed | next | split =>
        have ready := here _ rfl
        cases h with
        | waiting => cases ready
        | closed closed => cases closed.symm.trans ready

/-- The bytes that a link asks for are what is missing of the act that it awaits. -/
theorem Tracked.needMore {K : Epoch S → Prop} {t : List (Event S)} {l : Link S} (h : Tracked K t l) {c : Call S} {n : Nat}
    (more : (l.call c).1 = .ok (.step (.needMore n))) :
    ∃ role bytes remote limit, (l.call c).2 = handshaking role bytes remote limit ∧
      Came (t ++ [(c, (l.call c).1)]) bytes ∧ role.expectedSize.getD 0 = bytes.length + n := by
  have moved := l.move c
  rw [more] at moved ⊢
  generalize answered : (.ok (.step (.needMore n)) : Except LinkError (Output S)) = a, here : l.phase = p,
    (l.call c).2.phase = q at moved
  cases moved with
  | refused | spent | ready | aborted | taken | read | failed | parted | limited | closed => cases answered
  | sent p r | judged p r => cases r <;> cases answered
  | started role step =>
      cases answered
      cases h with
      | awaiting | established => cases here
      | closed closed => cases closed.symm.trans here
      | deaf deaf => cases deaf.phase.symm.trans here
      | fresh came silent remote limit =>
          cases role with
          | responder r =>
              cases more
              exact ⟨.responder r, [], remote, limit, rfl, came.plain ⟨rfl, rfl, rfl⟩, (Nat.zero_add _).symm⟩
          | initiator i =>
              simp only [Link.call, Link.start, isFresh, if_true] at more
              generalize i.sendActOne = sent at more
              rcases sent with ⟨e | act, i'⟩ <;> cases more
  | fed b going =>
      cases answered
      cases h with
      | fresh | established => cases here
      | closed closed => cases closed.symm.trans here
      | deaf deaf =>
          rw [Link.call, (deaf.feedHandshake b).1] at more
          cases more
      | @awaiting bytes came silent role remote limit =>
          have heeds := heeds role bytes b remote limit
          simp only [Link.call] at more ⊢
          generalize (handshaking role bytes remote limit).feedHandshake b = r at heeds more ⊢
          cases heeds with
          | failed | answered | initiated | accepted => cases more
          | @short role' m awaits few =>
              cases more
              refine ⟨role', bytes ++ b, remote, limit, rfl, came.more rfl, ?_⟩
              rw [awaits, Option.getD_some]
              omega

/-- The end of the input in the middle of a handshake, where `n` more bytes are wanted. -/
structure ActVerdict (n : Nat) (bytes : Bytes) (verdict : Except LinkError Unit) : Prop where
  complete : verdict = .ok () ↔ bytes = []
  truncated : bytes ≠ [] → ∃ expected, verdict = .error (.truncatedRecord expected bytes.length) ∧
    bytes.length ≤ expected ∧ expected - bytes.length = n

theorem actVerdict_handshaking {role : Role S} {bytes : Bytes} {n : Nat}
    (awaits : role.expectedSize.getD 0 = bytes.length + n) (remote : Option S.Point) (limit : Nat) :
    ActVerdict n bytes (handshaking role bytes remote limit).finish := by
  by_cases empty : bytes = []
  · have judged : (handshaking role bytes remote limit).finish = .ok () := if_pos empty
    exact ⟨⟨fun _ => empty, fun _ => judged⟩, fun some => absurd empty some⟩
  · have judged : (handshaking role bytes remote limit).finish =
        .error (.truncatedRecord (role.expectedSize.getD 0) bytes.length) := if_neg empty
    rw [judged, awaits]
    exact ⟨⟨nofun, fun none => absurd none empty⟩, fun _ => ⟨_, rfl, Nat.le_add_right _ _, Nat.add_sub_cancel_left ..⟩⟩

/-- Once a link has read all it can, the end of the input is good exactly if nothing is left of what reached it but the
records that it returned, and once it has asked for more of an act, exactly if it has no byte of that act. Otherwise
the error tells how much there is and how much there should be. -/
theorem end_of_input_judged (before since : List (Call S)) :
    (((Calls.run call new before).call .next).1 = .ok (.payload none) → (∀ c ∈ since, c ≠ .next ∧ ∀ b, c ≠ .feed b) →
      let l := Calls.run call new (before ++ .next :: since)
      let t := Calls.answers call new (before ++ .next :: since)
      l.phase = .established → ∃ e records rest, Keyed (before ++ .next :: since) e ∧
        e.Verdict (arrived t) (returned t) records rest l.finish) ∧
    ∀ c n, ((Calls.run call new before).call c).1 = .ok (.step (.needMore n)) →
      (∀ c ∈ since, (∀ role, c ≠ .start role) ∧ ∀ b, c ≠ .feedHandshake b) →
      let l := Calls.run call new (before ++ c :: since)
      let t := Calls.answers call new (before ++ c :: since)
      l.phase = .handshake → ActVerdict n (arrived t) l.finish := by
  constructor
  · intro none kept l t ready
    obtain ⟨e, bytes, encoder, decoder, remote, limit, here, keyed, came, reached⟩ :=
      (tracked_run (before ++ .next :: since)).of_established ready
    have waits : l.Waits := by
      have kept := Calls.preserved call since Waits (fun _ _ => True)
        (fun l waits c mem => ⟨trivial, waits.call (kept c mem)⟩) (waits_of_next none)
      have whole : l = _ := Calls.run_append call new before (.next :: since)
      rw [whole]
      exact kept.2
    have same : l = ⟨.established encoder decoder, [], remote, limit⟩ := here
    rw [same] at waits
    rw [same, came.arrived_eq]
    cases waits with
    | closed closed => cases closed
    | established short =>
        obtain ⟨records, rest, verdict⟩ := reached.verdict short
        exact ⟨e, records, rest, keyed, verdict⟩
  · intro c n more kept l t here
    obtain ⟨role, bytes, remote, limit, asked, came, awaits⟩ := (tracked_run before).needMore more
    have waiting : ((Calls.run call new before).call c).2.Pauses role bytes := by
      rw [asked]
      exact .waiting remote limit
    obtain ⟨plain, last⟩ := Calls.preserved call since (Pauses role bytes) (fun c a => Plain (c, a))
      (fun l pauses c mem => pauses.call (kept c mem)) waiting
    have whole : l = _ := Calls.run_append call new before (c :: since)
    have history : t = _ := Calls.answers_append call new before (c :: since)
    have arrived : arrived t = bytes := by
      rw [history, Calls.answers, List.append_cons]
      exact (came.append plain).arrived_eq
    have paused : l.Pauses role bytes := by
      rw [whole]
      exact last
    rw [arrived]
    generalize l = final at paused here
    cases paused with
    | waiting remote limit => exact actVerdict_handshaking awaits remote limit
    | closed closed => cases closed.symm.trans here

section Header

variable (k : Secrets S) (lawful : S.Lawful) (limit : Nat)
include lawful

theorem run_behind_actTwo (rest : Bytes) :
    Calls.run call new [.withLimit limit, .start (.initiator k.initiatorSide),
      .feedHandshake (k.transcript.actTwo ++ rest)] =
      ready (k.outward.sealer 0) (k.inward.between 0 rest) (S.publicKey k.responder) (min limit maxMessageSize) := by
  have started := start_awaitingActTwo k limit
  have heard := accept_actTwo k (min limit maxMessageSize) lawful (List.nil_append (k.transcript.actTwo ++ rest))
  rw [awaitingActTwo, accept_handshaking] at heard
  simp only [Calls.run, List.foldl_cons, List.foldl_nil, call, started]
  exact congrArg Prod.snd heard

theorem run_header (p : Bytes) :
    Calls.run call new [.withLimit limit, .start (.initiator k.initiatorSide),
      .feedHandshake (k.transcript.actTwo ++ k.inward.header 0 p)] =
      ready (k.outward.sealer 0) (k.inward.between 0 (k.inward.header 0 p)) (S.publicKey k.responder)
        (min limit maxMessageSize) :=
  run_behind_actTwo k lawful limit _

theorem next_header {p : Bytes} (fits : p.length ≤ maxMessageSize) :
    (ready (k.outward.sealer 0) (k.inward.between 0 (k.inward.header 0 p)) (S.publicKey k.responder) limit).call .next =
      (.ok (.payload none),
        ready (k.outward.sealer 0) (k.inward.within 1 p.length []) (S.publicKey k.responder) limit) := by
  have opened := Epoch.next_header (e := k.inward) lawful.toSealing 0 fits []
  have short : ([] : Bytes).length < p.length + macSize := Nat.succ_pos _
  rw [List.append_nil, Nat.mul_zero, Nat.zero_add, k.inward.next_within_of_lt 1 _ short] at opened
  simp only [call, next, ready, opened]
  rfl

end Header

theorem end_of_input_judged_header :
    let k := Secrets.vectors
    let header := k.inward.header 0 [1, 2, 3]
    let before : List (Call .standard) :=
      [.withLimit 100, .start (.initiator k.initiatorSide), .feedHandshake (k.transcript.actTwo ++ header)]
    let calls := before ++ [.next, .finish]
    let first : List (Call .standard) := [.start (.responder k.responderSide)]
    let acts := first ++ [.feedHandshake (Bytes.zeros 10), .finish]
    ((Calls.run call new before).call .next).1 = .ok (.payload none) ∧
      (Calls.run call new calls).phase = .established ∧
      (∃ e records rest, Keyed calls e ∧ e.Verdict (arrived (Calls.answers call new calls))
        (returned (Calls.answers call new calls)) records rest (Calls.run call new calls).finish) ∧
      (Calls.run call new calls).finish = .error (.truncatedRecord 37 18) ∧
      ((Calls.run call new first).call (.feedHandshake (Bytes.zeros 10))).1 = .ok (.step (.needMore 40)) ∧
      (Calls.run call new acts).phase = .handshake ∧
      ActVerdict 40 (arrived (Calls.answers call new acts)) (Calls.run call new acts).finish := by
  intro k header before calls first acts
  let opened : Link .standard :=
    ready (k.outward.sealer 0) (k.inward.within 1 3 []) (Suite.standard.publicKey k.responder) (min 100 maxMessageSize)
  have read : (Calls.run call new before).call .next = (.ok (.payload none), opened) := by
    have fits : ([1, 2, 3] : Bytes).length ≤ maxMessageSize := by decide
    have started : Calls.run call new before = _ := run_header k Suite.standard_lawful 100 [1, 2, 3]
    rw [started, next_header k Suite.standard_lawful _ fits]
    rfl
  have last : Calls.run call new calls = opened := by
    rw [Calls.run_append, Calls.run, List.foldl_cons, read]
    rfl
  have none := congrArg Prod.fst read
  have here : (Calls.run call new calls).phase = .established := by
    rw [last]
    rfl
  have cut : (Calls.run call new calls).finish = .error (.truncatedRecord 37 18) := by
    rw [last]
    rfl
  have kept : ∀ c ∈ [Call.finish], c ≠ (.next : Call .standard) ∧ ∀ b, c ≠ .feed b := by simp
  have kept' : ∀ c ∈ [Call.finish], (∀ role, c ≠ (.start role : Call .standard)) ∧ ∀ b, c ≠ .feedHandshake b := by
    simp
  have asked : ((Calls.run call new first).call (.feedHandshake (Bytes.zeros 10))).1 = .ok (.step (.needMore 40)) := rfl
  have waiting : (Calls.run call new acts).phase = .handshake := rfl
  exact ⟨none, here, (end_of_input_judged before [.finish]).1 none kept here, cut, asked, waiting,
    (end_of_input_judged first [.finish]).2 _ 40 asked kept' waiting⟩

end NoiseLink.Link
