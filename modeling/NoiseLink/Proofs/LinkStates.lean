import NoiseLink.Proofs.ActScripts
import NoiseLink.Proofs.LinkLifeCycle

namespace NoiseLink

variable {S : Suite}

namespace Epoch

variable {e : Epoch S}

variable (e) in
inductive Follows : Decoder S → Prop
  | between (t : Nat) (buffer : Bytes) : Follows (e.between t buffer)
  | within (t n : Nat) (buffer : Bytes) : Follows (e.within t n buffer)

variable (e) in
inductive Reading : Except LinkError Bytes × Decoder S → Prop
  | payload (p : Bytes) {d : Decoder S} (follows : e.Follows d) : Reading (.ok p, d)
  | missing (n : Nat) {d : Decoder S} (follows : e.Follows d) : Reading (.error (.missingBytes n), d)
  | failed {stage : Stage} (record : stage.isRecord = true) (t : Nat) :
      Reading (.error (.noise (.authenticationFailed stage)), e.failed t)

namespace Follows

variable {d : Decoder S}

theorem feed (h : e.Follows d) (b : Bytes) : e.Follows (d.feed b) := by
  cases h with
  | between t buffer => exact .between t (buffer ++ b)
  | within t n buffer => exact .within t n (buffer ++ b)

theorem reading_within (t n : Nat) (buffer : Bytes) : e.Reading (e.within t n buffer).next := by
  by_cases short : buffer.length < n + macSize
  · rw [e.next_within_of_lt t n short]
    exact .missing _ (.within t n buffer)
  · obtain ⟨body, rest, rfl, size⟩ := exists_append_of_le (Nat.le_of_not_lt short)
    rw [e.next_within t n size]
    cases e.unsealedAt t body with
    | none => exact .failed rfl t
    | some payload => exact .payload _ (.between (t + 1) rest)

theorem reading (h : e.Follows d) : e.Reading d.next := by
  cases h with
  | within t n buffer => exact reading_within t n buffer
  | between t buffer =>
      by_cases short : buffer.length < headerSize
      · rw [e.next_between_of_lt t short]
        exact .missing _ (.between t buffer)
      · obtain ⟨header, rest, rfl, size⟩ := exists_append_of_le (Nat.le_of_not_lt short)
        rw [e.next_between t size]
        cases e.unsealedAt t header with
        | none => exact .failed rfl t
        | some text => exact reading_within (t + 1) (Bytes.toNatBE text) rest

end Follows
end Epoch

namespace Link

/-- What an act that was awaited does to a link. What is buffered behind it is not looked at. -/
inductive Acted (l : Link S) : Except LinkError HandshakeStep × Link S → Prop
  | rejected {e : NoiseError} (rejection : e.Rejection) {role : Role S} (deaf : role.expectedSize = none) :
      Acted l (.error (.noise e), { l with state := .handshake role })
  | answered (reply : Bytes) {role : Role S} (listens : role.Listens actThreeSize) :
      Acted l (.ok (.send reply), { l with state := .handshake role })
  | completed (reply : Option Bytes) (remote : Option S.Point) {session : Session S} (fresh : session.Fresh) :
      Acted l (.ok (.ready reply), { l with remote }.establish session)

theorem acted {role : Role S} {n : Nat} (listens : role.Listens n) (l : Link S) (act : Bytes) :
    l.Acted (l.receiveAct n act role) := by
  cases listens with
  | @initiator i turn =>
      have checked := i.checked_actThree act
      simp only [receiveAct, Initiator.receiveActTwo, turn, Progress.expect_self]
      generalize i.actThree act = x at checked
      cases checked with
      | rejected rejection => exact .rejected rejection rfl
      | ok fresh => exact .completed (some _) l.remote fresh
  | @first r turn =>
      have checked := r.checked_actTwo act
      simp only [receiveAct, if_true, Responder.receiveActOne, turn, Progress.expect_self]
      generalize r.actTwo act = x at checked
      cases checked with
      | rejected rejection => exact .rejected rejection rfl
      | ok keyed => exact .answered _ (.last rfl keyed)
  | @last r turn keyed =>
      have checked := r.checked_openActThree keyed act
      have longer : actThreeSize ≠ actOneSize := by decide
      simp only [receiveAct, if_neg longer, Responder.receiveActThree, turn, Progress.expect_self]
      generalize r.openActThree act = x at checked
      cases checked with
      | rejected rejection => exact .rejected rejection rfl
      | ok fresh => exact .completed none (some _) fresh

/-- A link in one of the states that the calls lead to. -/
inductive Sound : Link S → Prop
  | fresh (remote : Option S.Point) (limit : Nat) : Sound ⟨.fresh, [], remote, limit⟩
  | listening {role : Role S} {n : Nat} (listens : role.Listens n) (buffer : Bytes) (remote : Option S.Point)
      (limit : Nat) : Sound (handshaking role buffer remote limit)
  | deaf {l : Link S} (deaf : l.Deaf) : Sound l
  | established (outward : Epoch S) {inward : Epoch S} (i : Nat) {size : Nat} (fits : size ≤ maxMessageSize)
      {decoder : Decoder S} (follows : inward.Follows decoder) (remote : Option S.Point) (limit : Nat) :
      Sound ⟨.established ⟨outward.sealer i, size⟩ decoder, [], remote, limit⟩
  | closed (remote : Option S.Point) (limit : Nat) : Sound ⟨.closed, [], remote, limit⟩

theorem sound_new : (new : Link S).Sound := .fresh none maxMessageSize

theorem start_fresh {role : Role S} (fresh : role.Fresh) (remote : Option S.Point) (limit : Nat) :
    ∃ step remote', (⟨.fresh, [], remote, limit⟩ : Link S).start role =
        (.ok step, handshaking role.opening.2 [] remote' limit) ∧
      ∀ n, step = .needMore n → role.opening.2.expectedSize = some n := by
  cases fresh with
  | initiator static ephemeral known =>
      have sent := Initiator.sendActOne_new static ephemeral known [] known
      simp only [start, isFresh, if_true, Role.opening, sent]
      refine ⟨_, _, rfl, ?_⟩
      rintro n ⟨⟩
  | responder static ephemeral =>
      refine ⟨_, remote, rfl, fun n same => ?_⟩
      cases same
      rfl

theorem sound_establish (l : Link S) {session : Session S} (fresh : session.Fresh) : (l.establish session).Sound := by
  obtain ⟨sending, receiving, chain, rfl⟩ := fresh
  let inward : Epoch S := ⟨receiving, chain⟩
  have follows : inward.Follows (inward.between 0 l.buffer) := .between 0 l.buffer
  exact .established ⟨sending, chain⟩ 0 (Nat.min_le_right _ _) follows _ _

theorem Acted.sound {l l' : Link S} {r : Except LinkError HandshakeStep} (h : l.Acted (r, l')) : l'.Sound := by
  cases h with
  | rejected rejection deaf => exact .deaf ⟨_, rfl, deaf⟩
  | answered reply listens => exact .listening listens _ _ _
  | completed reply remote fresh => exact sound_establish _ fresh

inductive Listened (role : Role S) (n : Nat) (bytes : Bytes) (remote : Option S.Point) (limit : Nat) :
    Except LinkError HandshakeStep × Link S → Prop
  | short (short : bytes.length < n) :
      Listened role n bytes remote limit (.ok (.needMore (n - bytes.length)), handshaking role bytes remote limit)
  | whole {act rest : Bytes} (whole : bytes = act ++ rest) (size : act.length = n)
      {r : Except LinkError HandshakeStep × Link S} (acted : (handshaking role rest remote limit).Acted r) :
      Listened role n bytes remote limit r

theorem listened {role : Role S} {n : Nat} (listens : role.Listens n) (buffer b : Bytes) (remote : Option S.Point)
    (limit : Nat) : Listened role n (buffer ++ b) remote limit ((handshaking role buffer remote limit).feedHandshake b) := by
  by_cases short : (buffer ++ b).length < n
  · rw [feedHandshake_short listens.awaits remote limit short]
    exact .short short
  · obtain ⟨act, rest, whole, size⟩ := exists_append_of_le (Nat.le_of_not_lt short)
    rw [feedHandshake_whole listens.awaits remote limit whole size]
    exact .whole whole size (acted listens _ act)

theorem sound_feedHandshake {role : Role S} {n : Nat} (listens : role.Listens n) (buffer b : Bytes)
    (remote : Option S.Point) (limit : Nat) : ((handshaking role buffer remote limit).feedHandshake b).2.Sound := by
  have heard := listened listens buffer b remote limit
  generalize (handshaking role buffer remote limit).feedHandshake b = r at heard
  cases heard with
  | short short => exact .listening listens _ _ _
  | whole whole size acted => exact acted.sound

theorem sound_encrypt (outward : Epoch S) {inward : Epoch S} (i : Nat) {size : Nat} (fits : size ≤ maxMessageSize)
    {decoder : Decoder S} (follows : inward.Follows decoder) (remote : Option S.Point) (limit : Nat) (payload : Bytes) :
    ((⟨.established ⟨outward.sealer i, size⟩ decoder, [], remote, limit⟩ : Link S).encrypt payload).2.Sound := by
  by_cases large : payload.length > size
  · simp only [encrypt, Encoder.encode, if_pos large]
    exact .established outward i fits follows remote limit
  · simp only [encrypt, outward.encode_sealer i fits (Nat.le_of_not_lt large)]
    exact .established outward (i + 1) fits follows remote limit

theorem sound_next (outward : Epoch S) {inward : Epoch S} (i : Nat) {size : Nat} (fits : size ≤ maxMessageSize)
    {decoder : Decoder S} (follows : inward.Follows decoder) (remote : Option S.Point) (limit : Nat) :
    (⟨.established ⟨outward.sealer i, size⟩ decoder, [], remote, limit⟩ : Link S).next.2.Sound := by
  have reading := follows.reading
  simp only [next]
  generalize decoder.next = r at reading
  cases reading with
  | payload p follows => exact .established outward i fits follows remote limit
  | missing n follows => exact .established outward i fits follows remote limit
  | failed record t => exact .closed remote limit

theorem Sound.call {l : Link S} (h : l.Sound) {c : Call S} (new : ∀ role, c = .start role → role.Fresh) :
    (l.call c).2.Sound := by
  by_cases closes : c = .close
  · subst closes
    exact .closed _ _
  cases h with
  | deaf deaf => exact .deaf (deaf.call closes).2
  | fresh remote limit =>
      cases c with
      | withLimit size => exact .fresh remote _
      | start role =>
          obtain ⟨step, remote', started, -⟩ := start_fresh (new role rfl) remote limit
          obtain ⟨n, listens⟩ := (new role rfl).listens
          simp only [Link.call, started]
          exact .listening listens [] remote' limit
      | close => exact absurd rfl closes
      | feedHandshake | encrypt | feed | next | finish | split => exact .fresh remote limit
  | listening listens buffer remote limit =>
      cases c with
      | withLimit size => exact .listening listens buffer remote _
      | feedHandshake b => exact sound_feedHandshake listens buffer b remote limit
      | start role => cases role <;> exact .listening listens buffer remote limit
      | close => exact absurd rfl closes
      | encrypt | feed | next | finish | split => exact .listening listens buffer remote limit
  | established outward i fits follows remote limit =>
      cases c with
      | withLimit size => exact .established outward i fits follows remote _
      | encrypt payload => exact sound_encrypt outward i fits follows remote limit payload
      | feed b => exact .established outward i fits (follows.feed b) remote limit
      | next => exact sound_next outward i fits follows remote limit
      | start role => cases role <;> exact .established outward i fits follows remote limit
      | close => exact absurd rfl closes
      | feedHandshake | finish | split => exact .established outward i fits follows remote limit
  | closed remote limit =>
      cases c with
      | withLimit size => exact .closed remote _
      | start role => cases role <;> exact .closed remote limit
      | close => exact absurd rfl closes
      | feedHandshake | encrypt | feed | next | finish | split => exact .closed remote limit

def Startable (calls : List (Call S)) : Prop := ∀ role, .start role ∈ calls → role.Fresh

theorem sound_run {calls : List (Call S)} (startable : Startable calls) : (Calls.run call new calls).Sound := by
  have kept := Calls.preserved call calls Sound (fun _ _ => True)
    (fun l sound c mem => ⟨trivial, sound.call fun role same => startable role (same ▸ mem)⟩) sound_new
  exact kept.2

end Link
end NoiseLink
