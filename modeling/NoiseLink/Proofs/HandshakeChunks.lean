import NoiseLink.Proofs.LinkStates
import NoiseLink.Proofs.Chunking

namespace NoiseLink.Link

variable {S : Suite}

/-- What a link makes of bytes. It is fed them once it is ready, and before that they are part of its handshake. -/
def accept (l : Link S) (b : Bytes) : Except LinkError (Option HandshakeStep) × Link S :=
  if l.isReady then ((l.feed b).1.map fun _ => none, (l.feed b).2)
  else ((l.feedHandshake b).1.map some, (l.feedHandshake b).2)

abbrev Answered := Bytes × Except LinkError (Option HandshakeStep)

/-- The answers of a run that tell more than that bytes are taken, up to the first error. -/
def told : List Answered → List (Except LinkError HandshakeStep)
  | [] => []
  | (_, .ok none) :: t => told t
  | (_, .ok (some (.needMore _))) :: t => told t
  | (_, .ok (some (.send act))) :: t => .ok (.send act) :: told t
  | (_, .ok (some (.ready reply))) :: t => .ok (.ready reply) :: told t
  | (_, .error e) :: _ => [.error e]

def sends : Answered → Bool
  | (_, .ok (some (.send _))) => true
  | _ => false

/-- A run does not stop at an act to send. The link is called once more then, be it without bytes. -/
def Attended (t : List Answered) : Prop := ∀ x ∈ t.getLast?, sends x = false

def held (l : Link S) : Bytes :=
  match l.state with
  | .established _ decoder => decoder.buffer
  | _ => l.buffer

def extend (l : Link S) (b : Bytes) : Link S :=
  match l.state with
  | .established encoder decoder => { l with state := .established encoder (decoder.feed b) }
  | _ => { l with buffer := l.buffer ++ b }

/-- The acts that a link takes from the bytes it holds, one after the other, and what it answers to each. -/
inductive Took : Link S → List Bytes → List (Except LinkError HandshakeStep) → Link S → Prop
  | nil (l : Link S) : Took l [] [] l
  | cons {l l' last : Link S} {role : Role S} {act rest : Bytes} {r : Except LinkError HandshakeStep}
      {acts : List Bytes} {answers : List (Except LinkError HandshakeStep)} (here : l.state = .handshake role)
      (awaits : role.expectedSize = some act.length) (whole : l.buffer = act ++ rest)
      (received : { l with buffer := rest }.receiveAct act.length act role = (r, l'))
      (later : Took l' acts answers last) : Took l (act :: acts) (r :: answers) last

def Idle (l : Link S) : Prop :=
  ∀ role n, l.state = .handshake role → role.expectedSize = some n → l.buffer.length < n

theorem held_receiveAct {l : Link S} (size : Nat) (act : Bytes) (role : Role S) :
    (l.receiveAct size act role).2.held = l.buffer := by
  cases role with
  | initiator i =>
      rw [receiveAct]
      rcases i.receiveActTwo act with ⟨e | ⟨reply, session⟩, i'⟩ <;> rfl
  | responder r =>
      rw [receiveAct]
      split
      · rcases r.receiveActOne act with ⟨e | reply, r'⟩ <;> rfl
      · rcases r.receiveActThree act with ⟨e | ⟨remote, session⟩, r'⟩ <;> rfl

theorem establish_extend (l : Link S) (b : Bytes) (session : Session S) :
    { l with buffer := l.buffer ++ b }.establish session = (l.establish session).extend b := by
  simp only [establish, extend, Decoder.feed_feed]

theorem receiveAct_extend (l : Link S) (b : Bytes) (size : Nat) (act : Bytes) (role : Role S) :
    { l with buffer := l.buffer ++ b }.receiveAct size act role =
      ((l.receiveAct size act role).1, (l.receiveAct size act role).2.extend b) := by
  cases role with
  | initiator i =>
      simp only [receiveAct, establish_extend]
      rcases i.receiveActTwo act with ⟨e | ⟨reply, session⟩, i'⟩ <;> rfl
  | responder r =>
      simp only [receiveAct]
      split
      · rcases r.receiveActOne act with ⟨e | reply, r'⟩ <;> rfl
      · rcases r.receiveActThree act with ⟨e | ⟨remote, session⟩, r'⟩
        · rfl
        · exact congrArg (Prod.mk _) (establish_extend { l with remote := some remote } b session)

theorem receiveAct_ne_needMore (l : Link S) (size : Nat) (act : Bytes) (role : Role S) (n : Nat) :
    (l.receiveAct size act role).1 ≠ .ok (.needMore n) := by
  cases role with
  | initiator i =>
      rw [receiveAct]
      rcases i.receiveActTwo act with ⟨e | ⟨reply, session⟩, i'⟩ <;> rintro ⟨⟩
  | responder r =>
      rw [receiveAct]
      split
      · rcases r.receiveActOne act with ⟨e | reply, r'⟩ <;> rintro ⟨⟩
      · rcases r.receiveActThree act with ⟨e | ⟨remote, session⟩, r'⟩ <;> rintro ⟨⟩

theorem extend_extend (l : Link S) (b c : Bytes) : (l.extend b).extend c = l.extend (b ++ c) := by
  obtain ⟨state, buffer, remote, limit⟩ := l
  cases state with
  | established encoder decoder => simp only [extend, Decoder.feed_feed]
  | fresh | handshake | closed => simp only [extend, List.append_assoc]

theorem extend_nil (l : Link S) : l.extend [] = l := by
  obtain ⟨state, buffer, remote, limit⟩ := l
  cases state with
  | established encoder decoder => simp only [extend, Decoder.feed_nil]
  | fresh | handshake | closed => simp only [extend, List.append_nil]

namespace Took

variable {l last last' : Link S} {acts acts' : List Bytes} {answers answers' : List (Except LinkError HandshakeStep)}

theorem held (h : l.Took acts answers last) : l.held = acts.flatten ++ last.held := by
  induction h with
  | nil => rfl
  | @cons l l' last role act rest r acts answers here awaits whole received later ih =>
      have kept : l'.held = rest := (congrArg (fun x => x.2.held) received).symm.trans (held_receiveAct ..)
      have before : l.held = act ++ rest := by rw [Link.held, here, whole]
      rw [before, List.flatten_cons, List.append_assoc, ← ih, kept]

/-- Which acts are taken until none is left to take, and what they come to, is settled by what is held. -/
theorem unique (h : l.Took acts answers last) (idle : last.Idle) (h' : l.Took acts' answers' last') (idle' : last'.Idle) :
    acts = acts' ∧ answers = answers' ∧ last = last' := by
  induction h generalizing acts' answers' with
  | nil =>
      cases h' with
      | nil => exact ⟨rfl, rfl, rfl⟩
      | cons here awaits whole =>
          have short := idle _ _ here awaits
          rw [whole, List.length_append] at short
          omega
  | cons here awaits whole received later ih =>
      cases h' with
      | nil =>
          have short := idle' _ _ here awaits
          rw [whole, List.length_append] at short
          omega
      | cons here' awaits' whole' received' later' =>
          obtain ⟨⟩ := here.symm.trans here'
          have size := Option.some.inj (awaits.symm.trans awaits')
          obtain ⟨rfl, rfl⟩ := List.append_inj (whole.symm.trans whole') size
          obtain ⟨rfl, rfl⟩ := Prod.mk.inj (received.symm.trans received')
          obtain ⟨rfl, rfl, rfl⟩ := ih idle later'
          exact ⟨rfl, rfl, rfl⟩

end Took

inductive Awake : Link S → Prop
  | listening {role : Role S} {n : Nat} (listens : role.Listens n) (buffer : Bytes) (remote : Option S.Point)
      (limit : Nat) : Awake (handshaking role buffer remote limit)
  | ready {l : Link S} (ready : l.isReady = true) : Awake l

theorem accept_ready {l : Link S} (ready : l.isReady = true) (b : Bytes) :
    l.accept b = (.ok none, l.extend b) ∧ (l.extend b).isReady = true := by
  obtain ⟨state, buffer, remote, limit⟩ := l
  cases state with
  | established encoder decoder => exact ⟨rfl, rfl⟩
  | fresh | handshake | closed => cases ready

theorem accept_handshaking (role : Role S) (buffer b : Bytes) (remote : Option S.Point) (limit : Nat) :
    (handshaking role buffer remote limit).accept b =
      (((handshaking role buffer remote limit).feedHandshake b).1.map some,
        ((handshaking role buffer remote limit).feedHandshake b).2) :=
  rfl

theorem Deaf.accept {l : Link S} (deaf : l.Deaf) (b : Bytes) :
    l.accept b = (.error (.noise .handshakeAborted), l.extend b) ∧ (l.extend b).Deaf := by
  obtain ⟨role, here, none⟩ := deaf
  have waiting : l.isReady = false := by rw [isReady, here]
  simp only [Link.accept, waiting, Bool.false_eq_true, if_false, Link.feedHandshake, here, none, extend]
  exact ⟨rfl, role, rfl, none⟩

theorem Deaf.run {l : Link S} (deaf : l.Deaf) (chunks : List Bytes) :
    Calls.run Link.accept l chunks = l.extend chunks.flatten := by
  induction chunks generalizing l with
  | nil => exact l.extend_nil.symm
  | cons c chunks ih =>
      obtain ⟨accepted, deaf⟩ := deaf.accept c
      rw [Calls.run, List.foldl_cons, accepted, List.flatten_cons, ← extend_extend]
      exact ih deaf

/-- However the chunks are cut, a link takes the acts that all of them hold, as far as it has looked at them. -/
theorem Awake.took {l : Link S} (awake : l.Awake) (chunks : List Bytes) :
    ∃ acts, (l.extend chunks.flatten).Took acts (told (Calls.answers accept l chunks)) (Calls.run accept l chunks) := by
  induction chunks generalizing l with
  | nil => exact ⟨[], by rw [List.flatten_nil, extend_nil]; exact .nil l⟩
  | cons c chunks ih =>
      cases awake with
      | ready ready =>
          obtain ⟨accepted, ready⟩ := accept_ready ready c
          obtain ⟨acts, took⟩ := ih (.ready ready)
          refine ⟨acts, ?_⟩
          rw [extend_extend] at took
          rw [Calls.answers, Calls.run, List.foldl_cons, accepted]
          exact took
      | @listening role n listens buffer remote limit =>
          rw [Calls.answers, Calls.run, List.foldl_cons, accept_handshaking]
          by_cases short : (buffer ++ c).length < n
          · rw [feedHandshake_short listens.awaits remote limit short]
            obtain ⟨acts, took⟩ := ih (.listening listens (buffer ++ c) remote limit)
            refine ⟨acts, ?_⟩
            have whole : (handshaking role (buffer ++ c) remote limit).extend chunks.flatten =
                (handshaking role buffer remote limit).extend (c :: chunks).flatten :=
              extend_extend (handshaking role buffer remote limit) c chunks.flatten
            rw [whole] at took
            exact took
          · obtain ⟨act, rest, whole, rfl⟩ := exists_append_of_le (Nat.le_of_not_lt short)
            -- it makes no difference to an act whether the later chunks are there yet
            have acted := acted listens (handshaking role rest remote limit) act
            have extended := receiveAct_extend (handshaking role rest remote limit) chunks.flatten act.length act role
            have holds : ((handshaking role buffer remote limit).extend (c :: chunks).flatten).buffer =
                act ++ (rest ++ chunks.flatten) := by
              rw [← List.append_assoc, ← whole, List.append_assoc]
              rfl
            rw [feedHandshake_whole listens.awaits remote limit whole rfl]
            generalize (handshaking role rest remote limit).receiveAct act.length act role = r at acted extended
            cases acted with
            | @rejected e rejection role' deaf =>
                refine ⟨[act], .cons rfl listens.awaits holds extended ?_⟩
                have kept := Deaf.run (l := handshaking role' rest remote limit) ⟨role', rfl, deaf⟩ chunks
                exact kept ▸ .nil _
            | @answered reply role' listens' =>
                obtain ⟨acts, took⟩ := ih (.listening listens' rest remote limit)
                exact ⟨act :: acts, .cons rfl listens.awaits holds extended took⟩
            | @completed reply remote' session fresh =>
                let done : Link S := { handshaking role rest remote limit with remote := remote' }.establish session
                have ready : done.isReady = true := rfl
                obtain ⟨acts, took⟩ := ih (.ready ready)
                exact ⟨act :: acts, .cons rfl listens.awaits holds extended took⟩

theorem Deaf.idle {l : Link S} (deaf : l.Deaf) : l.Idle := by
  obtain ⟨role, here, none⟩ := deaf
  intro role' n here' awaits
  obtain ⟨⟩ := here.symm.trans here'
  cases none.symm.trans awaits

theorem idle_of_phase_ne {l : Link S} (other : l.phase ≠ .handshake) : l.Idle :=
  fun _ _ here => absurd (phase_of_handshake here) other

theorem idle_handshaking {role : Role S} {n : Nat} (awaits : role.expectedSize = some n) {buffer : Bytes}
    (short : buffer.length < n) (remote : Option S.Point) (limit : Nat) :
    (handshaking role buffer remote limit).Idle := by
  intro role' n' here awaits'
  cases here
  obtain rfl := Option.some.inj (awaits.symm.trans awaits')
  exact short

theorem Sound.accept {l : Link S} (sound : l.Sound) (b : Bytes) : (l.accept b).2.Sound := by
  rw [Link.accept]
  split
  · exact sound.call (c := .feed b) nofun
  · exact sound.call (c := .feedHandshake b) nofun

theorem Sound.idle_accept {l : Link S} (sound : l.Sound) {b : Bytes} (silent : sends (b, (l.accept b).1) = false) :
    (l.accept b).2.Idle := by
  cases sound with
  | fresh | closed => exact idle_of_phase_ne nofun
  | established => exact idle_of_phase_ne nofun
  | deaf deaf =>
      obtain ⟨accepted, deaf⟩ := deaf.accept b
      rw [accepted]
      exact deaf.idle
  | listening listens buffer remote limit =>
      have heard := listened listens buffer b remote limit
      rw [accept_handshaking] at silent ⊢
      generalize (handshaking _ buffer remote limit).feedHandshake b = r at heard silent
      cases heard with
      | short short => exact idle_handshaking listens.awaits short remote limit
      | whole whole size acted =>
          cases acted with
          | rejected rejection deaf => exact Deaf.idle ⟨_, rfl, deaf⟩
          | answered reply listens => cases silent
          | completed reply remote fresh => exact idle_of_phase_ne nofun

theorem Sound.run {l : Link S} (sound : l.Sound) (chunks : List Bytes) : (Calls.run Link.accept l chunks).Sound := by
  have kept := Calls.preserved Link.accept chunks Sound (fun _ _ => True) (fun l sound b _ => ⟨trivial, sound.accept b⟩)
    sound
  exact kept.2

theorem Sound.idle_run {l : Link S} (sound : l.Sound) (idle : l.Idle) {chunks : List Bytes}
    (attended : Attended (Calls.answers Link.accept l chunks)) : (Calls.run Link.accept l chunks).Idle := by
  rcases List.eq_nil_or_concat chunks with rfl | ⟨before, c, rfl⟩
  · exact idle
  · rw [List.concat_eq_append] at attended ⊢
    rw [Calls.answers_concat] at attended
    rw [Calls.run_concat]
    exact (sound.run before).idle_accept (attended _ List.getLast?_concat)

theorem Sound.length_lt_of_sends {l : Link S} (sound : l.Sound) (sent : sends ([], (l.accept []).1) = true) :
    (l.accept []).2.buffer.length < l.buffer.length := by
  cases sound with
  | fresh | closed | established => cases sent
  | deaf deaf =>
      rw [(deaf.accept []).1] at sent
      cases sent
  | listening listens buffer remote limit =>
      have heard := listened listens buffer [] remote limit
      rw [accept_handshaking] at sent ⊢
      generalize (handshaking _ buffer remote limit).feedHandshake [] = r at heard sent
      cases heard with
      | short => cases sent
      | @whole act rest whole size r acted =>
          cases acted with
          | rejected | completed => cases sent
          | answered reply listens' =>
              have positive := listens.pos
              have lengths := congrArg List.length whole
              rw [List.append_nil, List.length_append] at lengths
              simp only [handshaking]
              omega

theorem Sound.exists_attended {l : Link S} (sound : l.Sound) :
    ∃ k, Attended (Calls.answers Link.accept l (List.replicate (k + 1) [])) := by
  -- an act to send is the answer to an act, which is used up
  induction size : l.buffer.length using Nat.strong_induction_on generalizing l with
  | _ size ih =>
      cases sent : sends ([], (l.accept []).1) with
      | false =>
          refine ⟨0, fun x last => ?_⟩
          obtain rfl := Option.some.inj last
          exact sent
      | true =>
          obtain ⟨k, attended⟩ := ih _ (size ▸ sound.length_lt_of_sends sent) (sound.accept []) rfl
          refine ⟨k + 1, fun x last => attended x ?_⟩
          rw [List.replicate_succ, Calls.answers, List.replicate_succ, Calls.answers, List.getLast?_cons_cons] at last
          rw [List.replicate_succ, Calls.answers]
          exact last

def Wants (l : Link S) (n : Nat) : Prop :=
  0 < n ∧ ∀ c : Bytes,
    (c.length < n → (l.accept c).1 = .ok (some (.needMore (n - c.length)))) ∧
    (c.length = n → ∀ m, (l.accept c).1 ≠ .ok (some (.needMore m)))

theorem map_eq_needMore {r : Except LinkError HandshakeStep} {n : Nat} (h : r.map some = .ok (some (.needMore n))) :
    r = .ok (.needMore n) := by
  cases r with
  | error => cases h
  | ok step =>
      cases h
      rfl

theorem wants_handshaking {role : Role S} {size : Nat} (awaits : role.expectedSize = some size) {buffer : Bytes}
    (short : buffer.length < size) (remote : Option S.Point) (limit : Nat) :
    (handshaking role buffer remote limit).Wants (size - buffer.length) := by
  refine ⟨Nat.sub_pos_of_lt short, fun c => ⟨fun few => ?_, fun enough m more => ?_⟩⟩
  · have short' : (buffer ++ c).length < size := by
      rw [List.length_append]
      omega
    rw [accept_handshaking, feedHandshake_short awaits remote limit short', List.length_append, Nat.sub_add_eq]
    rfl
  · have whole : (buffer ++ c).length = size := by
      rw [List.length_append]
      omega
    have all : buffer ++ c = (buffer ++ c) ++ [] := (List.append_nil _).symm
    rw [accept_handshaking, feedHandshake_whole awaits remote limit all whole] at more
    exact receiveAct_ne_needMore _ _ _ _ m (map_eq_needMore more)

theorem wants_of_needMore {l : Link S} {b : Bytes} {n : Nat} (more : (l.accept b).1 = .ok (some (.needMore n))) :
    (l.accept b).2.Wants n := by
  obtain ⟨state, buffer, remote, limit⟩ := l
  cases state with
  | fresh | closed | established => cases more
  | handshake role =>
      let l : Link S := handshaking role buffer remote limit
      have same : l.accept b = ((l.feedHandshake b).1.map some, (l.feedHandshake b).2) := accept_handshaking ..
      rw [show (⟨.handshake role, buffer, remote, limit⟩ : Link S) = l from rfl, same] at more ⊢
      cases awaits : role.expectedSize with
      | none =>
          rw [(Deaf.feedHandshake ⟨role, rfl, awaits⟩ b).1] at more
          cases more
      | some size =>
          by_cases short : (buffer ++ b).length < size
          · have fed : l.feedHandshake b = _ := feedHandshake_short awaits remote limit short
            rw [fed] at more ⊢
            cases more
            exact wants_handshaking awaits short remote limit
          · obtain ⟨act, rest, whole, size⟩ := exists_append_of_le (Nat.le_of_not_lt short)
            have fed : l.feedHandshake b = _ := feedHandshake_whole awaits remote limit whole size
            rw [fed] at more
            exact absurd (map_eq_needMore more) (receiveAct_ne_needMore _ _ _ _ n)

theorem buffer_call_fresh (remote : Option S.Point) (limit : Nat) (c : Call S) :
    ((⟨.fresh, [], remote, limit⟩ : Link S).call c).2.buffer = [] := by
  cases c with
  | start role =>
      cases role with
      | responder r => rfl
      | initiator i =>
          simp only [call, start, isFresh, if_true]
          rcases i.sendActOne with ⟨e | act, i'⟩ <;> rfl
  | withLimit | feedHandshake | encrypt | feed | next | finish | close | split => rfl

theorem buffer_of_fresh (calls : List (Call S)) :
    (Calls.run call new calls).phase = .fresh → (Calls.run call new calls).buffer = [] := by
  have kept := Calls.preserved call calls (fun l : Link S => l.phase = .fresh → l.buffer = []) (fun _ _ => True)
    (fun l empty c _ => ⟨trivial, fun fresh => ?_⟩) (s := new) (fun _ => rfl)
  · exact kept.2
  · -- no call leads back, so that the link was not started before it either
    have rank := (move l c).rank_le
    rw [fresh] at rank
    obtain ⟨state, buffer, remote, limit⟩ := l
    cases state with
    | fresh =>
        obtain rfl : buffer = [] := empty rfl
        exact buffer_call_fresh remote limit c
    | handshake | established | closed => exact absurd rank (Nat.not_succ_le_zero _)

/-- What a link that is just started makes of bytes, in all the ways that they can be cut. -/
structure Unsegmented (step : HandshakeStep) (l : Link S) : Prop where
  attended : ∀ xs, ∃ k, Attended (Calls.answers accept l (xs ++ List.replicate k []))
  same : ∀ xs ys, xs.flatten = ys.flatten → Attended (Calls.answers accept l xs) →
    Attended (Calls.answers accept l ys) →
    told (Calls.answers accept l xs) = told (Calls.answers accept l ys) ∧
      Calls.run accept l xs = Calls.run accept l ys
  whole : ∀ xs, ∃ acts,
    (l.extend xs.flatten).Took acts (told (Calls.answers accept l xs)) (Calls.run accept l xs) ∧
      xs.flatten = acts.flatten ++ (Calls.run accept l xs).held
  wants : (∀ n, step = .needMore n → l.Wants n) ∧
    ∀ xs b n, ((Calls.run accept l xs).accept b).1 = .ok (some (.needMore n)) →
      ((Calls.run accept l xs).accept b).2.Wants n

theorem unsegmented {role : Role S} {n : Nat} (listens : role.Listens n) (remote : Option S.Point) (limit : Nat)
    {step : HandshakeStep} (first : ∀ m, step = .needMore m → role.expectedSize = some m) :
    Unsegmented step (handshaking role [] remote limit) := by
  let l := handshaking role [] remote limit
  have sound : l.Sound := .listening listens [] remote limit
  have awake : l.Awake := .listening listens [] remote limit
  have short : ([] : Bytes).length < n := listens.pos
  have idle : l.Idle := idle_handshaking listens.awaits short remote limit
  refine ⟨fun xs => ?_, fun xs ys same attended attended' => ?_, fun xs => ?_, fun m more => ?_,
    fun xs b m => wants_of_needMore⟩
  · obtain ⟨k, attended⟩ := (sound.run xs).exists_attended
    refine ⟨k + 1, fun x last => attended x ?_⟩
    rw [Calls.answers_append, List.getLast?_append, List.replicate_succ, Calls.answers] at last
    rw [List.replicate_succ, Calls.answers]
    simpa using last
  · obtain ⟨acts, took⟩ := awake.took xs
    obtain ⟨acts', took'⟩ := awake.took ys
    rw [same] at took
    exact (took.unique (sound.idle_run idle attended) took' (sound.idle_run idle attended')).2
  · obtain ⟨acts, took⟩ := awake.took xs
    exact ⟨acts, took, took.held⟩
  · obtain rfl := Option.some.inj (listens.awaits.symm.trans (first m more))
    exact wants_handshaking listens.awaits short remote limit

/-- The bytes of a handshake may be cut in any way. A link that is started with a new role, whatever was called before,
gives the same answers and comes to the same state; it uses up the acts and holds the bytes behind them; and what it
says that it wants is what it wants. -/
theorem chunks_make_no_difference {calls : List (Call S)} {role : Role S} (fresh : role.Fresh) {step : HandshakeStep}
    {l : Link S} (started : (Calls.run call new calls).start role = (.ok step, l)) : Unsegmented step l := by
  have empty := buffer_of_fresh calls
  generalize Calls.run call new calls = before at started empty
  obtain ⟨state, buffer, remote, limit⟩ := before
  cases state with
  | fresh =>
      obtain rfl : buffer = [] := empty rfl
      obtain ⟨step', remote', opened, first⟩ := start_fresh fresh remote limit
      obtain ⟨n, listens⟩ := fresh.listens
      obtain ⟨⟨⟩, rfl⟩ := Prod.mk.inj (opened.symm.trans started)
      exact unsegmented listens remote' limit first
  | handshake | established | closed => cases role <;> cases started

section ActTwo

variable (k : Secrets S) (limit : Nat)

def awaitingActTwo (buffer : Bytes) : Link S :=
  handshaking (.initiator k.initiatorAwaiting) buffer (some k.initiatorAwaiting.remote) limit

theorem start_awaitingActTwo :
    (new.withLimit limit : Link S).start (.initiator k.initiatorSide) =
      (.ok (.send k.transcript.actOne), awaitingActTwo k (min limit maxMessageSize) []) := by
  have fresh : (new.withLimit limit : Link S).isFresh = true := rfl
  simp only [start, fresh, if_true, k.sendActOne]
  rfl

variable (lawful : S.Lawful)
include lawful

theorem accept_actTwo {buffer b rest : Bytes} (whole : buffer ++ b = k.transcript.actTwo ++ rest) :
    (awaitingActTwo k limit buffer).accept b =
      (.ok (some (.ready (some (k.transcript.actThree k.static k.se)))),
        ready (k.outward.sealer 0) (k.inward.between 0 rest) (S.publicKey k.responder) limit) := by
  have awaits : (Role.initiator k.initiatorAwaiting).expectedSize = some actTwoSize := rfl
  rw [awaitingActTwo, accept_handshaking, feedHandshake_whole awaits _ limit whole (k.length_actTwo lawful)]
  simp only [receiveAct, k.receiveActTwo lawful]
  rfl

theorem accept_take_actTwo :
    (awaitingActTwo k limit []).accept (k.transcript.actTwo.take 10) =
      (.ok (some (.needMore 40)), awaitingActTwo k limit (k.transcript.actTwo.take 10)) := by
  have awaits : (Role.initiator k.initiatorAwaiting).expectedSize = some actTwoSize := rfl
  have ten : (k.transcript.actTwo.take 10).length = 10 :=
    List.length_take_of_le (by rw [k.length_actTwo lawful]; decide)
  have few : ([] ++ k.transcript.actTwo.take 10).length < actTwoSize := by
    rw [List.nil_append, ten]
    decide
  rw [awaitingActTwo, accept_handshaking, feedHandshake_short awaits _ limit few, List.nil_append, ten]
  rfl

theorem run_actTwo (rest : Bytes) :
    Attended (Calls.answers accept (awaitingActTwo k limit []) [k.transcript.actTwo ++ rest]) ∧
      told (Calls.answers accept (awaitingActTwo k limit []) [k.transcript.actTwo ++ rest]) =
        [.ok (.ready (some (k.transcript.actThree k.static k.se)))] ∧
      Calls.run accept (awaitingActTwo k limit []) [k.transcript.actTwo ++ rest] =
        ready (k.outward.sealer 0) (k.inward.between 0 rest) (S.publicKey k.responder) limit := by
  have once := accept_actTwo k limit lawful (List.nil_append (k.transcript.actTwo ++ rest))
  simp only [Calls.answers, Calls.run, List.foldl_cons, List.foldl_nil, once, told]
  refine ⟨?_, trivial, trivial⟩
  rintro x ⟨⟩
  rfl

theorem attended_cut (rest : Bytes) :
    Attended (Calls.answers accept (awaitingActTwo k limit [])
      [k.transcript.actTwo.take 10, k.transcript.actTwo.drop 10, rest]) := by
  have first := accept_take_actTwo k limit lawful
  have whole : k.transcript.actTwo.take 10 ++ k.transcript.actTwo.drop 10 = k.transcript.actTwo ++ [] := by
    rw [List.take_append_drop, List.append_nil]
  have second := accept_actTwo k limit lawful whole
  rw [Calls.answers, first, Calls.answers, second]
  rintro x ⟨⟩
  rfl

end ActTwo

theorem chunks_make_no_difference_act_two :
    let k := Secrets.vectors
    let calls : List (Call .standard) := [.withLimit 100]
    let l := awaitingActTwo k (min 100 maxMessageSize) []
    let whole := [k.transcript.actTwo ++ [7, 8]]
    let cut := [k.transcript.actTwo.take 10, k.transcript.actTwo.drop 10, [7, 8]]
    Role.Fresh (.initiator k.initiatorSide) ∧
      (Calls.run call new calls).start (.initiator k.initiatorSide) = (.ok (.send k.transcript.actOne), l) ∧
      whole.flatten = cut.flatten ∧ Attended (Calls.answers accept l whole) ∧ Attended (Calls.answers accept l cut) ∧
      told (Calls.answers accept l cut) = [.ok (.ready (some (k.transcript.actThree k.static k.se)))] ∧
      Calls.run accept l cut = ready (k.outward.sealer 0) (k.inward.between 0 [7, 8])
        (Suite.standard.publicKey k.responder) (min 100 maxMessageSize) := by
  intro k calls l whole cut
  have fresh : Role.Fresh (.initiator k.initiatorSide) := .initiator _ _ _
  have started : (Calls.run call new calls).start (.initiator k.initiatorSide) =
      (.ok (.send k.transcript.actOne), l) := start_awaitingActTwo k 100
  have same : whole.flatten = cut.flatten := by
    simp only [whole, cut, List.flatten_cons, List.flatten_nil, List.append_nil, ← List.append_assoc,
      List.take_append_drop]
  obtain ⟨attended, told_whole, run_whole⟩ := run_actTwo k (min 100 maxMessageSize) Suite.standard_lawful [7, 8]
  have attended' := attended_cut k (min 100 maxMessageSize) Suite.standard_lawful [7, 8]
  obtain ⟨told_eq, run_eq⟩ := (chunks_make_no_difference fresh started).same whole cut same attended attended'
  exact ⟨fresh, started, same, attended, attended', told_eq.symm.trans told_whole, run_eq.symm.trans run_whole⟩

end NoiseLink.Link
