import NoiseLink.Proofs.Turns

namespace NoiseLink

variable {S : Suite}

theorem Progress.expect_self (p : Progress) : p.expect p = .ok () := if_pos rfl

theorem Progress.expect_aborted {step : Progress} (h : step ≠ .aborted) :
    Progress.aborted.expect step = .error .handshakeAborted :=
  if_neg h.symm

theorem Progress.expect_of_ne {p step : Progress} (other : p ≠ step) (intact : p ≠ .aborted) :
    p.expect step = .error .unexpectedHandshakeMessage := by
  rw [expect, if_neg other, if_neg intact]

theorem Progress.eq_of_expect {p step : Progress} (expected : p.expect step = .ok ()) : p = step := by
  by_contra other
  rw [expect, if_neg other] at expected
  split at expected <;> cases expected

theorem Turns.answered_of_expect {σ κ α : Type} {M : Turns σ κ α} {s : σ} {c : κ}
    (act : M.act c ≠ .aborted) (sound : M.Sound s)
    (refused : ∀ e, (M.progress s).expect (M.act c) = .error e → M.call s c = (.error e, s))
    (taken : M.progress s = M.act c → M.Answered s c (M.call s c).1 (M.call s c).2 ∧ M.Sound (M.call s c).2) :
    M.Answered s c (M.call s c).1 (M.call s c).2 ∧ M.Sound (M.call s c).2 := by
  by_cases turn : M.progress s = M.act c
  · exact taken turn
  · by_cases gone : M.progress s = .aborted
    · rw [refused _ (gone ▸ Progress.expect_aborted act)]
      exact ⟨.dead gone, sound⟩
    · rw [refused _ (Progress.expect_of_ne turn gone)]
      exact ⟨.refused gone turn, sound⟩

namespace Initiator

inductive Call where
  | sendActOne
  | receiveActTwo (m : Bytes)

inductive Answer (S : Suite) where
  | actOne (act : Bytes)
  | actThree (act : Bytes) (session : Session S)

def Call.act : Call → Progress
  | .sendActOne => .actOne
  | .receiveActTwo _ => .actTwo

def call (i : Initiator S) : Call → Except NoiseError (Answer S) × Initiator S
  | .sendActOne => (i.sendActOne.1.map .actOne, i.sendActOne.2)
  | .receiveActTwo m =>
    ((i.receiveActTwo m).1.map fun (act, session) => .actThree act session, (i.receiveActTwo m).2)

def turns (S : Suite) : Turns (Initiator S) Call (Answer S) where
  call := call
  progress i := i.party.progress
  act := Call.act
  order := [.actOne, .actTwo]
  Sound _ := True

theorem lawful_turns : (turns S).Lawful where
  distinct := by simp [turns]
  complete := by simp [turns]
  aborted := by simp [turns]
  act_mem c := by cases c <;> simp [turns, Call.act]
  step {i} sound c := by
    cases c with
    | sendActOne =>
        refine Turns.answered_of_expect (fun same => by cases same) sound (fun e h => ?_) (fun turn => ⟨?_, trivial⟩)
        · simp only [turns, call, sendActOne, show i.party.progress.expect .actOne = .error e from h]
          rfl
        · have here : i.party.progress = .actOne := turn
          have checked := i.checked_actOne
          simp only [turns, call, sendActOne, here, Progress.expect_self]
          generalize i.actOne = x at checked
          cases checked with
          | ok => exact .accepted (n := 0) turn rfl rfl
          | rejected rejected => exact .failed turn rejected rfl
    | receiveActTwo m =>
        refine Turns.answered_of_expect (fun same => by cases same) sound (fun e h => ?_) (fun turn => ⟨?_, trivial⟩)
        · simp only [turns, call, receiveActTwo, show i.party.progress.expect .actTwo = .error e from h]
          rfl
        · have here : i.party.progress = .actTwo := turn
          have checked := i.checked_actThree m
          simp only [turns, call, receiveActTwo, here, Progress.expect_self]
          generalize i.actThree m = x at checked
          cases checked with
          | ok => exact .accepted (n := 1) turn rfl rfl
          | rejected rejected => exact .failed turn rejected rfl

/-- Bytes of any other size than `n` are refused for their size. -/
def Awaits (i : Initiator S) (n : Nat) : Prop :=
  ∀ m : Bytes, m.length ≠ n → (i.call (.receiveActTwo m)).1 = .error (.invalidMessageLength n m.length)

theorem expectedSize_eq_some_iff {i : Initiator S} {n : Nat} :
    i.expectedSize = some n ↔ i.party.progress = .actTwo ∧ n = actTwoSize := by
  rw [expectedSize]
  cases i.party.progress <;> simp [eq_comm]

theorem call_receiveActTwo_of_ne {i : Initiator S} (turn : i.party.progress = .actTwo) {m : Bytes}
    (h : m.length ≠ actTwoSize) :
    (i.call (.receiveActTwo m)).1 = .error (.invalidMessageLength actTwoSize m.length) := by
  rw [call, receiveActTwo, turn, Progress.expect_self, i.actThree_of_ne h]
  rfl

theorem awaits_iff {i : Initiator S} {n : Nat} : i.Awaits n ↔ i.expectedSize = some n := by
  rw [expectedSize_eq_some_iff]
  constructor
  · intro awaits
    -- bytes that are longer than both sizes
    have refused := awaits (Bytes.zeros (n + actTwoSize + 1)) (by simp; omega)
    have turn : i.party.progress = .actTwo := lawful_turns.turn_of_rejection trivial (.length _ _) refused
    rw [call_receiveActTwo_of_ne turn (by simp; omega)] at refused
    cases refused
    exact ⟨turn, rfl⟩
  · rintro ⟨turn, rfl⟩ m h
    exact call_receiveActTwo_of_ne turn h

theorem Stands.expects {i : Initiator S} {t : List (Call × Except NoiseError (Answer S))}
    (stands : (turns S).Stands t i) {n : Nat} :
    i.expectedSize = some n ↔ ¬Turns.Failed t ∧ (turns S).accepted t = [.actOne] ∧ n = actTwoSize := by
  rw [expectedSize_eq_some_iff]
  cases stands with
  | @running k le done intact next =>
      rw [show i.party.progress = _ from next, done]
      match k, le with
      | 0, _ => simp [turns, Turns.following]
      | 1, _ => simp [turns, Turns.following, intact]
      | 2, _ => simp [turns, Turns.following]
  | aborted _ _ failed gone =>
      rw [show i.party.progress = _ from gone]
      simp [failed]

end Initiator

namespace Responder

inductive Call where
  | receiveActOne (m : Bytes)
  | receiveActThree (m : Bytes)

inductive Answer (S : Suite) where
  | actTwo (act : Bytes)
  | session (remote : S.Point) (session : Session S)

def Call.act : Call → Progress
  | .receiveActOne _ => .actOne
  | .receiveActThree _ => .actThree

def call (r : Responder S) : Call → Except NoiseError (Answer S) × Responder S
  | .receiveActOne m => ((r.receiveActOne m).1.map .actTwo, (r.receiveActOne m).2)
  | .receiveActThree m =>
    ((r.receiveActThree m).1.map fun (remote, session) => .session remote session, (r.receiveActThree m).2)

/-- A responder that awaits act three can open it, and it knows nobody before it is through. -/
structure Sound (r : Responder S) : Prop where
  keyed : r.party.progress = .actThree → r.party.sym.Keyed 1
  unknown : r.party.progress ≠ .complete → r.remote = none

theorem sound_new (static ephemeral : S.Secret) : (new static ephemeral).Sound where
  keyed := nofun
  unknown _ := rfl

def turns (S : Suite) : Turns (Responder S) Call (Answer S) where
  call := call
  progress r := r.party.progress
  act := Call.act
  order := [.actOne, .actThree]
  Sound := Sound

theorem lawful_turns : (turns S).Lawful where
  distinct := by simp [turns]
  complete := by simp [turns]
  aborted := by simp [turns]
  act_mem c := by cases c <;> simp [turns, Call.act]
  step {r} sound c := by
    cases c with
    | receiveActOne m =>
        refine Turns.answered_of_expect (fun same => by cases same) sound (fun e h => ?_) (fun turn => ?_)
        · simp only [turns, call, receiveActOne, show r.party.progress.expect .actOne = .error e from h]
          rfl
        · have here : r.party.progress = .actOne := turn
          have nobody : r.remote = none := sound.unknown (by simp [here])
          have checked := r.checked_actTwo m
          simp only [turns, call, receiveActOne, here, Progress.expect_self]
          generalize r.actTwo m = x at checked
          cases checked with
          | ok keyed => exact ⟨.accepted (n := 0) turn rfl rfl, fun _ => keyed, fun _ => nobody⟩
          | rejected rejected => exact ⟨.failed turn rejected rfl, (fun next => by cases next), fun _ => nobody⟩
    | receiveActThree m =>
        refine Turns.answered_of_expect (fun same => by cases same) sound (fun e h => ?_) (fun turn => ?_)
        · simp only [turns, call, receiveActThree, show r.party.progress.expect .actThree = .error e from h]
          rfl
        · have here : r.party.progress = .actThree := turn
          have nobody : r.remote = none := sound.unknown (by simp [here])
          have checked := r.checked_openActThree (sound.keyed here) m
          simp only [turns, call, receiveActThree, here, Progress.expect_self]
          generalize r.openActThree m = x at checked
          cases checked with
          | ok => exact ⟨.accepted (n := 1) turn rfl rfl, (fun next => by cases next), fun incomplete => absurd rfl incomplete⟩
          | rejected rejected => exact ⟨.failed turn rejected rfl, (fun next => by cases next), fun _ => nobody⟩

def Awaits (r : Responder S) (n : Nat) : Prop :=
  ∃ c ∈ [Call.receiveActOne, Call.receiveActThree],
    ∀ m : Bytes, m.length ≠ n → (r.call (c m)).1 = .error (.invalidMessageLength n m.length)

theorem expectedSize_eq_some_iff {r : Responder S} {n : Nat} :
    r.expectedSize = some n ↔
      r.party.progress = .actOne ∧ n = actOneSize ∨ r.party.progress = .actThree ∧ n = actThreeSize := by
  rw [expectedSize]
  cases r.party.progress <;> simp [eq_comm]

theorem call_receiveActOne_of_ne {r : Responder S} (turn : r.party.progress = .actOne) {m : Bytes}
    (h : m.length ≠ actOneSize) :
    (r.call (.receiveActOne m)).1 = .error (.invalidMessageLength actOneSize m.length) := by
  rw [call, receiveActOne, turn, Progress.expect_self, r.actTwo_of_ne h]
  rfl

theorem call_receiveActThree_of_ne {r : Responder S} (turn : r.party.progress = .actThree) {m : Bytes}
    (h : m.length ≠ actThreeSize) :
    (r.call (.receiveActThree m)).1 = .error (.invalidMessageLength actThreeSize m.length) := by
  rw [call, receiveActThree, turn, Progress.expect_self, r.openActThree_of_ne h]
  rfl

theorem Sound.awaits_iff {r : Responder S} (sound : r.Sound) {n : Nat} : r.Awaits n ↔ r.expectedSize = some n := by
  rw [expectedSize_eq_some_iff]
  constructor
  · rintro ⟨c, mem, awaits⟩
    -- bytes that are longer than every size
    have refused := awaits (Bytes.zeros (n + actThreeSize + 1)) (by simp; omega)
    have turn := lawful_turns.turn_of_rejection sound (.length _ _) refused
    rcases List.mem_pair.1 mem with rfl | rfl
    · rw [call_receiveActOne_of_ne turn (by simp [actOneSize, actThreeSize]; omega)] at refused
      cases refused
      exact .inl ⟨turn, rfl⟩
    · rw [call_receiveActThree_of_ne turn (by simp; omega)] at refused
      cases refused
      exact .inr ⟨turn, rfl⟩
  · rintro (⟨turn, rfl⟩ | ⟨turn, rfl⟩)
    · exact ⟨.receiveActOne, by simp, fun m h => call_receiveActOne_of_ne turn h⟩
    · exact ⟨.receiveActThree, by simp, fun m h => call_receiveActThree_of_ne turn h⟩

theorem Stands.expects {r : Responder S} {t : List (Call × Except NoiseError (Answer S))}
    (stands : (turns S).Stands t r) {n : Nat} :
    r.expectedSize = some n ↔ ¬Turns.Failed t ∧
      ((turns S).accepted t = [] ∧ n = actOneSize ∨ (turns S).accepted t = [.actOne] ∧ n = actThreeSize) := by
  rw [expectedSize_eq_some_iff]
  cases stands with
  | @running k le done intact next =>
      rw [show r.party.progress = _ from next, done]
      match k, le with
      | 0, _ => simp [turns, Turns.following, intact]
      | 1, _ => simp [turns, Turns.following, intact]
      | 2, _ => simp [turns, Turns.following]
  | aborted _ _ failed gone =>
      rw [show r.party.progress = _ from gone]
      simp [failed]

/-- The responder knows who act three was from, and nobody else. -/
def Knows (t : List (Call × Except NoiseError (Answer S))) (r : Responder S) : Prop :=
  ∀ p, r.remote = some p ↔ ∃ m session, (.receiveActThree m, .ok (.session p session)) ∈ t

theorem Knows.other {t : List (Call × Except NoiseError (Answer S))} {r r' : Responder S} (knows : Knows t r)
    (same : r'.remote = r.remote) {x : Call × Except NoiseError (Answer S)}
    (h : ∀ m p session, x ≠ (.receiveActThree m, .ok (.session p session))) : Knows (t ++ [x]) r' := by
  intro p
  rw [same, knows p]
  simp only [List.mem_append, List.mem_singleton]
  constructor
  · rintro ⟨m, session, mem⟩
    exact ⟨m, session, .inl mem⟩
  · rintro ⟨m, session, mem | last⟩
    · exact ⟨m, session, mem⟩
    · exact absurd last.symm (h m p session)

theorem Knows.learnt {t : List (Call × Except NoiseError (Answer S))} {r r' : Responder S} (knows : Knows t r)
    (nobody : r.remote = none) {p : S.Point} (h : r'.remote = some p) (m : Bytes) (session : Session S) :
    Knows (t ++ [(.receiveActThree m, .ok (.session p session))]) r' := by
  intro q
  rw [h]
  simp only [List.mem_append, List.mem_singleton]
  -- an earlier act three would be known already
  constructor
  · intro same
    cases same
    exact ⟨m, session, .inr rfl⟩
  · rintro ⟨m', session', mem | last⟩
    · have known := (knows q).2 ⟨m', session', mem⟩
      rw [nobody] at known
      cases known
    · cases last
      rfl

theorem Knows.call {t : List (Call × Except NoiseError (Answer S))} {r : Responder S} (sound : r.Sound)
    (knows : Knows t r) (c : Call) : Knows (t ++ [(c, (r.call c).1)]) (r.call c).2 := by
  cases c with
  | receiveActOne m =>
      refine knows.other ?_ (fun m' p session => by simp)
      simp only [Responder.call, receiveActOne]
      split <;> rfl
  | receiveActThree m =>
      simp only [Responder.call, receiveActThree]
      split
      · exact knows.other rfl (fun m' p session => by simp [Except.map])
      · rename_i turn
        split
        · rename_i p session party opened
          have here : r.party.progress = .actThree := by
            by_contra other
            have answered := turn
            unfold Progress.expect at answered
            rw [if_neg other] at answered
            split at answered <;> cases answered
          exact knows.learnt (sound.unknown (by simp [here])) rfl m session
        · exact knows.other rfl (fun m' p session => by simp [Except.map])

theorem knows_run (static ephemeral : S.Secret) (calls : List Call) :
    Knows (Calls.answers call (new static ephemeral) calls) (Calls.run call (new static ephemeral) calls) := by
  induction calls using List.reverseRecOn with
  | nil =>
      intro p
      simp [Calls.answers, Calls.run, new]
  | append_singleton calls c ih =>
      rw [Calls.answers_concat, Calls.run_concat]
      exact ih.call (Turns.stands_run lawful_turns (sound_new static ephemeral) rfl calls).2 c

end Responder

/-- Whatever is called on a side of a handshake, and with whatever bytes: its acts come in their order, a failure ends
it for good, it says which size it awaits, and the responder knows the initiator from act three on. -/
theorem acts_in_order (static ephemeral : S.Secret) :
    (∀ (remote : S.Point) (calls : List Initiator.Call),
      let M := Initiator.turns S
      let t := Calls.answers M.call (.new static ephemeral remote) calls
      let i := Calls.run M.call (.new static ephemeral remote) calls
      M.Orderly (.new static ephemeral remote) calls t ∧
      (∀ n, i.Awaits n ↔ i.expectedSize = some n) ∧
      ∀ n, i.expectedSize = some n ↔ ¬Turns.Failed t ∧ M.accepted t = [.actOne] ∧ n = actTwoSize) ∧
    ∀ calls : List Responder.Call,
      let M := Responder.turns S
      let t := Calls.answers M.call (.new static ephemeral) calls
      let r := Calls.run M.call (.new static ephemeral) calls
      M.Orderly (.new static ephemeral) calls t ∧
      (∀ n, r.Awaits n ↔ r.expectedSize = some n) ∧
      (∀ n, r.expectedSize = some n ↔ ¬Turns.Failed t ∧
        (M.accepted t = [] ∧ n = actOneSize ∨ M.accepted t = [.actOne] ∧ n = actThreeSize)) ∧
      ∀ p, r.remote = some p ↔ ∃ m session, (.receiveActThree m, .ok (.session p session)) ∈ t := by
  constructor
  · intro remote calls M t i
    have stands := Turns.stands_run Initiator.lawful_turns trivial (s := .new static ephemeral remote) rfl calls
    exact ⟨Turns.orderly Initiator.lawful_turns trivial rfl calls, fun n => Initiator.awaits_iff,
      fun n => Initiator.Stands.expects stands.1⟩
  · intro calls M t r
    have sound := Responder.sound_new static ephemeral
    have stands := Turns.stands_run Responder.lawful_turns sound rfl calls
    exact ⟨Turns.orderly Responder.lawful_turns sound rfl calls, fun n => stands.2.awaits_iff,
      fun n => Responder.Stands.expects stands.1, Responder.knows_run static ephemeral calls⟩

/-- Act three out of its turn changes nothing, an act one of no bytes ends the handshake. -/
example (static ephemeral : S.Secret) :
    (Calls.answers Responder.call (.new static ephemeral)
      [.receiveActThree [], .receiveActOne [], .receiveActOne []]).map (·.2) =
      [.error .unexpectedHandshakeMessage, .error (.invalidMessageLength actOneSize 0), .error .handshakeAborted] :=
  rfl

end NoiseLink
