import NoiseLink.Proofs.DecoderRests
import NoiseLink.Proofs.LinkStates

namespace NoiseLink.Link

variable {S : Suite}

abbrev Event (S : Suite) := Call S × Except LinkError (Output S)

def handed : Event S → Bytes
  | (.feedHandshake b, .ok _) | (.feed b, .ok _) => b
  | _ => []

def completed : Event S → Nat
  | (.feedHandshake _, .ok (.step (.send _))) => actOneSize
  | (.feedHandshake _, .ok (.step (.ready (some _)))) => actTwoSize
  | (.feedHandshake _, .ok (.step (.ready none))) => actThreeSize
  | _ => 0

def payload? : Event S → Option Bytes
  | (.next, .ok (.payload p)) => p
  | _ => none

structure Plain (x : Event S) : Prop where
  handed : handed x = []
  completed : completed x = 0
  payload : payload? x = none

theorem plain_refused (c : Call S) (e : LinkError) : Plain (c, .error e) := by
  cases c <;> exact ⟨rfl, rfl, rfl⟩

/-- The bytes that were handed over behind the acts. -/
def arrived (t : List (Event S)) : Bytes := (t.flatMap handed).drop (t.map completed).sum

def returned (t : List (Event S)) : List Bytes := t.filterMap payload?

def Came (t : List (Event S)) (bytes : Bytes) : Prop :=
  ∃ acts : Bytes, t.flatMap handed = acts ++ bytes ∧ acts.length = (t.map completed).sum

section Histories

variable {t : List (Event S)} {x : Event S} {bytes : Bytes}

theorem Came.arrived_eq (h : Came t bytes) : arrived t = bytes := by
  obtain ⟨acts, whole, size⟩ := h
  rw [arrived, whole, List.drop_left' size]

theorem Came.concat (h : Came t bytes) {act rest : Bytes} (split : bytes ++ handed x = act ++ rest)
    (size : act.length = completed x) : Came (t ++ [x]) rest := by
  obtain ⟨acts, whole, sum⟩ := h
  refine ⟨acts ++ act, ?_, ?_⟩
  · rw [List.flatMap_append, List.flatMap_singleton, whole, List.append_assoc, split, List.append_assoc]
  · rw [List.map_append, List.sum_append, List.map_singleton, List.sum_singleton, List.length_append, sum, size]

theorem Came.more (h : Came t bytes) (inside : completed x = 0) : Came (t ++ [x]) (bytes ++ handed x) :=
  h.concat (List.nil_append _).symm inside.symm

theorem Came.plain (h : Came t bytes) (plain : Plain x) : Came (t ++ [x]) bytes := by
  have more := h.more plain.completed
  rw [plain.handed, List.append_nil] at more
  exact more

theorem Came.append (h : Came t bytes) {since : List (Event S)} (plain : ∀ x ∈ since, Plain x) :
    Came (t ++ since) bytes := by
  induction since generalizing t with
  | nil => rwa [List.append_nil]
  | cons x since ih =>
      obtain ⟨first, later⟩ := List.forall_mem_cons.1 plain
      rw [List.append_cons]
      exact ih (h.plain first) later

theorem returned_concat (t : List (Event S)) (x : Event S) : returned (t ++ [x]) = returned t ++ (payload? x).toList := by
  rw [returned, List.filterMap_append]
  cases h : payload? x <;> simp [returned, h]

theorem returned_of_none (t : List (Event S)) (none : payload? x = none) : returned (t ++ [x]) = returned t := by
  rw [returned_concat, none]
  exact List.append_nil _

end Histories

inductive Heeds (bytes : Bytes) (remote : Option S.Point) (limit : Nat) : Except LinkError HandshakeStep × Link S → Prop
  | failed (e : NoiseError) {l : Link S} (deaf : l.Deaf) : Heeds bytes remote limit (.error (.noise e), l)
  | short {role : Role S} {n : Nat} (awaits : role.expectedSize = some n) (short : bytes.length < n) :
      Heeds bytes remote limit (.ok (.needMore (n - bytes.length)), handshaking role bytes remote limit)
  | answered {act rest : Bytes} (whole : bytes = act ++ rest) (size : act.length = actOneSize) (reply : Bytes)
      (role : Role S) : Heeds bytes remote limit (.ok (.send reply), handshaking role rest remote limit)
  | initiated {act rest : Bytes} (whole : bytes = act ++ rest) (size : act.length = actTwoSize) (reply : Bytes)
      (role : Role S) {session : Session S} (fresh : session.Fresh) :
      Heeds bytes remote limit (.ok (.ready (some reply)), (handshaking role rest remote limit).establish session)
  | accepted {act rest : Bytes} (whole : bytes = act ++ rest) (size : act.length = actThreeSize) (point : S.Point)
      (role : Role S) {session : Session S} (fresh : session.Fresh) :
      Heeds bytes remote limit (.ok (.ready none), (handshaking role rest (some point) limit).establish session)

theorem heeds (role : Role S) (buffer b : Bytes) (remote : Option S.Point) (limit : Nat) :
    Heeds (buffer ++ b) remote limit ((handshaking role buffer remote limit).feedHandshake b) := by
  cases awaits : role.expectedSize with
  | none =>
      have deaf : (handshaking role buffer remote limit).Deaf := ⟨role, rfl, awaits⟩
      obtain ⟨aborted, still⟩ := deaf.feedHandshake b
      generalize (handshaking role buffer remote limit).feedHandshake b = r at aborted still
      obtain ⟨answer, l⟩ := r
      cases aborted
      exact .failed _ still
  | some n =>
      by_cases short : (buffer ++ b).length < n
      · rw [feedHandshake_short awaits remote limit short]
        exact .short awaits short
      · obtain ⟨act, rest, whole, size⟩ := exists_append_of_le (Nat.le_of_not_lt short)
        rw [feedHandshake_whole awaits remote limit whole size]
        cases role with
        | initiator i =>
            obtain ⟨turn, rfl⟩ := Initiator.expectedSize_eq_some_iff.1 awaits
            have checked := i.checked_actThree act
            simp only [receiveAct, Initiator.receiveActTwo, turn, Progress.expect_self]
            generalize i.actThree act = x at checked
            cases checked with
            | rejected => exact .failed _ ⟨_, rfl, rfl⟩
            | ok fresh => exact .initiated whole size _ (.initiator i) fresh
        | responder r =>
            rcases Responder.expectedSize_eq_some_iff.1 awaits with ⟨turn, rfl⟩ | ⟨turn, rfl⟩
            · simp only [receiveAct, if_true, Responder.receiveActOne, turn, Progress.expect_self]
              cases r.actTwo act with
              | error e => exact .failed _ ⟨_, rfl, rfl⟩
              | ok reply => exact .answered whole size _ _
            · have other : actThreeSize ≠ actOneSize := by decide
              simp only [receiveAct, if_neg other, Responder.receiveActThree, turn, Progress.expect_self]
              cases opened : r.openActThree act with
              | error e => exact .failed _ ⟨_, rfl, rfl⟩
              | ok result =>
                  have fresh := r.fresh_of_openActThree opened
                  exact .accepted whole size result.1.1 (.responder r) fresh

/-- The keys that a link received with, from the first record on. -/
def Keyed (calls : List (Call S)) (e : Epoch S) : Prop :=
  ∃ first later encoder buffer, calls = first ++ later ∧
    (Calls.run call new first).state = .established encoder (e.between 0 buffer)

/-- What a link holds, after calls with these answers, of the bytes that have arrived. -/
inductive Tracked (K : Epoch S → Prop) (t : List (Event S)) : Link S → Prop
  | fresh (came : Came t []) (silent : returned t = []) (remote : Option S.Point) (limit : Nat) :
      Tracked K t ⟨.fresh, [], remote, limit⟩
  | awaiting {bytes : Bytes} (came : Came t bytes) (silent : returned t = []) (role : Role S) (remote : Option S.Point)
      (limit : Nat) : Tracked K t (handshaking role bytes remote limit)
  | established {e : Epoch S} {bytes : Bytes} {decoder : Decoder S} (keyed : K e) (came : Came t bytes)
      (reached : e.Reached bytes (returned t) decoder) (encoder : Encoder S) (remote : Option S.Point) (limit : Nat) :
      Tracked K t ⟨.established encoder decoder, [], remote, limit⟩
  | deaf {l : Link S} (deaf : l.Deaf) : Tracked K t l
  | closed {l : Link S} (closed : l.phase = .closed) : Tracked K t l

namespace Tracked

variable {K : Epoch S → Prop} {t : List (Event S)} {l : Link S} {x : Event S}

theorem mono {K' : Epoch S → Prop} (h : Tracked K t l) (keep : ∀ e, K e → K' e) : Tracked K' t l := by
  cases h with
  | fresh came silent remote limit => exact .fresh came silent remote limit
  | awaiting came silent role remote limit => exact .awaiting came silent role remote limit
  | established keyed came reached encoder remote limit =>
      exact .established (keep _ keyed) came reached encoder remote limit
  | deaf deaf => exact .deaf deaf
  | closed closed => exact .closed closed

theorem plain (h : Tracked K t l) (plain : Plain x) : Tracked K (t ++ [x]) l := by
  have same := returned_of_none t plain.payload
  cases h with
  | fresh came silent remote limit => exact .fresh (came.plain plain) (same.trans silent) remote limit
  | awaiting came silent role remote limit => exact .awaiting (came.plain plain) (same.trans silent) role remote limit
  | established keyed came reached encoder remote limit =>
      exact .established keyed (came.plain plain) (same ▸ reached) encoder remote limit
  | deaf deaf => exact .deaf deaf
  | closed closed => exact .closed closed

theorem withLimit (h : Tracked K t l) (size : Nat) : Tracked K t (l.withLimit size) := by
  cases h with
  | fresh came silent remote limit => exact .fresh came silent remote _
  | awaiting came silent role remote limit => exact .awaiting came silent role remote _
  | established keyed came reached encoder remote limit => exact .established keyed came reached encoder remote _
  | deaf deaf => exact .deaf deaf
  | closed closed => exact .closed closed

theorem establish {role : Role S} {bytes : Bytes} {remote : Option S.Point} {limit : Nat} {session : Session S}
    (fresh : session.Fresh) (came : Came t bytes) (silent : returned t = [])
    (here : ∀ e encoder buffer, ((handshaking role bytes remote limit).establish session).state =
      .established encoder (e.between 0 buffer) → K e) :
    Tracked K t ((handshaking role bytes remote limit).establish session) := by
  obtain ⟨sending, receiving, chain, rfl⟩ := fresh
  let e : Epoch S := ⟨receiving, chain⟩
  have reached : e.Reached bytes (returned t) (e.between 0 bytes) := by
    rw [silent]
    exact .between (List.nil_append _).symm .nil
  exact .established (here e _ bytes rfl) came reached _ _ _

theorem start (h : Tracked K t l) (fresh : l.phase = .fresh) (role : Role S) :
    Tracked K (t ++ [(.start role, (l.call (.start role)).1)]) (l.call (.start role)).2 := by
  cases h with
  | awaiting | established => cases fresh
  | deaf deaf => cases deaf.phase.symm.trans fresh
  | closed closed => cases closed.symm.trans fresh
  | fresh came silent remote limit =>
      have came' {answer : Except LinkError (Output S)} : Came (t ++ [(.start role, answer)]) [] :=
        came.plain ⟨rfl, rfl, rfl⟩
      have silent' {answer : Except LinkError (Output S)} : returned (t ++ [(.start role, answer)]) = [] :=
        (returned_of_none t rfl).trans silent
      cases role with
      | responder r => exact .awaiting came' silent' _ _ _
      | initiator i =>
          simp only [call, Link.start, isFresh, if_true]
          rcases i.sendActOne with ⟨e | act, i'⟩
          · exact .fresh came' silent' _ _
          · exact .awaiting came' silent' _ _ _

theorem feedHandshake (h : Tracked K t l) (here : l.phase = .handshake) (b : Bytes)
    (keyed : ∀ e encoder buffer, (l.call (.feedHandshake b)).2.state = .established encoder (e.between 0 buffer) → K e) :
    Tracked K (t ++ [(.feedHandshake b, (l.call (.feedHandshake b)).1)]) (l.call (.feedHandshake b)).2 := by
  cases h with
  | fresh | established => cases here
  | closed closed => cases closed.symm.trans here
  | deaf deaf => exact .deaf (deaf.feedHandshake b).2
  | @awaiting bytes came silent role remote limit =>
      have heeds := heeds role bytes b remote limit
      simp only [call] at keyed ⊢
      generalize (handshaking role bytes remote limit).feedHandshake b = r at heeds keyed ⊢
      have silent' {answer : Except LinkError (Output S)} : returned (t ++ [(.feedHandshake b, answer)]) = [] :=
        (returned_of_none t rfl).trans silent
      cases heeds with
      | failed e deaf => exact .deaf deaf
      | short awaits short => exact .awaiting (came.more rfl) silent' _ remote limit
      | @answered act rest whole size reply role' =>
          have came' : Came (t ++ [(.feedHandshake b, .ok (.step (.send reply)))]) rest := came.concat whole size
          exact .awaiting came' silent' role' remote limit
      | initiated whole size reply role fresh => exact establish fresh (came.concat whole size) silent' keyed
      | accepted whole size point role fresh => exact establish fresh (came.concat whole size) silent' keyed

theorem of_established (h : Tracked K t l) (here : l.phase = .established) :
    ∃ e bytes encoder decoder remote limit, l = ⟨.established encoder decoder, [], remote, limit⟩ ∧ K e ∧ Came t bytes ∧
      e.Reached bytes (returned t) decoder := by
  cases h with
  | fresh | awaiting => cases here
  | closed closed => cases closed.symm.trans here
  | deaf deaf => cases deaf.phase.symm.trans here
  | established keyed came reached encoder remote limit => exact ⟨_, _, _, _, _, _, rfl, keyed, came, reached⟩

theorem feed (h : Tracked K t l) (here : l.phase = .established) (b : Bytes) :
    Tracked K (t ++ [(.feed b, (l.call (.feed b)).1)]) (l.call (.feed b)).2 := by
  obtain ⟨e, bytes, encoder, decoder, remote, limit, rfl, keyed, came, reached⟩ := h.of_established here
  have more : Came (t ++ [(.feed b, .ok .done)]) (bytes ++ b) := came.more rfl
  have same := returned_of_none (x := (.feed b, .ok .done)) t rfl
  exact .established keyed more (same ▸ reached.feed b) encoder remote limit

theorem next (h : Tracked K t l) (here : l.phase = .established) :
    Tracked K (t ++ [(.next, (l.call .next).1)]) (l.call .next).2 := by
  obtain ⟨e, bytes, encoder, decoder, remote, limit, rfl, keyed, came, reached⟩ := h.of_established here
  have came' (answer : Except LinkError (Output S)) : Came (t ++ [(.next, answer)]) bytes := by
    have split : bytes ++ [] = [] ++ bytes := List.append_nil bytes
    exact came.concat split rfl
  have read := reached.next
  simp only [call, Link.next]
  generalize decoder.next = r at read
  cases read with
  | @payload p d reached =>
      have shown := returned_concat t (.next, .ok (.payload (some p)))
      exact .established keyed (came' _) (shown ▸ reached) encoder remote limit
  | missing reached =>
      have shown := returned_of_none (x := (.next, .ok (.payload none))) t rfl
      exact .established keyed (came' _) (shown ▸ reached) encoder remote limit
  | @failed err fatal d =>
      cases err with
      | missingBytes => cases fatal
      | _ => exact .closed rfl

theorem encrypt (h : Tracked K t l) (here : l.phase = .established) (p : Bytes) :
    Tracked K (t ++ [(.encrypt p, (l.call (.encrypt p)).1)]) (l.call (.encrypt p)).2 := by
  have plain (answer : Except LinkError (Output S)) : Plain (S := S) (.encrypt p, answer) := ⟨rfl, rfl, rfl⟩
  have still := h.plain (plain (l.call (.encrypt p)).1)
  obtain ⟨e, bytes, encoder, decoder, remote, limit, rfl, keyed, came, reached⟩ := still.of_established here
  exact .established keyed came reached _ remote limit

theorem call (h : Tracked K t l) (c : Call S)
    (keyed : ∀ e encoder buffer, (l.call c).2.state = .established encoder (e.between 0 buffer) → K e) :
    Tracked K (t ++ [(c, (l.call c).1)]) (l.call c).2 := by
  rcases l.refused_or_here c with refused | here
  · rw [refused]
    exact h.plain (plain_refused c _)
  · cases c with
    | withLimit size => exact (h.plain ⟨rfl, rfl, rfl⟩).withLimit size
    | start role => exact h.start (here _ rfl) role
    | feedHandshake b => exact h.feedHandshake (here _ rfl) b keyed
    | encrypt p => exact h.encrypt (here _ rfl) p
    | feed b => exact h.feed (here _ rfl) b
    | next => exact h.next (here _ rfl)
    | finish | split => exact h.plain ⟨rfl, rfl, rfl⟩
    | close => exact .closed rfl

end Tracked

theorem tracked_run (calls : List (Call S)) :
    Tracked (Keyed calls) (Calls.answers call new calls) (Calls.run call new calls) := by
  induction calls using List.reverseRecOn with
  | nil => exact .fresh ⟨[], rfl, rfl⟩ rfl none maxMessageSize
  | append_singleton calls c ih =>
      rw [Calls.run_concat, Calls.answers_concat]
      apply (ih.mono ?_).call c
      · intro e encoder buffer here
        exact ⟨calls ++ [c], [], encoder, buffer, (List.append_nil _).symm, by rw [Calls.run_concat]; exact here⟩
      · rintro e ⟨first, later, encoder, buffer, rfl, here⟩
        exact ⟨first, later ++ [c], encoder, buffer, List.append_assoc _ _ _, here⟩

end NoiseLink.Link
