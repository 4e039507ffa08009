import NoiseLink.Proofs.ErrorPhases
import NoiseLink.Proofs.Halves
import NoiseLink.Proofs.LinkArrivals

namespace NoiseLink

variable {S : Suite}

/-- A kind of side that sends: what comes of a payload, and the uses of the cipher that are made for it. -/
structure Sending (S : Suite) (σ ε : Type) where
  send : σ → Bytes → Except ε Bytes × σ
  uses : σ → Bytes → List (Use S)
  large : Nat → ε
  keyless : ε

namespace Sending

variable {σ ε : Type}

/-- A record, or a refusal that changes nothing. The size of a payload is looked at before the key is. -/
structure Serves (M : Sending S σ ε) (s : σ) (limit : Nat) (gone : Prop) : Prop where
  large : ∀ p, limit < p.length → M.send s p = (.error (M.large p.length), s) ∧ M.uses s p = []
  keyless : gone → ∀ p, p.length ≤ limit → M.send s p = (.error M.keyless, s) ∧ M.uses s p = []
  sealed : ¬gone → ∀ p, p.length ≤ limit → ∃ record u v s', M.send s p = (.ok record, s') ∧ M.uses s p = [u, v] ∧
    record = u.encrypt (Bytes.ofNatBE lengthSize p.length) ++ v.encrypt p ∧
    record.length = headerSize + p.length + macSize

theorem Serves.idle {M : Sending S σ ε} {s : σ} {limit : Nat} {gone : Prop} (serves : M.Serves s limit gone) {p : Bytes}
    {err : ε} (refused : (M.send s p).1 = .error err) : (M.send s p).2 = s := by
  by_cases large : limit < p.length
  · rw [(serves.large p large).1]
  · have fits := Nat.le_of_not_lt large
    by_cases key : gone
    · rw [(serves.keyless key p fits).1]
    · obtain ⟨record, u, v, s', sent, -⟩ := serves.sealed key p fits
      rw [sent] at refused
      cases refused

def refused {κ α : Type} : κ × Except ε α → Bool
  | (_, .error _) => true
  | (_, .ok _) => false

def inForce (limits : List Nat) : Nat := (limits.getLast?.map (min · maxMessageSize)).getD maxMessageSize

theorem inForce_concat (limits : List Nat) (size : Nat) : inForce (limits ++ [size]) = min size maxMessageSize := by
  rw [inForce, List.getLast?_concat]
  rfl

theorem inForce_le (limits : List Nat) : inForce limits ≤ maxMessageSize := by
  cases limits using List.reverseRecOn with
  | nil => exact Nat.le_refl _
  | append_singleton limits size =>
      rw [inForce_concat]
      exact Nat.min_le_right _ _

end Sending

open Sending

namespace Sealer

inductive Call where
  | encrypt (payload : Bytes)
  | erase

def call (s : Sealer S) : Call → Except NoiseError Bytes × Sealer S
  | .encrypt payload => s.encrypt payload
  | .erase => (.ok [], s.erase)

def sending : Sending S (Sealer S) NoiseError := ⟨encrypt, uses, .messageTooLarge, .keyErased⟩

inductive Kept : Sealer S → Prop
  | live (e : Epoch S) (i : Nat) : Kept (e.sealer i)
  | erased (c : RecordCipher S) : Kept ⟨c.erase⟩

theorem not_isErased_live (e : Epoch S) (i : Nat) : ¬(e.sealer i).cipher.isErased = true := by
  rw [Epoch.sealer, e.isErased_used]
  exact Bool.false_ne_true

theorem length_record (sealing : S.Sealing) (u v : Use S) (p : Bytes) :
    (u.encrypt (Bytes.ofNatBE lengthSize p.length) ++ v.encrypt p).length = headerSize + p.length + macSize := by
  rw [List.length_append, u.length_encrypt sealing, v.length_encrypt sealing, Bytes.length_ofNatBE, ← Nat.add_assoc]
  rfl

theorem Kept.serves (sealing : S.Sealing) {s : Sealer S} (kept : s.Kept) :
    sending.Serves s maxMessageSize (s.cipher.isErased = true) where
  large p large := ⟨if_pos large, if_pos large⟩
  keyless gone p fits := by
    cases kept with
    | live e i => exact absurd gone (not_isErased_live e i)
    | erased c =>
        have small := Nat.not_lt.2 fits
        exact ⟨if_neg small, if_neg small⟩
  sealed live p fits := by
    cases kept with
    | erased c => exact absurd rfl live
    | live e i =>
        have size := length_record sealing (e.useAt (2 * i)) (e.useAt (2 * i + 1)) p
        exact ⟨_, _, _, _, e.encrypt_sealer i fits, e.uses_sealer i fits, rfl, size⟩

theorem encrypt_live (e : Epoch S) (i : Nat) (p : Bytes) : ∃ j, ((e.sealer i).encrypt p).2 = e.sealer j := by
  by_cases large : p.length > maxMessageSize
  · have refused : (e.sealer i).encrypt p = (.error (.messageTooLarge p.length), e.sealer i) := if_pos large
    exact ⟨i, congrArg Prod.snd refused⟩
  · exact ⟨i + 1, congrArg Prod.snd (e.encrypt_sealer i (Nat.le_of_not_lt large))⟩

theorem Kept.encrypt {s : Sealer S} (kept : s.Kept) (p : Bytes) :
    (s.encrypt p).2.Kept ∧ (s.encrypt p).2.cipher.isErased = s.cipher.isErased := by
  by_cases large : p.length > maxMessageSize
  · have refused : s.encrypt p = (.error (.messageTooLarge p.length), s) := if_pos large
    rw [refused]
    exact ⟨kept, rfl⟩
  · cases kept with
    | live e i =>
        rw [e.encrypt_sealer i (Nat.le_of_not_lt large)]
        exact ⟨.live e (i + 1), (e.isErased_used _).trans (e.isErased_used _).symm⟩
    | erased c =>
        have refused : (⟨c.erase⟩ : Sealer S).encrypt p = (.error .keyErased, ⟨c.erase⟩) := if_neg large
        rw [refused]
        exact ⟨.erased c, rfl⟩

theorem Kept.call {s : Sealer S} (kept : s.Kept) (c : Call) :
    (s.call c).2.Kept ∧ ((s.call c).2.cipher.isErased = true ↔ s.cipher.isErased = true ∨ c = .erase) := by
  cases c with
  | erase => exact ⟨.erased _, iff_of_true rfl (.inr rfl)⟩
  | encrypt p =>
      obtain ⟨still, same⟩ := kept.encrypt p
      exact ⟨still, by simp [Sealer.call, same]⟩

theorem kept_run (key chain : Bytes) (calls : List Call) :
    (Calls.run call (⟨.ofKey key chain⟩ : Sealer S) calls).Kept ∧
      ((Calls.run call (⟨.ofKey key chain⟩ : Sealer S) calls).cipher.isErased = true ↔ .erase ∈ calls) := by
  have fresh : (⟨.ofKey key chain⟩ : Sealer S).Kept := .live ⟨key, chain⟩ 0
  obtain ⟨kept, gone⟩ :=
    Calls.marked (M := fun s : Sealer S => s.cipher.isErased = true) (fun _ kept => Kept.call kept) fresh calls
  refine ⟨kept, gone.trans (or_iff_right ?_)⟩
  exact Bool.false_ne_true

theorem steady (sealing : S.Sealing) {s : Sealer S} (kept : s.Kept) : Calls.Steady call refused s := by
  refine Calls.steady (fun s kept c => ⟨(kept.call c).1, fun h => ?_⟩) kept
  cases c with
  | erase => cases h
  | encrypt p =>
      cases failed : (s.encrypt p).1 with
      | ok record => simp [refused, call, failed] at h
      | error err => exact (kept.serves sealing).idle failed

end Sealer

namespace Encoder

def uses (enc : Encoder S) (payload : Bytes) : List (Use S) :=
  if payload.length > enc.limit then [] else enc.sealer.uses payload

def sending : Sending S (Encoder S) LinkError := ⟨encode, uses, .messageTooLarge, .noise .keyErased⟩

def Call.limit? : Call → Option Nat
  | .setLimit size => some size
  | _ => none

theorem serves (sealing : S.Sealing) {enc : Encoder S} (fits : enc.limit ≤ maxMessageSize) (kept : enc.sealer.Kept) :
    sending.Serves enc enc.limit (enc.sealer.cipher.isErased = true) where
  large p large := ⟨if_pos large, if_pos large⟩
  keyless gone p small := by
    obtain ⟨sent, uses⟩ := (kept.serves sealing).keyless gone p (Nat.le_trans small fits)
    refine ⟨encode_of_isErased gone small fits, ?_⟩
    exact (if_neg (Nat.not_lt.2 small)).trans uses
  sealed live p small := by
    obtain ⟨record, u, v, s', sent, uses, made, size⟩ := (kept.serves sealing).sealed live p (Nat.le_trans small fits)
    refine ⟨record, u, v, { enc with sealer := s' }, ?_, (if_neg (Nat.not_lt.2 small)).trans uses, made, size⟩
    change enc.sealer.encrypt p = _ at sent
    simp only [sending, encode, if_neg (Nat.not_lt.2 small), sent]

def Stands (enc : Encoder S) : Prop := enc.limit ≤ maxMessageSize ∧ enc.sealer.Kept

theorem sealer_encode (enc : Encoder S) (p : Bytes) :
    (enc.encode p).2.sealer = enc.sealer ∨ (enc.encode p).2.sealer = (enc.sealer.encrypt p).2 := by
  rw [encode]
  split
  · exact .inl rfl
  · rcases enc.sealer.encrypt p with ⟨_ | _, s⟩ <;> exact .inr rfl

theorem Stands.encode {enc : Encoder S} (stands : enc.Stands) (p : Bytes) :
    (enc.encode p).2.Stands ∧ (enc.encode p).2.sealer.cipher.isErased = enc.sealer.cipher.isErased := by
  obtain ⟨fits, kept⟩ := stands
  rw [Stands, enc.limit_encode p]
  rcases enc.sealer_encode p with same | sent
  · rw [same]
    exact ⟨⟨fits, kept⟩, rfl⟩
  · obtain ⟨still, gone⟩ := kept.encrypt p
    rw [sent]
    exact ⟨⟨fits, still⟩, gone⟩

theorem Stands.call {enc : Encoder S} (stands : enc.Stands) (c : Call) :
    (enc.call c).2.Stands ∧
      ((enc.call c).2.sealer.cipher.isErased = true ↔ enc.sealer.cipher.isErased = true ∨ c = .erase) := by
  cases c with
  | erase => exact ⟨⟨stands.1, .erased _⟩, iff_of_true rfl (.inr rfl)⟩
  | setLimit size => exact ⟨⟨Nat.min_le_right _ _, stands.2⟩, by simp [Encoder.call, setLimit]⟩
  | encode p =>
      obtain ⟨still, same⟩ := stands.encode p
      exact ⟨still, by simp [Encoder.call, same]⟩

theorem limit_call_run {enc : Encoder S} {limits : List Nat} (set : enc.limit = inForce limits) (calls : List Call) :
    (Calls.run call enc calls).limit = inForce (limits ++ calls.filterMap Call.limit?) := by
  induction calls generalizing enc limits with
  | nil =>
      rw [List.filterMap_nil, List.append_nil]
      exact set
  | cons c calls ih =>
      cases c with
      | encode p => exact ih ((enc.limit_encode p).trans set)
      | erase => exact ih set
      | setLimit size =>
          have set' : (enc.setLimit size).limit = inForce (limits ++ [size]) := (inForce_concat limits size).symm
          have later := ih set'
          rw [List.append_assoc] at later
          exact later

/-- An encoder under any calls, from any limit and any state of its key on. -/
theorem serves_run (sealing : S.Sealing) {enc : Encoder S} (kept : enc.sealer.Kept) {limits : List Nat}
    (set : enc.limit = inForce limits) (calls : List Call) :
    sending.Serves (Calls.run call enc calls) (inForce (limits ++ calls.filterMap Call.limit?))
      (enc.sealer.cipher.isErased = true ∨ .erase ∈ calls) := by
  have fresh : enc.Stands := ⟨set ▸ inForce_le limits, kept⟩
  obtain ⟨⟨fits, still⟩, gone⟩ := Calls.marked (M := fun enc : Encoder S => enc.sealer.cipher.isErased = true)
    (fun _ stands => Stands.call stands) fresh calls
  rw [← limit_call_run set, ← gone]
  exact serves sealing fits still

theorem steady (sealing : S.Sealing) {enc : Encoder S} (stands : enc.Stands) : Calls.Steady call refused enc := by
  refine Calls.steady (P := Stands) (fun enc stands c => ⟨(Stands.call stands c).1, fun h => ?_⟩) stands
  cases c with
  | erase | setLimit => cases h
  | encode p =>
      cases failed : (enc.encode p).1 with
      | ok record => simp [refused, call, failed] at h
      | error err => exact (serves sealing stands.1 stands.2).idle failed

end Encoder

namespace Link

def uses (l : Link S) (payload : Bytes) : List (Use S) :=
  match l.state with
  | .established encoder _ => encoder.uses payload
  | _ => []

def sending : Sending S (Link S) LinkError := ⟨encrypt, uses, .messageTooLarge, .noise .keyErased⟩

def Call.limit? : Call S → Option Nat
  | .withLimit size => some size
  | _ => none

def refusedSend : Event S → Bool
  | (.encrypt _, .error _) => true
  | _ => false

inductive Holds (l : Link S) : Call S → Except LinkError (Output S) → Encoder S → Prop
  | kept {c : Call S} {answer : Except LinkError (Output S)} {encoder : Encoder S} {decoder : Decoder S}
      (here : l.state = .established encoder decoder) : Holds l c answer encoder
  | asked {encoder : Encoder S} {decoder : Decoder S} (here : l.state = .established encoder decoder) (p : Bytes)
      (answer : Except LinkError (Output S)) : Holds l (.encrypt p) answer (encoder.encode p).2
  | made {session : Session S} (fresh : session.Fresh) (b : Bytes) (reply : Option Bytes) :
      Holds l (.feedHandshake b) (.ok (.step (.ready reply))) ((Encoder.new session.sealer).setLimit l.limit)

theorem holds_feedHandshake {l : Link S} (here : l.phase = .handshake) (b : Bytes) {encoder : Encoder S}
    {decoder : Decoder S} (ready : (l.call (.feedHandshake b)).2.state = .established encoder decoder) :
    Holds l (.feedHandshake b) (l.call (.feedHandshake b)).1 encoder := by
  obtain ⟨state, buffer, remote, limit⟩ := l
  cases state with
  | fresh | established | closed => cases here
  | handshake role =>
      have heeds := heeds role buffer b remote limit
      simp only [call, handshaking] at heeds ready ⊢
      generalize feedHandshake _ b = r at heeds ready
      cases heeds with
      | failed e deaf =>
          obtain ⟨role, still, -⟩ := deaf
          cases still.symm.trans ready
      | short | answered => cases ready
      | initiated whole size reply role fresh =>
          cases ready
          exact .made fresh b _
      | accepted whole size point role fresh =>
          cases ready
          exact .made fresh b _

theorem not_established_start (l : Link S) (here : l.phase = .fresh) (role : Role S) :
    (l.start role).2.phase ≠ .established := by
  have moved := move l (.start role)
  rw [here] at moved
  simp only [call] at moved
  generalize (l.start role).1.map _ = answer, (l.start role).2.phase = after at moved
  cases moved with
  | refused | started | spent => decide

theorem phase_of_established {l : Link S} {encoder : Encoder S} {decoder : Decoder S}
    (h : l.state = .established encoder decoder) : l.phase = .established := by
  rw [phase, h]

theorem state_next {l : Link S} {encoder : Encoder S} {decoder : Decoder S} (h : l.state = .established encoder decoder) :
    l.next.2.state = .established encoder decoder.next.2 ∨ l.next.2.state = .closed := by
  simp only [next, h]
  obtain ⟨payload, d, read⟩ | ⟨n, d, read⟩ | ⟨e, d, fatal, read⟩ := decoder.next_cases
  · exact .inl (by rw [read])
  · exact .inl (by rw [read])
  · rw [read]
    cases e with
    | missingBytes => cases fatal
    | noise | truncatedRecord | unexpectedState | messageTooLarge => exact .inr rfl

theorem holds {l : Link S} (c : Call S) {encoder : Encoder S} {decoder : Decoder S}
    (ready : (l.call c).2.state = .established encoder decoder) : Holds l c (l.call c).1 encoder := by
  rcases l.refused_or_here c with refused | here
  · rw [refused] at ready ⊢
    exact .kept ready
  · obtain ⟨state, buffer, remote, limit⟩ := l
    cases c with
    | withLimit | finish | split => exact .kept ready
    | close => cases ready
    | feedHandshake b => exact holds_feedHandshake (here _ rfl) b ready
    | start role => exact absurd (phase_of_established ready) (not_established_start _ (here _ rfl) role)
    | encrypt p =>
        cases state with
        | fresh | handshake | closed => cases here _ rfl
        | established encoder decoder =>
            cases ready
            exact .asked rfl p _
    | feed b =>
        cases state with
        | fresh | handshake | closed => cases here _ rfl
        | established encoder decoder =>
            cases ready
            exact .kept rfl
    | next =>
        cases state with
        | fresh | handshake | closed => cases here _ rfl
        | established encoder decoder =>
            rcases state_next (l := ⟨.established encoder decoder, buffer, remote, limit⟩) rfl with still | closed
            · cases still.symm.trans ready
              exact .kept rfl
            · cases closed.symm.trans ready

def Ended (calls : List (Call S)) (limits : List Nat) : Prop :=
  ∃ first b reply later, calls = first ++ .feedHandshake b :: later ∧
    ((Calls.run call new first).call (.feedHandshake b)).1 = .ok (.step (.ready reply)) ∧
    limits = first.filterMap Call.limit?

theorem Ended.concat {calls : List (Call S)} {limits : List Nat} (h : Ended calls limits) (c : Call S) :
    Ended (calls ++ [c]) limits := by
  obtain ⟨first, b, reply, later, rfl, ready, set⟩ := h
  exact ⟨first, b, reply, later ++ [c], by simp, ready, set⟩

theorem limit_receiveAct (l : Link S) (size : Nat) (act : Bytes) (role : Role S) :
    (l.receiveAct size act role).2.limit = l.limit := by
  cases role with
  | initiator i =>
      rw [receiveAct]
      rcases i.receiveActTwo act with ⟨e | ⟨reply, session⟩, i'⟩ <;> rfl
  | responder r =>
      rw [receiveAct]
      split
      · rcases r.receiveActOne act with ⟨e | reply, r'⟩ <;> rfl
      · rcases r.receiveActThree act with ⟨e | ⟨remote, session⟩, r'⟩ <;> rfl

theorem limit_feedHandshake (l : Link S) (b : Bytes) : (l.feedHandshake b).2.limit = l.limit := by
  rw [feedHandshake]
  split
  · dsimp only
    split
    · rfl
    · split
      · rfl
      · exact limit_receiveAct _ _ _ _
  · rfl

theorem limit_start (l : Link S) (role : Role S) : (l.start role).2.limit = l.limit := by
  cases role with
  | responder r =>
      rw [start]
      split <;> rfl
  | initiator i =>
      simp only [start]
      split
      · rcases i.sendActOne with ⟨e | act, i'⟩ <;> rfl
      · rfl

theorem limit_next (l : Link S) : l.next.2.limit = l.limit := by
  rw [next]
  split
  · split <;> rfl
  · rfl

/-- Only a new limit changes the one of a link, in whatever phase. -/
theorem limit_call (l : Link S) (c : Call S) :
    (l.call c).2.limit = (c.limit?.map (min · maxMessageSize)).getD l.limit := by
  cases c with
  | withLimit | finish | close | split => rfl
  | start role => exact l.limit_start role
  | feedHandshake b => exact l.limit_feedHandshake b
  | next => exact l.limit_next
  | encrypt p =>
      simp only [call, encrypt]
      split <;> rfl
  | feed b =>
      simp only [call, feed]
      split <;> rfl

/-- What the calls on a link have come to, as far as it sends. -/
structure Armed (calls : List (Call S)) (l : Link S) : Prop where
  limit : l.limit = inForce (calls.filterMap Call.limit?)
  encoder : ∀ encoder decoder, l.state = .established encoder decoder →
    (∃ (e : Epoch S) (i : Nat), encoder.sealer = e.sealer i) ∧
    ∃ limits, Ended calls limits ∧ encoder.limit = inForce limits

theorem armed_run (calls : List (Call S)) : Armed calls (Calls.run call new calls) := by
  induction calls using List.reverseRecOn with
  | nil => exact ⟨rfl, nofun⟩
  | append_singleton calls c ih =>
      rw [Calls.run_concat]
      refine ⟨?_, fun encoder decoder ready => ?_⟩
      · rw [limit_call, ih.limit, List.filterMap_append]
        cases h : c.limit? with
        | none => simp [h]
        | some size => simp [h, inForce_concat]
      · have holds := holds c ready
        generalize answered : ((Calls.run call new calls).call c).1 = answer at holds
        cases holds with
        | kept here =>
            obtain ⟨live, limits, ended, set⟩ := ih.encoder _ _ here
            exact ⟨live, limits, ended.concat c, set⟩
        | @asked encoder decoder here p =>
            obtain ⟨⟨e, i, live⟩, limits, ended, set⟩ := ih.encoder _ _ here
            refine ⟨?_, limits, ended.concat _, (encoder.limit_encode p).trans set⟩
            rcases encoder.sealer_encode p with same | sent
            · exact ⟨e, i, same.trans live⟩
            · rw [live] at sent
              obtain ⟨j, next⟩ := Sealer.encrypt_live e i p
              exact ⟨e, j, sent.trans next⟩
        | @made session fresh b reply =>
            obtain ⟨sending, receiving, chain, rfl⟩ := fresh
            refine ⟨⟨⟨sending, chain⟩, 0, rfl⟩, _, ⟨calls, b, reply, [], rfl, answered, rfl⟩, ?_⟩
            rw [← Nat.min_eq_left (inForce_le (calls.filterMap Call.limit?)), ← ih.limit]
            rfl

theorem serves (sealing : S.Sealing) {l : Link S} {encoder : Encoder S} {decoder : Decoder S}
    (here : l.state = .established encoder decoder) (fits : encoder.limit ≤ maxMessageSize) {e : Epoch S} {i : Nat}
    (live : encoder.sealer = e.sealer i) : sending.Serves l encoder.limit False := by
  obtain ⟨state, buffer, remote, limit⟩ := l
  cases here
  have serves := encoder.serves sealing fits (live ▸ .live e i)
  have there : ¬encoder.sealer.cipher.isErased = true := live ▸ Sealer.not_isErased_live e i
  refine ⟨fun p large => ?_, False.elim, fun _ p small => ?_⟩
  · obtain ⟨sent, uses⟩ := serves.large p large
    change encoder.encode p = _ at sent
    refine ⟨?_, uses⟩
    simp only [sending, encrypt, sent]
    rfl
  · obtain ⟨record, u, v, encoder', sent, rest⟩ := serves.sealed there p small
    change encoder.encode p = _ at sent
    refine ⟨record, u, v, ⟨.established encoder' decoder, buffer, remote, limit⟩, ?_, rest⟩
    simp only [sending, encrypt, sent]

theorem exists_of_established {l : Link S} (here : l.phase = .established) :
    ∃ encoder decoder, l.state = .established encoder decoder := by
  obtain ⟨state, buffer, remote, limit⟩ := l
  cases state with
  | fresh | handshake | closed => cases here
  | established encoder decoder => exact ⟨encoder, decoder, rfl⟩

/-- How a link sends, and the half of it that sends. -/
structure Sends (calls : List (Call S)) (l : Link S) (limits : List Nat) : Prop where
  ended : Ended calls limits
  serves : sending.Serves l (inForce limits) False
  split : ∀ encoder decoder, l.split = .ok (encoder, decoder) →
    Calls.Steady Encoder.call refused encoder ∧
    ∀ more : List Encoder.Call, Encoder.sending.Serves (Calls.run Encoder.call encoder more)
      (inForce (limits ++ more.filterMap Encoder.Call.limit?)) (.erase ∈ more)

theorem exists_sends (sealing : S.Sealing) {calls : List (Call S)}
    (here : (Calls.run call new calls).phase = .established) :
    ∃ limits, Sends calls (Calls.run call new calls) limits := by
  have armed := armed_run calls
  generalize Calls.run call new calls = l at armed here ⊢
  obtain ⟨encoder, decoder, established⟩ := exists_of_established here
  obtain ⟨⟨e, i, live⟩, limits, ended, set⟩ := armed.encoder encoder decoder established
  have fits : encoder.limit ≤ maxMessageSize := set ▸ inForce_le limits
  have kept : encoder.sealer.Kept := live ▸ .live e i
  refine ⟨limits, ended, set ▸ serves sealing established fits live, fun encoder' decoder' parted => ?_⟩
  cases (split_eq_ok_iff.1 parted).symm.trans established
  have there : ¬encoder.sealer.cipher.isErased = true := live ▸ Sealer.not_isErased_live e i
  refine ⟨Encoder.steady sealing ⟨fits, kept⟩, fun more => ?_⟩
  rw [← or_iff_right (b := Encoder.Call.erase ∈ more) there]
  exact Encoder.serves_run sealing kept set more

theorem steady (sealing : S.Sealing) : Calls.Steady call refusedSend (new : Link S) := by
  -- whatever state the calls so far have led to, a refused payload leaves it
  refine Calls.steady (P := fun l => ∃ calls, l = Calls.run call new calls) ?_ ⟨[], rfl⟩
  rintro _ ⟨calls, rfl⟩ c
  refine ⟨⟨calls ++ [c], (Calls.run_concat call new calls c).symm⟩, fun h => ?_⟩
  rcases (Calls.run call new calls).refused_or_here c with refused | here
  · rw [refused]
  · cases c with
    | withLimit | start | feedHandshake | feed | next | finish | close | split => cases h
    | encrypt p =>
        obtain ⟨limits, sends⟩ := exists_sends sealing (here _ rfl)
        cases failed : ((Calls.run call new calls).encrypt p).1 with
        | ok record => simp [refusedSend, call, failed, Except.map] at h
        | error err => exact sends.serves.idle failed

end Link

/-- Whatever a side that sends has been through, it refuses a payload that is above the limit in force, and any other once
its key was erased, and stays as it was. All else is sealed, by two uses of the cipher. So the records of a run, and what
the side comes to, are those of the run without the refused payloads. -/
theorem refused_sends_change_nothing (sealing : S.Sealing) :
    (∀ (key chain : Bytes) (before : List Sealer.Call),
      let fresh : Sealer S := ⟨.ofKey key chain⟩
      let sealer := Calls.run Sealer.call fresh before
      Sealer.sending.Serves sealer maxMessageSize (.erase ∈ before) ∧
      Calls.Steady Sealer.call refused fresh ∧
      Calls.Steady Encoder.call refused (.new sealer) ∧
      ∀ calls : List Encoder.Call, Encoder.sending.Serves (Calls.run Encoder.call (.new sealer) calls)
        (inForce (calls.filterMap Encoder.Call.limit?)) (.erase ∈ before ∨ .erase ∈ calls)) ∧
    Calls.Steady Link.call Link.refusedSend (Link.new : Link S) ∧
    ∀ calls : List (Link.Call S), (Calls.run Link.call Link.new calls).isReady = true →
      ∃ limits, Link.Sends calls (Calls.run Link.call Link.new calls) limits := by
  refine ⟨fun key chain before => ?_, Link.steady sealing, fun calls ready => ?_⟩
  · obtain ⟨kept, gone⟩ := Sealer.kept_run key chain before
    intro fresh sealer
    rw [← gone]
    have unlimited : (Encoder.new sealer).limit = inForce [] := rfl
    refine ⟨kept.serves sealing, Sealer.steady sealing (.live ⟨key, chain⟩ 0), ?_, fun calls => ?_⟩
    · exact Encoder.steady sealing ⟨Nat.le_refl _, kept⟩
    · exact Encoder.serves_run sealing kept unlimited calls
  · exact Link.exists_sends sealing ((Link.isReady_iff _).1 ready)

theorem refused_sends_change_nothing_before_change :
    let fresh : Encoder .standard := .new ⟨.ofKey (Bytes.zeros 32) (Bytes.zeros 32)⟩
    let before : List Encoder.Call := .setLimit 2 :: List.replicate 500 (.encode [5])
    let encoder := Calls.run Encoder.call fresh before
    Suite.standard.Sealing ∧ encoder.encode [1, 2, 3] = (.error (.messageTooLarge 3), encoder) ∧
      Calls.run Encoder.call fresh (before ++ [.encode [1, 2, 3], .encode [6]]) =
        Calls.run Encoder.call fresh (before ++ [.encode [6]]) := by
  obtain ⟨-, -, steady, serves⟩ :=
    (refused_sends_change_nothing Suite.standard_sealing).1 (Bytes.zeros 32) (Bytes.zeros 32) []
  generalize 500 = n
  intro fresh before encoder
  have unset : (List.replicate n (Encoder.Call.encode [5])).filterMap Encoder.Call.limit? = [] :=
    List.filterMap_replicate_of_none rfl
  have set : inForce (before.filterMap Encoder.Call.limit?) = 2 := by
    rw [List.filterMap_cons, unset]
    rfl
  have refuses : encoder.encode [1, 2, 3] = (.error (.messageTooLarge 3), encoder) :=
    ((serves before).large [1, 2, 3] (by rw [set]; decide)).1
  refine ⟨Suite.standard_sealing, refuses, (steady.within before (.encode [1, 2, 3]) [.encode [6]] ?_).2⟩
  change refused (_, (encoder.encode [1, 2, 3]).1) = true
  rw [refuses]
  rfl

end NoiseLink
