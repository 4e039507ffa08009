import NoiseLink.Proofs.EndOfInput
import NoiseLink.Proofs.RefusedSends

namespace NoiseLink

variable {S : Suite}

def Encoder.Accepts (encoder : Encoder S) (p : Bytes) : Prop := ∃ record, (encoder.encode p).1 = .ok record

theorem Encoder.accepts_iff {encoder : Encoder S} (fits : encoder.limit ≤ maxMessageSize) {e : Epoch S} {i : Nat}
    (live : encoder.sealer = e.sealer i) (p : Bytes) : encoder.Accepts p ↔ p.length ≤ encoder.limit := by
  obtain ⟨sealer, limit⟩ := encoder
  cases live
  constructor
  · rintro ⟨record, encoded⟩
    by_contra large
    have refused : ((⟨e.sealer i, limit⟩ : Encoder S).encode p).1 = .error (.messageTooLarge p.length) := by
      rw [encode, if_pos (Nat.lt_of_not_le large)]
    cases refused.symm.trans encoded
  · intro small
    exact ⟨_, congrArg Prod.fst (e.encode_sealer i fits small)⟩

namespace Link

open Sending (inForce inForce_le)

def Accepts (l : Link S) (p : Bytes) : Prop := ∃ record, (l.encrypt p).1 = .ok record

theorem accepts_iff_encoder {l : Link S} {encoder : Encoder S} {decoder : Decoder S}
    (here : l.state = .established encoder decoder) (p : Bytes) : l.Accepts p ↔ encoder.Accepts p := by
  simp only [Accepts, Encoder.Accepts, encrypt, here]

structure Limited (size : Nat) (l : Link S) : Prop where
  past : Phase.established.rank ≤ l.phase.rank
  limit : ∀ encoder decoder, l.state = .established encoder decoder → encoder.limit = size

theorem Limited.call {size : Nat} {l : Link S} (h : l.Limited size) (c : Call S) : (l.call c).2.Limited size := by
  refine ⟨h.past.trans (move l c).rank_le, fun encoder decoder ready => ?_⟩
  have holds := holds c ready
  generalize answered : (l.call c).1 = answer at holds
  cases holds with
  | kept here => exact h.limit encoder _ here
  | @asked encoder decoder here p => exact (encoder.limit_encode p).trans (h.limit encoder decoder here)
  | made fresh b reply =>
      -- only a handshake that still goes on becomes ready
      have past := h.past
      rcases l.refused_or_here (.feedHandshake b) with refused | here
      · rw [refused] at answered
        cases answered
      · rw [here _ rfl] at past
        exact absurd past (by decide)

theorem Limited.run {size : Nat} {l : Link S} (h : l.Limited size) (calls : List (Call S)) :
    (Calls.run Link.call l calls).Limited size := by
  have kept := Calls.preserved Link.call calls (Limited size) (fun _ _ => True) (fun _ h c _ => ⟨trivial, h.call c⟩) h
  exact kept.2

theorem feedHandshake_of_call {l : Link S} {b : Bytes} {step : HandshakeStep}
    (h : (l.call (.feedHandshake b)).1 = .ok (.step step)) : (l.feedHandshake b).1 = .ok step := by
  simp only [Link.call] at h
  cases answered : (l.feedHandshake b).1 with
  | error e =>
      rw [answered] at h
      cases h
  | ok step =>
      rw [answered] at h
      cases h
      rfl

theorem limited_of_ready {l : Link S} {b : Bytes} {reply : Option Bytes}
    (ready : (l.call (.feedHandshake b)).1 = .ok (.step (.ready reply))) :
    (l.call (.feedHandshake b)).2.Limited (min l.limit maxMessageSize) := by
  obtain ⟨encoder, decoder, parted, set⟩ := limit_of_ready (feedHandshake_of_call ready)
  have here : (l.call (.feedHandshake b)).2.state = .established encoder decoder := split_eq_ok_iff.1 parted
  refine ⟨(congrArg Phase.rank (phase_of_established here)).ge, fun encoder' decoder' here' => ?_⟩
  cases here.symm.trans here'
  exact set

/-- What a link that is ready takes, and its sending half with it. -/
structure TakesUpTo (l : Link S) (size : Nat) : Prop where
  link : ∀ p, l.Accepts p ↔ p.length ≤ size
  split : ∀ encoder decoder, l.split = .ok (encoder, decoder) → ∀ p, encoder.Accepts p ↔ p.length ≤ size

theorem takesUpTo_of_limited {calls : List (Call S)} {size : Nat} (limited : (Calls.run call new calls).Limited size)
    (ready : (Calls.run call new calls).isReady = true) : (Calls.run call new calls).TakesUpTo size := by
  have armed := armed_run calls
  generalize Calls.run call new calls = l at armed limited ready ⊢
  obtain ⟨encoder, decoder, here⟩ := exists_of_established ((isReady_iff l).1 ready)
  obtain ⟨⟨e, i, live⟩, limits, -, set⟩ := armed.encoder encoder decoder here
  have fits : encoder.limit ≤ maxMessageSize := set ▸ inForce_le limits
  have takes := limited.limit encoder decoder here ▸ encoder.accepts_iff fits live
  refine ⟨fun p => (accepts_iff_encoder here p).trans (takes p), fun encoder' decoder' parted => ?_⟩
  cases (split_eq_ok_iff.1 parted).symm.trans here
  exact takes

/-- No payload tells two limits apart only if they are the same. -/
theorem TakesUpTo.unique {l : Link S} {size size' : Nat} (h : l.TakesUpTo size) (h' : l.TakesUpTo size') :
    size = size' := by
  have least := (h.link _).symm.trans (h'.link (Bytes.zeros size))
  have least' := (h.link _).symm.trans (h'.link (Bytes.zeros size'))
  rw [Bytes.length_zeros] at least least'
  omega

/-- The limit in force when the handshake is complete is kept to from then on. The last one of all that are set is, only
if it is the same. -/
theorem limit_kept_since_ready (first : List (Call S)) (b : Bytes) (reply : Option Bytes) (later : List (Call S))
    (done : ((Calls.run call new first).call (.feedHandshake b)).1 = .ok (.step (.ready reply))) :
    let calls := first ++ .feedHandshake b :: later
    (Calls.run call new calls).isReady = true →
      (Calls.run call new calls).TakesUpTo (inForce (first.filterMap Call.limit?)) ∧
      ((Calls.run call new calls).TakesUpTo (inForce (calls.filterMap Call.limit?)) ↔
        inForce (calls.filterMap Call.limit?) = inForce (first.filterMap Call.limit?)) := by
  intro calls ready
  have limited := limited_of_ready done
  rw [(armed_run first).limit, Nat.min_eq_left (inForce_le _)] at limited
  have whole : Calls.run call new calls = _ := Calls.run_append call new first (.feedHandshake b :: later)
  have takes : (Calls.run call new calls).TakesUpTo (inForce (first.filterMap Call.limit?)) := by
    refine takesUpTo_of_limited ?_ ready
    rw [whole]
    exact limited.run later
  refine ⟨takes, fun takes' => takes'.unique takes, fun same => ?_⟩
  rw [same]
  exact takes

section ActTwo

variable (k : Secrets S) (lawful : S.Lawful) (limit : Nat)
include lawful

theorem ready_of_actTwo :
    ((Calls.run call new [.withLimit limit, .start (.initiator k.initiatorSide)]).call
      (.feedHandshake k.transcript.actTwo)).1 =
        .ok (.step (.ready (some (k.transcript.actThree k.static k.se)))) := by
  have awaits : (Role.initiator k.initiatorAwaiting).expectedSize = some actTwoSize := rfl
  have whole : [] ++ k.transcript.actTwo = k.transcript.actTwo ++ [] := (List.append_nil _).symm
  have started := start_awaitingActTwo k limit
  simp only [Calls.run, List.foldl_cons, List.foldl_nil, call, started]
  rw [awaitingActTwo, feedHandshake_whole awaits _ _ whole (k.length_actTwo lawful)]
  simp only [receiveAct, k.receiveActTwo lawful]
  rfl

theorem isReady_of_actTwo (size : Nat) :
    (Calls.run call new ([.withLimit limit, .start (.initiator k.initiatorSide)] ++
      .feedHandshake k.transcript.actTwo :: [.withLimit size])).isReady = true := by
  have heard := run_behind_actTwo k lawful limit []
  rw [List.append_nil] at heard
  have whole := Calls.run_append call (new : Link S) [.withLimit limit, .start (.initiator k.initiatorSide),
    .feedHandshake k.transcript.actTwo] [.withLimit size]
  rw [heard] at whole
  exact congrArg isReady whole

end ActTwo

/-- A limit that is set when the handshake is complete comes too late. -/
theorem limit_kept_since_ready_late :
    let k := Secrets.vectors
    let first : List (Call .standard) := [.withLimit 100, .start (.initiator k.initiatorSide)]
    let calls := first ++ .feedHandshake k.transcript.actTwo :: [.withLimit 2]
    (Calls.run call new calls).isReady = true ∧ (Calls.run call new calls).TakesUpTo 100 ∧
      ¬(Calls.run call new calls).TakesUpTo 2 ∧ (Calls.run call new calls).Accepts [1, 2, 3] := by
  intro k first calls
  have ready : (Calls.run call new calls).isReady = true := isReady_of_actTwo k Suite.standard_lawful 100 2
  have done := ready_of_actTwo k Suite.standard_lawful 100
  obtain ⟨takes, last⟩ := limit_kept_since_ready first k.transcript.actTwo _ [.withLimit 2] done ready
  have other : inForce (calls.filterMap Call.limit?) ≠ inForce (first.filterMap Call.limit?) := by decide
  exact ⟨ready, takes, fun takes' => other (last.1 takes'), (takes.link _).2 (by decide)⟩

end Link
end NoiseLink
