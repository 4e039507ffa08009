import NoiseLink.Proofs.EndOfInput
import NoiseLink.Proofs.ErrorPhases

namespace NoiseLink.Link

variable {S : Suite}

def Dry (l : Link S) : Prop :=
  (∃ n, l.call (.feedHandshake []) = (.ok (.step (.needMore n)), l)) ∨ l.call .next = (.ok (.payload none), l)

theorem dry_handshaking_iff {role : Role S} {n : Nat} (awaits : role.expectedSize = some n) (bytes : Bytes)
    (remote : Option S.Point) (limit : Nat) : (handshaking role bytes remote limit).Dry ↔ bytes.length < n := by
  constructor
  · rintro (⟨m, asked⟩ | asked)
    · by_contra whole
      have enough : n ≤ (bytes ++ []).length := by
        rw [List.append_nil]
        exact Nat.le_of_not_lt whole
      obtain ⟨act, rest, split, size⟩ := exists_append_of_le enough
      have answered := congrArg Prod.fst asked
      simp only [call, feedHandshake_whole awaits remote limit split size] at answered
      cases received : ((handshaking role rest remote limit).receiveAct n act role).1 with
      | error e =>
          rw [received] at answered
          cases answered
      | ok step =>
          rw [received] at answered
          cases answered
          exact receiveAct_ne_needMore _ _ _ _ m received
    · cases congrArg Prod.fst asked
  · intro short
    have short' : (bytes ++ []).length < n := by
      rw [List.append_nil]
      exact short
    refine .inl ⟨n - bytes.length, ?_⟩
    simp only [call, feedHandshake_short awaits remote limit short', List.append_nil]
    rfl

theorem Deaf.not_dry {l : Link S} (deaf : l.Deaf) : ¬l.Dry := by
  rintro (⟨n, asked⟩ | asked)
  · have aborted := (deaf.call (c := .feedHandshake []) nofun).1 [] rfl
    cases aborted.symm.trans (congrArg Prod.fst asked)
  · have refused := call_of_phase_ne (c := .next) rfl (by rw [deaf.phase]; decide)
    cases refused.symm.trans asked

theorem short_of_dry {encoder : Encoder S} {decoder : Decoder S} {buffer : Bytes} {remote : Option S.Point} {limit : Nat}
    (dry : (⟨.established encoder decoder, buffer, remote, limit⟩ : Link S).Dry) : decoder.Short := by
  rcases dry with ⟨n, asked⟩ | asked
  · cases congrArg Prod.fst asked
  · simp only [call, next] at asked
    obtain ⟨p, d, found⟩ | ⟨n, d, found⟩ | ⟨err, d, fatal, found⟩ := decoder.next_cases
    · rw [found] at asked
      cases congrArg Prod.fst asked
    · rw [found] at asked
      cases congrArg Prod.snd asked
      exact (Decoder.Read.of_next found).short rfl
    · rw [found] at asked
      cases err with
      | missingBytes => cases fatal
      | noise | truncatedRecord | unexpectedState | messageTooLarge => cases congrArg Prod.fst asked

theorem dry_of_missing {encoder : Encoder S} {decoder : Decoder S} {n : Nat}
    (found : decoder.next = (.error (.missingBytes n), decoder)) (buffer : Bytes) (remote : Option S.Point) (limit : Nat) :
    (⟨.established encoder decoder, buffer, remote, limit⟩ : Link S).Dry := by
  refine .inr ?_
  simp only [call, next, found]
  rfl

/-- What is left of the bytes that have come, and the size of which it is told to be a part. -/
inductive Left (K : Epoch S → Prop) (t : List (Event S)) (l : Link S) : Bytes → Nat → Prop
  | act {role : Role S} {n : Nat} (here : l.state = .handshake role) (awaits : role.expectedSize = some n) :
      Left K t l (arrived t) n
  | failed {role : Role S} (here : l.state = .handshake role) (deaf : role.expectedSize = none) : Left K t l l.buffer 0
  /-- The size of the record is not looked at before its header is opened. -/
  | header {e : Epoch S} {records : List Bytes} {rest : Bytes} (here : l.phase = .established) (keyed : K e)
      (whole : arrived t = records.flatten ++ rest) (opens : e.Opens 0 records (returned t)) : Left K t l rest 18
  | body {e : Epoch S} {records : List Bytes} {header text part : Bytes} (here : l.phase = .established) (keyed : K e)
      (whole : arrived t = records.flatten ++ (header ++ part)) (opens : e.Opens 0 records (returned t))
      (size : header.length = 18) (told : e.unsealedAt (2 * records.length) header = some text) :
      Left K t l (header ++ part) (18 + Bytes.toNatBE text + 16)

/-- A truncation that is reported, by what is left. It is a part of what it is told to be only if the link is dry. -/
structure Reported (K : Epoch S → Prop) (t : List (Event S)) (l : Link S) (rest : Bytes) (expected : Nat) : Prop where
  left : l.Left K t rest expected
  some : rest ≠ []
  part : rest.length < expected ↔ l.Dry

section Reports

variable {K : Epoch S → Prop} {t : List (Event S)} {l : Link S} {err : LinkError}

theorem finish_of_deaf (deaf : l.Deaf) :
    l.finish = if l.buffer = [] then .ok () else .error (.truncatedRecord 0 l.buffer.length) := by
  obtain ⟨role, here, none⟩ := deaf
  rw [finish, here]
  simp only [none]
  rfl

theorem Deaf.reported (deaf : l.Deaf) (cut : l.finish = .error err) :
    ∃ rest expected, err = .truncatedRecord expected rest.length ∧ l.Reported K t rest expected := by
  rw [finish_of_deaf deaf] at cut
  split at cut
  · cases cut
  · rename_i some
    cases cut
    obtain ⟨role, here, none⟩ := deaf
    exact ⟨l.buffer, 0, rfl, .failed here none, some, iff_of_false (Nat.not_lt_zero _) (Deaf.not_dry ⟨role, here, none⟩)⟩

theorem reported_handshaking {role : Role S} {n : Nat} (awaits : role.expectedSize = some n) {bytes : Bytes}
    (came : Came t bytes) {remote : Option S.Point} {limit : Nat}
    (cut : (handshaking role bytes remote limit).finish = .error err) :
    ∃ rest expected, err = .truncatedRecord expected rest.length ∧
      (handshaking role bytes remote limit).Reported K t rest expected := by
  have judged : (handshaking role bytes remote limit).finish =
      if bytes = [] then .ok () else .error (.truncatedRecord n bytes.length) := by
    simp only [handshaking, finish, awaits]
    rfl
  rw [judged] at cut
  split at cut
  · cases cut
  · rename_i some
    cases cut
    refine ⟨bytes, n, rfl, ?_, some, (dry_handshaking_iff awaits bytes remote limit).symm⟩
    rw [← came.arrived_eq]
    exact .act rfl awaits

theorem reported_established {e : Epoch S} (keyed : K e) {bytes : Bytes} (came : Came t bytes) {decoder : Decoder S}
    (reached : e.Reached bytes (returned t) decoder) {encoder : Encoder S} {remote : Option S.Point} {limit : Nat}
    (cut : (⟨.established encoder decoder, [], remote, limit⟩ : Link S).finish = .error err) :
    ∃ rest expected, err = .truncatedRecord expected rest.length ∧
      (⟨.established encoder decoder, [], remote, limit⟩ : Link S).Reported K t rest expected := by
  have same := came.arrived_eq
  cases reached with
  | @between records rest whole opens =>
      have some : rest ≠ [] := by
        rintro rfl
        cases cut
      cases (e.finish_between _ some).symm.trans cut
      refine ⟨rest, 18, rfl, .header rfl keyed (same.trans whole) opens, some, fun short => ?_, short_of_dry⟩
      exact dry_of_missing (e.next_between_of_lt _ short) _ _ _
  | @within records header text part whole opens size told =>
      cases cut
      have length : (header ++ part).length = 18 + part.length := by
        rw [List.length_append, size]
        rfl
      have some : header ++ part ≠ [] := List.ne_nil_of_length_pos (by omega)
      refine ⟨header ++ part, 18 + Bytes.toNatBE text + 16, ?_,
        .body rfl keyed (same.trans whole) opens size told, some, fun short => ?_, fun dry => ?_⟩
      · rw [length]
        rfl
      · have less : part.length < Bytes.toNatBE text + macSize := by
          rw [macSize]
          omega
        exact dry_of_missing (e.next_within_of_lt _ _ less) _ _ _
      · have less : part.length < Bytes.toNatBE text + macSize := short_of_dry dry
        rw [macSize] at less
        omega

theorem Tracked.reported (h : Tracked K t l) (cut : l.finish = .error err) :
    ∃ rest expected, err = .truncatedRecord expected rest.length ∧ l.Reported K t rest expected := by
  cases h with
  | fresh => cases cut
  | deaf deaf => exact deaf.reported cut
  | established keyed came reached => exact reported_established keyed came reached cut
  | closed closed =>
      obtain ⟨state, buffer, remote, limit⟩ := l
      cases state with
      | fresh | handshake | established => cases closed
      | closed => cases cut
  | awaiting came silent role remote limit =>
      cases awaits : role.expectedSize with
      | none => exact Deaf.reported ⟨role, rfl, awaits⟩ cut
      | some n => exact reported_handshaking awaits came cut

end Reports

def heard : Call S → Bytes
  | .feedHandshake b => b
  | _ => []

theorem Deaf.buffer_call {l : Link S} (deaf : l.Deaf) {c : Call S} (goes : c ≠ .close) :
    (l.call c).2.buffer = l.buffer ++ heard c := by
  cases c with
  | close => exact absurd rfl goes
  | withLimit | finish => exact (List.append_nil _).symm
  | feedHandshake b =>
      obtain ⟨role, here, none⟩ := deaf
      change (l.feedHandshake b).2.buffer = l.buffer ++ b
      simp only [Link.feedHandshake, here, none]
  | start | encrypt | feed | next | split =>
      rw [call_of_phase_ne rfl (by rw [deaf.phase]; decide)]
      exact (List.append_nil _).symm

theorem Deaf.buffer_run {l : Link S} (deaf : l.Deaf) {later : List (Call S)} (goes : .close ∉ later) :
    (Calls.run Link.call l later).Deaf ∧ (Calls.run Link.call l later).buffer = l.buffer ++ later.flatMap heard := by
  induction later generalizing l with
  | nil => exact ⟨deaf, (List.append_nil _).symm⟩
  | cons c later ih =>
      obtain ⟨other, rest⟩ := not_or.1 (mt List.mem_cons.2 goes)
      obtain ⟨last, kept⟩ := ih (deaf.call (Ne.symm other)).2 rest
      rw [deaf.buffer_call (Ne.symm other), List.append_assoc] at kept
      exact ⟨last, kept⟩

theorem buffer_of_rejected {role : Role S} {n : Nat} (awaits : role.expectedSize = some n) (bytes b : Bytes)
    (remote : Option S.Point) (limit : Nat) {err : LinkError}
    (rejected : ((handshaking role bytes remote limit).feedHandshake b).1 = .error err) :
    ((handshaking role bytes remote limit).feedHandshake b).2.buffer = (bytes ++ b).drop n := by
  by_cases short : (bytes ++ b).length < n
  · rw [feedHandshake_short awaits remote limit short] at rejected
    cases rejected
  · obtain ⟨act, rest, whole, size⟩ := exists_append_of_le (Nat.le_of_not_lt short)
    have still : ((handshaking role bytes remote limit).feedHandshake b).2.Deaf := by
      apply deaf_of_failed (e := err) rfl
      simp only [call, rejected]
      rfl
    obtain ⟨last, here, -⟩ := still
    rw [feedHandshake_whole awaits remote limit whole size] at here ⊢
    have kept := held_receiveAct (l := handshaking role rest remote limit) n act role
    simp only [held, here] at kept
    rw [kept, whole, ← size, List.drop_left]
    rfl

/-- Once an act is rejected, all that has come behind it counts as a truncated record of no bytes. -/
theorem Tracked.finish_of_rejected {K : Epoch S → Prop} {t : List (Event S)} {l : Link S} (h : Tracked K t l) {b : Bytes}
    {role : Role S} {n : Nat} {err : LinkError} (here : l.state = .handshake role) (awaits : role.expectedSize = some n)
    (rejected : (l.call (.feedHandshake b)).1 = .error err) {later : List (Call S)} (goes : .close ∉ later) :
    (Calls.run Link.call (l.call (.feedHandshake b)).2 later).finish =
      if (arrived t ++ b).drop n ++ later.flatMap heard = [] then .ok ()
      else .error (.truncatedRecord 0 ((arrived t ++ b).drop n ++ later.flatMap heard).length) := by
  obtain ⟨deaf, kept⟩ := (deaf_of_failed (phase_of_handshake here) rejected).buffer_run goes
  rw [finish_of_deaf deaf, kept]
  suffices first : (l.call (.feedHandshake b)).2.buffer = (arrived t ++ b).drop n by rw [first]
  cases h with
  | fresh | established => cases here
  | closed closed => cases closed.symm.trans (phase_of_handshake here)
  | deaf deaf =>
      obtain ⟨role', here', none⟩ := deaf
      obtain rfl : role' = role := by
        cases here'.symm.trans here
        rfl
      cases none.symm.trans awaits
  | @awaiting bytes came silent role' remote limit =>
      obtain rfl : role' = role := by
        cases here
        rfl
      rw [came.arrived_eq]
      exact buffer_of_rejected awaits bytes b remote limit (LinkError.error_of_map rejected)

/-- A truncation that is reported is one exactly if the link has made all it can of the bytes that have come. What comes
behind an act that is rejected is always reported, as if it were part of a record of no bytes. -/
theorem truncations_judged (calls : List (Call S)) :
    (∀ err, (Calls.run call new calls).finish = .error err → ∃ rest expected, err = .truncatedRecord expected rest.length ∧
      (Calls.run call new calls).Reported (Keyed calls) (Calls.answers call new calls) rest expected) ∧
    ∀ b role n err later, (Calls.run call new calls).state = .handshake role → role.expectedSize = some n →
      ((Calls.run call new calls).call (.feedHandshake b)).1 = .error err → .close ∉ later →
      let rest := (arrived (Calls.answers call new calls) ++ b).drop n ++ later.flatMap heard
      (Calls.run call new (calls ++ .feedHandshake b :: later)).finish =
        if rest = [] then .ok () else .error (.truncatedRecord 0 rest.length) := by
  refine ⟨fun err => (tracked_run calls).reported, fun b role n err later here awaits rejected goes => ?_⟩
  rw [Calls.run_append]
  exact (tracked_run calls).finish_of_rejected here awaits rejected goes

theorem truncations_judged_responder :
    let first : List (Call .standard) := [.start (.responder Secrets.vectors.responderSide)]
    let short := first ++ [.feedHandshake (Bytes.zeros 10)]
    (Calls.run call new short).finish = .error (.truncatedRecord 50 10) ∧
      (∃ rest expected, LinkError.truncatedRecord 50 10 = .truncatedRecord expected rest.length ∧
        (Calls.run call new short).Reported (Keyed short) (Calls.answers call new short) rest expected) ∧
      ((Calls.run call new first).call (.feedHandshake (1 :: Bytes.zeros 50))).1 =
        .error (.noise (.unsupportedVersion .one 1)) ∧
      (Calls.run call new (first ++ [.feedHandshake (1 :: Bytes.zeros 50), .finish])).finish =
        .error (.truncatedRecord 0 1) := by
  intro first short
  have cut : (Calls.run call new short).finish = .error (.truncatedRecord 50 10) := rfl
  have here : (Calls.run call new first).state = .handshake (.responder Secrets.vectors.responderSide) := rfl
  have awaits : (Role.responder Secrets.vectors.responderSide).expectedSize = some 50 := rfl
  have rejected : ((Calls.run call new first).call (.feedHandshake (1 :: Bytes.zeros 50))).1 =
      .error (.noise (.unsupportedVersion .one 1)) := rfl
  exact ⟨cut, (truncations_judged short).1 _ cut, rejected,
    (truncations_judged first).2 _ _ _ _ [.finish] here awaits rejected (by simp)⟩

section Unread

variable (k : Secrets S) (lawful : S.Lawful) (limit : Nat) {p : Bytes}
include lawful

/-- A record that is whole is not told from a header that is cut off. -/
theorem finish_record : (ready (k.outward.sealer 0) (k.inward.between 0 (k.inward.header 0 p ++ k.inward.body 0 p))
    (S.publicKey k.responder) limit).finish = .error (.truncatedRecord 18 (18 + (p.length + 16))) := by
  have size : (k.inward.header 0 p ++ k.inward.body 0 p).length = 18 + (p.length + 16) := by
    rw [List.length_append, k.inward.length_header lawful.toSealing, k.inward.length_body lawful.toSealing]
    rfl
  have some : k.inward.header 0 p ++ k.inward.body 0 p ≠ [] := List.ne_nil_of_length_pos (by omega)
  rw [← size]
  exact k.inward.finish_between 0 some

theorem next_record (fits : p.length ≤ maxMessageSize) :
    ((ready (k.outward.sealer 0) (k.inward.between 0 (k.inward.header 0 p ++ k.inward.body 0 p))
      (S.publicKey k.responder) limit).call .next).1 = .ok (.payload (some p)) := by
  have opened := Epoch.next_header (e := k.inward) lawful.toSealing 0 fits (k.inward.body 0 p ++ [])
  rw [k.inward.next_body lawful.toSealing, List.append_nil] at opened
  simp only [call, next, ready, opened]
  rfl

end Unread

/-- A handshake that has failed is reported as truncated, and so is a record that is whole. -/
theorem nothing_cut_reported_truncated :
    let k := Secrets.vectors
    let failing : List (Call .standard) := [.start (.responder k.responderSide), .feedHandshake (1 :: Bytes.zeros 50)]
    let record := k.inward.header 0 [1] ++ k.inward.body 0 [1]
    let unread : List (Call .standard) :=
      [.withLimit 100, .start (.initiator k.initiatorSide), .feedHandshake (k.transcript.actTwo ++ record)]
    ((Calls.run call new [.start (.responder k.responderSide)]).call (.feedHandshake (1 :: Bytes.zeros 50))).1 =
        .error (.noise (.unsupportedVersion .one 1)) ∧
      (Calls.run call new failing).finish = .error (.truncatedRecord 0 1) ∧ ¬1 < 0 ∧
      (Calls.run call new unread).finish = .error (.truncatedRecord 18 35) ∧ ¬35 < 18 ∧
      ((Calls.run call new unread).call .next).1 = .ok (.payload (some [1])) := by
  intro k failing record unread
  have heard : Calls.run call new unread = _ := run_behind_actTwo k Suite.standard_lawful 100 record
  refine ⟨rfl, rfl, by decide, ?_, by decide, ?_⟩
  · rw [heard]
    exact finish_record k Suite.standard_lawful _
  · rw [heard]
    exact next_record k Suite.standard_lawful _ (by decide)

end NoiseLink.Link
