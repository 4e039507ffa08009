import NoiseLink.Proofs.ActScripts
import NoiseLink.Proofs.DecoderRests

namespace NoiseLink

variable {S : Suite} {α β : Type}

def Sized (x : Except NoiseError α) : Prop := ∀ n m, x ≠ .error (.invalidMessageLength n m)

theorem Sized.ok (a : α) : Sized (.ok a) := by
  rintro n m ⟨⟩

theorem Sized.error {e : NoiseError} (other : ∀ n m, e ≠ .invalidMessageLength n m) :
    Sized (.error e : Except NoiseError α) := by
  rintro n m ⟨⟩
  exact other n m rfl

theorem Sized.cast {e : NoiseError} (h : Sized (.error e : Except NoiseError α)) :
    Sized (.error e : Except NoiseError β) :=
  .error fun n m same => h n m (congrArg _ same)

theorem Sized.bind {x : Except NoiseError α} {f : α → Except NoiseError β} (hx : Sized x) (hf : ∀ a, Sized (f a)) :
    Sized (x >>= f) := by
  cases x with
  | error e => exact hx.cast
  | ok a => exact hf a

theorem sized_checkAct {m : Bytes} {size : Nat} (h : m.length = size) (act : Act) : Sized (checkAct m size act) := by
  rw [checkAct, if_neg (not_not_intro h)]
  split
  · exact .ok ()
  · exact .error (by simp)

theorem Party.sized_parsePoint (act : Act) (b : Bytes) : Sized (parsePoint S act b) := by
  rw [parsePoint]
  split
  · exact .ok _
  · exact .error (by simp)

namespace KeyState

variable (k : KeyState S) (ad : Bytes)

theorem sized_encrypt (text : Bytes) : Sized (k.encrypt ad text) := by
  rw [encrypt]
  split
  · exact .error (by simp)
  · split <;> exact .ok _

theorem sized_decrypt (sealed : Bytes) : Sized (k.decrypt ad sealed) := by
  rw [decrypt]
  split
  · exact .error (by simp)
  · split
    · split
      · exact .ok _
      · exact .error (by simp)
    · exact .ok _

end KeyState

namespace Symmetric

variable (s : Symmetric S)

theorem sized_encryptAndHash (text : Bytes) : Sized (s.encryptAndHash text) := by
  rw [encryptAndHash]
  split
  · exact (s.keys.sized_encrypt _ text).bind fun r => .ok _
  · exact .ok _

theorem sized_decryptAndHash (sealed : Bytes) : Sized (s.decryptAndHash sealed) := by
  rw [decryptAndHash]
  split
  · exact (s.keys.sized_decrypt _ sealed).bind fun r => .ok _
  · exact .ok _

theorem sized_openIn (stage : Stage) (sealed : Bytes) : Sized (s.openIn stage sealed) := by
  have sized := s.sized_decryptAndHash sealed
  rw [openIn]
  generalize s.decryptAndHash sealed = x at sized
  cases x with
  | ok r => exact .ok r
  | error e =>
      cases e with
      | invalidMessageLength n m => exact absurd rfl (sized n m)
      | _ => exact .error (by simp [NoiseError.inStage])

end Symmetric

section Acts

variable {m : Bytes}

theorem Initiator.sized_actThree (i : Initiator S) (h : m.length = actTwoSize) : Sized (i.actThree m) := by
  refine (sized_checkAct h _).bind fun _ => (Party.sized_parsePoint _ _).bind fun re => ?_
  refine (Symmetric.sized_openIn _ _ _).bind fun opened => (Symmetric.sized_encryptAndHash _ _).bind fun static => ?_
  exact (Symmetric.sized_encryptAndHash _ _).bind fun tag => .ok _

theorem Responder.sized_actTwo (r : Responder S) (h : m.length = actOneSize) : Sized (r.actTwo m) := by
  refine (sized_checkAct h _).bind fun _ => (Party.sized_parsePoint _ _).bind fun re => ?_
  exact (Symmetric.sized_openIn _ _ _).bind fun opened => (Symmetric.sized_encryptAndHash _ _).bind fun tag => .ok _

theorem Responder.sized_openActThree (r : Responder S) (h : m.length = actThreeSize) : Sized (r.openActThree m) := by
  refine (sized_checkAct h _).bind fun _ => (Symmetric.sized_openIn _ _ _).bind fun static => ?_
  exact (Party.sized_parsePoint _ _).bind fun rs => (Symmetric.sized_openIn _ _ _).bind fun opened => .ok _

end Acts

namespace Role

theorem Listens.sized_hear {role : Role S} {n : Nat} (h : role.Listens n) {act : Bytes} (size : act.length = n) :
    Sized (role.hear act) := by
  cases h with
  | @initiator i turn =>
      have sized := i.sized_actThree size
      simp only [Role.hear, Initiator.receiveActTwo, turn, Progress.expect_self]
      generalize i.actThree act = x at sized
      cases x with
      | ok a => exact .ok _
      | error e => exact sized.cast
  | @first r turn =>
      have sized := r.sized_actTwo size
      simp only [hear_first turn, Responder.receiveActOne, turn, Progress.expect_self]
      generalize r.actTwo act = x at sized
      cases x with
      | ok a => exact .ok _
      | error e => exact sized.cast
  | @last r turn keyed =>
      have sized := r.sized_openActThree size
      simp only [hear_last turn, Responder.receiveActThree, turn, Progress.expect_self]
      generalize r.openActThree act = x at sized
      cases x with
      | ok a => exact .ok _
      | error e => exact sized.cast

/-- An act that is rejected has the size that was awaited, so that it is its contents that are no good. -/
theorem Listens.isAuthenticationFailure {role : Role S} {act : Bytes} (h : role.Listens act.length) {e : NoiseError}
    (bad : role.hear act = .error e) : e.isAuthenticationFailure = true := by
  have sized := h.sized_hear rfl
  rw [bad] at sized
  cases (h.hear act).rejection bad with
  | length n m => exact absurd rfl (sized n m)
  | version | point | tag => rfl

theorem Meets.append {role : Role S} {script written rest : Bytes} {remote : S.Point} {outward inward : Epoch S}
    (h : role.Meets script written (.done remote outward inward rest)) (more : Bytes) :
    role.Meets (script ++ more) written (.done remote outward inward (rest ++ more)) := by
  generalize same : Meeting.done remote outward inward rest = meeting at h
  induction h with
  | between | inside | rejected => cases same
  | answered awaits good later ih =>
      rw [List.append_assoc]
      exact .answered awaits good (ih same)
  | completed awaits good rest' =>
      cases same
      rw [List.append_assoc]
      exact .completed awaits good _

theorem Faces.append {role : Role S} {script written rest : Bytes} {remote : S.Point} {outward inward : Epoch S}
    (h : role.Faces script written (.done remote outward inward rest)) (more : Bytes) :
    role.Faces (script ++ more) written (.done remote outward inward (rest ++ more)) := by
  obtain ⟨answers, meets, rfl⟩ := h
  exact ⟨answers, meets.append more, rfl⟩

end Role

namespace Epoch

variable {e : Epoch S}

theorem Stops.append {t : Nat} {rest : Bytes} {err : NoiseError} (h : e.Stops t rest (.rejected err)) (more : Bytes) :
    e.Stops t (rest ++ more) (.rejected err) := by
  cases h with
  | badHeader size forged =>
      rw [List.append_assoc]
      exact .badHeader size forged
  | badBody size length fits forged =>
      rw [List.append_assoc, List.append_assoc]
      exact .badBody size length fits forged

theorem Stops.isAuthenticationFailure {t : Nat} {rest : Bytes} {err : NoiseError} (h : e.Stops t rest (.rejected err)) :
    err.isAuthenticationFailure = true := by
  cases h <;> rfl

theorem Holds.append {t : Nat} {script rest : Bytes} {records payloads : List Bytes} {err : NoiseError}
    (h : e.Holds t script records payloads rest (.rejected err)) (more : Bytes) :
    e.Holds t (script ++ more) records payloads (rest ++ more) (.rejected err) :=
  ⟨by rw [h.whole, List.append_assoc], h.opens, h.stops.append more⟩

/-- A header or a body that does not open, behind the records that were returned. -/
def Broken (e : Epoch S) (bytes : Bytes) (err : NoiseError) : Prop :=
  ∃ records payloads tail, e.Holds 0 bytes records payloads tail (.rejected err)

theorem Broken.append {bytes : Bytes} {err : NoiseError} (h : e.Broken bytes err) (more : Bytes) :
    e.Broken (bytes ++ more) err := by
  obtain ⟨records, payloads, tail, holds⟩ := h
  exact ⟨records, payloads, tail ++ more, holds.append more⟩

theorem Broken.isAuthenticationFailure {bytes : Bytes} {err : NoiseError} (h : e.Broken bytes err) :
    err.isAuthenticationFailure = true := by
  obtain ⟨records, payloads, tail, holds⟩ := h
  exact holds.stops.isAuthenticationFailure

theorem Reached.broken_body {bytes header text part : Bytes} {records payloads : List Bytes}
    (whole : bytes = records.flatten ++ (header ++ part)) (opens : e.Opens 0 records payloads)
    (size : header.length = headerSize) (told : e.unsealedAt (2 * records.length) header = some text) {err : LinkError}
    (fatal : err.isFatal = true) {d' : Decoder S} {uses : List (Use S)}
    (poll : e.PollBody (2 * records.length + 1) (Bytes.toNatBE text) part (.error err, d') uses) :
    ∃ bad, err = .noise bad ∧ e.Broken bytes bad := by
  cases poll with
  | await => cases fatal
  | bad fits forged =>
      refine ⟨_, rfl, records, payloads, _, whole, opens, ?_⟩
      rw [Nat.zero_add]
      exact .badBody size told fits forged

theorem Reached.broken {bytes : Bytes} {payloads : List Bytes} {d d' : Decoder S} {err : LinkError}
    (h : e.Reached bytes payloads d) (failed : d.next = (.error err, d')) (fatal : err.isFatal = true) :
    ∃ bad, err = .noise bad ∧ e.Broken bytes bad := by
  cases h with
  | @within records header text part whole opens size told =>
      have poll := e.pollBody (2 * records.length + 1) (Bytes.toNatBE text) part
      rw [failed] at poll
      exact broken_body whole opens size told fatal poll
  | @between records rest whole opens =>
      have poll := e.pollHeader (2 * records.length) rest
      rw [failed] at poll
      generalize (e.between (2 * records.length) rest).uses = uses at poll
      cases poll with
      | await => cases fatal
      | header size told body => exact broken_body whole opens size told fatal body
      | bad size forged =>
          refine ⟨_, rfl, records, payloads, _, whole, opens, ?_⟩
          rw [Nat.zero_add]
          exact .badHeader size forged

end Epoch

def Role.Rejects (role : Role S) (script : Bytes) (e : NoiseError) : Prop :=
  ∃ written, role.Faces script written (.halted (.rejected e))

def Role.Forged (role : Role S) (script : Bytes) (e : NoiseError) : Prop :=
  ∃ written remote outward inward rest,
    role.Faces script written (.done remote outward inward rest) ∧ inward.Broken rest e

section Forged

variable {role : Role S} {script : Bytes} {e : NoiseError}

theorem Role.Forged.append (h : role.Forged script e) (more : Bytes) : role.Forged (script ++ more) e := by
  obtain ⟨written, remote, outward, inward, rest, faces, broken⟩ := h
  exact ⟨written, remote, outward, inward, rest ++ more, faces.append more, broken.append more⟩

theorem Role.Forged.isAuthenticationFailure (h : role.Forged script e) : e.isAuthenticationFailure = true := by
  obtain ⟨written, remote, outward, inward, rest, faces, broken⟩ := h
  exact broken.isAuthenticationFailure

end Forged

end NoiseLink
