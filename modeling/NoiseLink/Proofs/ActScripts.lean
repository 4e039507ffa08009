import NoiseLink.Proofs.ActOrder
import NoiseLink.Proofs.LinkSteps
import NoiseLink.Proofs.RecordScripts

namespace NoiseLink

variable {S : Suite}

/-- What a whole act comes to if it is good: an answer and the role that goes on, or the end of the handshake. -/
inductive Heard (S : Suite) where
  | answered (reply : Bytes) (role : Role S)
  | completed (reply : Bytes) (remote : S.Point) (session : Session S)

namespace Role

inductive Fresh : Role S → Prop
  | initiator (static ephemeral : S.Secret) (remote : S.Point) : Fresh (.initiator (.new static ephemeral remote))
  | responder (static ephemeral : S.Secret) : Fresh (.responder (.new static ephemeral))

def known : Role S → Option S.Point
  | .initiator i => some i.remote
  | .responder _ => none

def opening : Role S → Bytes × Role S
  | .initiator i => (i.sendActOne.1.toOption.getD [], .initiator i.sendActOne.2)
  | .responder r => ([], .responder r)

def hear : Role S → Bytes → Except NoiseError (Heard S)
  | .initiator i, act => (i.receiveActTwo act).1.map fun (reply, session) => .completed reply i.remote session
  | .responder r, act =>
    if r.expectedSize = some actOneSize then
      (r.receiveActOne act).1.map fun reply => .answered reply (.responder (r.receiveActOne act).2)
    else (r.receiveActThree act).1.map fun (remote, session) => .completed [] remote session

inductive Listens : Role S → Nat → Prop
  | initiator {i : Initiator S} (turn : i.party.progress = .actTwo) : Listens (.initiator i) actTwoSize
  | first {r : Responder S} (turn : r.party.progress = .actOne) : Listens (.responder r) actOneSize
  | last {r : Responder S} (turn : r.party.progress = .actThree) (keyed : r.party.sym.Keyed 1) :
      Listens (.responder r) actThreeSize

theorem Listens.awaits {role : Role S} {n : Nat} (h : role.Listens n) : role.expectedSize = some n := by
  cases h with
  | initiator turn => exact Initiator.expectedSize_eq_some_iff.2 ⟨turn, rfl⟩
  | first turn => exact Responder.expectedSize_eq_some_iff.2 (.inl ⟨turn, rfl⟩)
  | last turn => exact Responder.expectedSize_eq_some_iff.2 (.inr ⟨turn, rfl⟩)

theorem hear_first {r : Responder S} (turn : r.party.progress = .actOne) (act : Bytes) :
    (Role.responder r).hear act =
      (r.receiveActOne act).1.map fun reply => .answered reply (.responder (r.receiveActOne act).2) :=
  if_pos (Listens.awaits (.first turn))

theorem hear_last {r : Responder S} (turn : r.party.progress = .actThree) (act : Bytes) :
    (Role.responder r).hear act = (r.receiveActThree act).1.map fun (remote, session) => .completed [] remote session := by
  have awaits : r.expectedSize = some actThreeSize := Responder.expectedSize_eq_some_iff.2 (.inr ⟨turn, rfl⟩)
  have other : r.expectedSize ≠ some actOneSize := by
    rw [awaits]
    decide
  exact if_neg other

theorem Listens.pos {role : Role S} {n : Nat} (h : role.Listens n) : 0 < n := by
  cases h <;> decide

end Role

inductive Heard.Good : Heard S → Prop
  | answered {reply : Bytes} {role : Role S} (listens : role.Listens actThreeSize) : Good (.answered reply role)
  | completed {reply : Bytes} {remote : S.Point} {session : Session S} (fresh : session.Fresh) :
      Good (.completed reply remote session)

namespace Role

theorem Listens.hear {role : Role S} {n : Nat} (h : role.Listens n) (act : Bytes) : Checked Heard.Good (role.hear act) := by
  cases h with
  | @initiator i turn =>
      have checked := i.checked_actThree act
      simp only [Role.hear, Initiator.receiveActTwo, turn, Progress.expect_self]
      generalize i.actThree act = x at checked
      cases checked with
      | ok fresh => exact .ok (.completed fresh)
      | rejected rejected => exact .rejected rejected
  | @first r turn =>
      have checked := r.checked_actTwo act
      simp only [hear_first turn, Responder.receiveActOne, turn, Progress.expect_self]
      generalize r.actTwo act = x at checked
      cases checked with
      | ok keyed => exact .ok (.answered (.last rfl keyed))
      | rejected rejected => exact .rejected rejected
  | @last r turn keyed =>
      have checked := r.checked_openActThree keyed act
      simp only [hear_last turn, Responder.receiveActThree, turn, Progress.expect_self]
      generalize r.openActThree act = x at checked
      cases checked with
      | ok fresh => exact .ok (.completed fresh)
      | rejected rejected => exact .rejected rejected

theorem Fresh.listens {role : Role S} (h : role.Fresh) : ∃ n, role.opening.2.Listens n := by
  cases h with
  | initiator static ephemeral remote =>
      refine ⟨actTwoSize, .initiator ?_⟩
      rw [Initiator.sendActOne_new static ephemeral remote [] remote]
      rfl
  | responder static ephemeral => exact ⟨actOneSize, .first rfl⟩

end Role

/-- How a handshake ends: it stops, or it is done and the rest of the script is for the records. -/
inductive Meeting (S : Suite) where
  | halted (halt : Halt)
  | done (remote : S.Point) (outward inward : Epoch S) (rest : Bytes)

/-- What a role that listens writes as the script goes on, and where that leads. -/
inductive Role.Meets : Role S → (script written : Bytes) → Meeting S → Prop
  | between {role : Role S} {n : Nat} (awaits : role.expectedSize = some n) : Meets role [] [] (.halted .between)
  | inside {role : Role S} {n : Nat} {part : Bytes} (awaits : role.expectedSize = some n) (some : part ≠ [])
      (short : part.length < n) : Meets role part [] (.halted (.inside n part.length))
  | rejected {role : Role S} {act : Bytes} {e : NoiseError} (awaits : role.expectedSize = some act.length)
      (bad : role.hear act = .error e) (rest : Bytes) : Meets role (act ++ rest) [] (.halted (.rejected e))
  | answered {role role' : Role S} {act reply rest written : Bytes} {meeting : Meeting S}
      (awaits : role.expectedSize = some act.length) (good : role.hear act = .ok (.answered reply role'))
      (later : Meets role' rest written meeting) : Meets role (act ++ rest) (reply ++ written) meeting
  | completed {role : Role S} {act reply : Bytes} {remote : S.Point} {sending receiving chain : Bytes}
      (awaits : role.expectedSize = some act.length)
      (good : role.hear act = .ok (.completed reply remote (.ofKeys sending receiving chain))) (rest : Bytes) :
      Meets role (act ++ rest) reply (.done remote ⟨sending, chain⟩ ⟨receiving, chain⟩ rest)

namespace Role

theorem Listens.exists_meets {role : Role S} {n : Nat} (listens : role.Listens n) (script : Bytes) :
    ∃ written meeting, role.Meets script written meeting := by
  induction size : script.length using Nat.strong_induction_on generalizing role n script with
  | _ k ih =>
      subst size
      by_cases short : script.length < n
      · by_cases empty : script = []
        · exact ⟨_, _, empty ▸ Meets.between listens.awaits⟩
        · exact ⟨_, _, .inside listens.awaits empty short⟩
      · obtain ⟨act, rest, rfl, rfl⟩ := exists_append_of_le (Nat.le_of_not_lt short)
        have checked := listens.hear act
        cases heard : role.hear act with
        | error e => exact ⟨_, _, .rejected listens.awaits heard rest⟩
        | ok heard' =>
            cases checked.result heard with
            | answered listens' =>
                have shorter : rest.length < (act ++ rest).length := by
                  have positive := listens.pos
                  rw [List.length_append]
                  omega
                obtain ⟨written, meeting, later⟩ := ih _ shorter listens' rest rfl
                exact ⟨_, _, .answered listens.awaits heard later⟩
            | completed fresh =>
                obtain ⟨sending, receiving, chain, rfl⟩ := fresh
                exact ⟨_, _, .completed listens.awaits heard rest⟩

inductive Continues (rest : Bytes) : Except NoiseError (Heard S) → (written : Bytes) → Meeting S → Prop
  | rejected (e : NoiseError) : Continues rest (.error e) [] (.halted (.rejected e))
  | answered {role : Role S} {reply written : Bytes} {meeting : Meeting S} (later : role.Meets rest written meeting) :
      Continues rest (.ok (.answered reply role)) (reply ++ written) meeting
  | completed (reply : Bytes) (remote : S.Point) (sending receiving chain : Bytes) :
      Continues rest (.ok (.completed reply remote (.ofKeys sending receiving chain))) reply
        (.done remote ⟨sending, chain⟩ ⟨receiving, chain⟩ rest)

theorem Meets.whole {role : Role S} {act rest written : Bytes} {meeting : Meeting S}
    (listens : role.Listens act.length) (h : role.Meets (act ++ rest) written meeting) :
    Continues rest (role.hear act) written meeting := by
  have awaits := listens.awaits
  generalize same : act ++ rest = script at h
  -- an act of the awaited size can be cut off the script in one way only
  have first : ∀ {act' rest' : Bytes}, role.expectedSize = some act'.length → act' ++ rest' = script →
      act' = act ∧ rest' = rest := by
    intro act' rest' awaits' same'
    exact List.append_inj (same'.trans same.symm) (Option.some.inj (awaits'.symm.trans awaits))
  have long : ∀ {n : Nat}, role.expectedSize = some n → n ≤ script.length := by
    intro n awaits'
    rw [← same, List.length_append, ← Option.some.inj (awaits.symm.trans awaits')]
    exact Nat.le_add_right _ _
  cases h with
  | between awaits' =>
      obtain ⟨rfl, rfl⟩ := List.append_eq_nil_iff.1 same
      exact absurd listens.pos (Nat.lt_irrefl 0)
  | inside awaits' some short => exact absurd short (Nat.not_lt.2 (long awaits'))
  | rejected awaits' bad rest' =>
      obtain ⟨rfl, rfl⟩ := first awaits' rfl
      rw [bad]
      exact .rejected _
  | answered awaits' good later =>
      obtain ⟨rfl, rfl⟩ := first awaits' rfl
      rw [good]
      exact .answered later
  | completed awaits' good rest' =>
      obtain ⟨rfl, rfl⟩ := first awaits' rfl
      rw [good]
      exact .completed ..

theorem Meets.short {role : Role S} {n : Nat} {script written : Bytes} {meeting : Meeting S}
    (awaits : role.expectedSize = some n) (short : script.length < n) (h : role.Meets script written meeting) :
    written = [] ∧ meeting = .halted (if script = [] then .between else .inside n script.length) := by
  have least : ∀ {act rest : Bytes}, role.expectedSize = some act.length → ¬(act ++ rest).length < n := by
    intro act rest awaits'
    rw [List.length_append, Option.some.inj (awaits.symm.trans awaits')]
    omega
  cases h with
  | between awaits' => exact ⟨rfl, rfl⟩
  | inside awaits' some short' =>
      obtain rfl := Option.some.inj (awaits.symm.trans awaits')
      rw [if_neg some]
      exact ⟨rfl, rfl⟩
  | rejected awaits' | answered awaits' | completed awaits' => exact absurd short (least awaits')

theorem Meets.rejection {role : Role S} {n : Nat} (listens : role.Listens n) {script written : Bytes} {e : NoiseError}
    (h : role.Meets script written (.halted (.rejected e))) : e.Rejection := by
  generalize same : Meeting.halted (.rejected e) = meeting at h
  induction h generalizing n with
  | between | inside | completed => cases same
  | rejected awaits bad rest =>
      cases same
      exact (listens.hear _).rejection bad
  | answered awaits good later ih =>
      cases (listens.hear _).result good with
      | answered listens' => exact ih listens' same

theorem Meets.length_rest_le {role : Role S} {script written rest : Bytes} {remote : S.Point} {outward inward : Epoch S}
    (h : role.Meets script written (.done remote outward inward rest)) : rest.length ≤ script.length := by
  generalize same : Meeting.done remote outward inward rest = meeting at h
  induction h with
  | between | inside | rejected => cases same
  | answered awaits good later ih =>
      refine (ih same).trans ?_
      rw [List.length_append]
      exact Nat.le_add_left _ _
  | completed awaits good rest' =>
      cases same
      rw [List.length_append]
      exact Nat.le_add_left _ _

def Faces (role : Role S) (script written : Bytes) (meeting : Meeting S) : Prop :=
  ∃ answers, role.opening.2.Meets script answers meeting ∧ written = role.opening.1 ++ answers

end Role

namespace Secrets

variable (k : Secrets S) (lawful : S.Lawful) (rest : Bytes)
include lawful

theorem initiator_faces :
    (Role.initiator k.initiatorSide).Faces (k.transcript.actTwo ++ rest)
      (k.transcript.actOne ++ k.transcript.actThree k.static k.se)
      (.done (S.publicKey k.responder) k.outward k.inward rest) := by
  have good : (Role.initiator k.initiatorAwaiting).hear k.transcript.actTwo =
      .ok (.completed (k.transcript.actThree k.static k.se) (S.publicKey k.responder)
        (k.transcript.initiatorSession k.se)) := by
    simp only [Role.hear, k.receiveActTwo lawful]
    rfl
  have awaits : (Role.initiator k.initiatorAwaiting).expectedSize = some k.transcript.actTwo.length := by
    rw [k.length_actTwo lawful]
    rfl
  have opening : (Role.initiator k.initiatorSide).opening = (k.transcript.actOne, .initiator k.initiatorAwaiting) := by
    simp only [Role.opening, k.sendActOne]
    rfl
  refine ⟨k.transcript.actThree k.static k.se, ?_, ?_⟩
  · rw [opening]
    exact .completed awaits good rest
  · rw [opening]

theorem responder_faces :
    (Role.responder k.responderSide).Faces (k.transcript.actOne ++ (k.transcript.actThree k.static k.se ++ rest))
      k.transcript.actTwo (.done (S.publicKey k.initiator) k.inward k.outward rest) := by
  have first : (Role.responder k.responderSide).hear k.transcript.actOne =
      .ok (.answered k.transcript.actTwo (.responder k.responderAwaiting)) := by
    rw [Role.hear_first rfl, k.receiveActOne lawful]
    rfl
  have last : (Role.responder k.responderAwaiting).hear (k.transcript.actThree k.static k.se) =
      .ok (.completed [] (S.publicKey k.initiator) (k.transcript.responderSession k.se)) := by
    rw [Role.hear_last rfl, k.receiveActThree lawful]
    rfl
  have awaits : (Role.responder k.responderSide).expectedSize = some k.transcript.actOne.length := by
    rw [k.length_actOne lawful]
    rfl
  have awaits' : (Role.responder k.responderAwaiting).expectedSize =
      some (k.transcript.actThree k.static k.se).length := by
    rw [k.length_actThree lawful]
    rfl
  exact ⟨k.transcript.actTwo ++ [], .answered awaits first (.completed awaits' last rest), (List.append_nil _).symm⟩

end Secrets
end NoiseLink
