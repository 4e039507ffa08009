import NoiseLink.Proofs.Calls
import NoiseLink.Proofs.NonceUse
import NoiseLink.Proofs.RecordCodec

namespace NoiseLink

variable {S : Suite}

namespace Opener

inductive Call.Misfit : Call → NoiseError → Prop
  | length {header : Bytes} (size : header.length ≠ 18) :
      Misfit (.length header) (.invalidMessageLength 18 header.length)
  | body {body : Bytes} (short : body.length < 16) : Misfit (.body body) (.invalidMessageLength 16 body.length)
  | message {record : Bytes} (short : record.length < 18) :
      Misfit (.message record) (.invalidMessageLength 18 record.length)

def Call.Fits : Call → Prop
  | .length text => text.length = 18
  | .body text => 16 ≤ text.length
  | .message text => 18 ≤ text.length

theorem Call.fits_or_misfit (c : Call) : c.Fits ∨ ∃ err, c.Misfit err := by
  cases c with
  | length header =>
      by_cases size : header.length = 18
      · exact .inl size
      · exact .inr ⟨_, .length size⟩
  | body body =>
      rcases Nat.lt_or_ge body.length 16 with short | long
      · exact .inr ⟨_, .body short⟩
      · exact .inl long
  | message record =>
      rcases Nat.lt_or_ge record.length 18 with short | long
      · exact .inr ⟨_, .message short⟩
      · exact .inl long

theorem call_of_misfit (o : Opener S) {c : Call} {err : NoiseError} (h : c.Misfit err) : o.call c = (.error err, o) := by
  cases h with
  | length size =>
      have refused : o.decryptLength _ = (.error (.invalidMessageLength headerSize _), o) := if_pos size
      rw [call, refused]
      rfl
  | body short =>
      have refused : o.decryptBody _ = (.error (.invalidMessageLength macSize _), o) := if_pos short
      rw [call, refused]
      rfl
  | message short =>
      have refused : o.decryptMessage _ = (.error (.invalidMessageLength headerSize _), o) := if_pos short
      rw [call, refused]
      rfl

theorem decryptMessage_append (o : Opener S) {header : Bytes} (size : header.length = headerSize) (body : Bytes) :
    o.decryptMessage (header ++ body) =
      match o.decryptLength header with
      | (.error err, o) => (.error err, o)
      | (.ok n, o) =>
        if body.length ≠ n + macSize then
          (.error (.invalidMessageLength (headerSize + n + macSize) (header ++ body).length), o.erase)
        else o.decryptBody body := by
  have long : ¬(header ++ body).length < headerSize := by
    rw [List.length_append]
    omega
  have taken : (header ++ body).take headerSize = header := List.take_left' size
  have left : (header ++ body).drop headerSize = body := List.drop_left' size
  cases length : o.decryptLength header with
  | mk r o' => cases r <;> simp only [decryptMessage, if_neg long, taken, left, length]

section Erased

variable {o : Opener S} (gone : o.isErased = true)
include gone

theorem decrypt_of_isErased (stage : Stage) (sealed : Bytes) : o.decrypt stage sealed = (.error .keyErased, o.erase) := by
  have refused : o.cipher.ready = .error .keyErased := if_pos gone
  rw [decrypt, RecordCipher.decrypt, refused]
  rfl

theorem call_of_isErased {c : Call} (fits : c.Fits) : o.call c = (.error .keyErased, o.erase) := by
  cases c with
  | length header =>
      have size : header.length = headerSize := fits
      rw [call, decryptLength, if_neg (not_not_intro size), decrypt_of_isErased gone]
      rfl
  | body body =>
      have long : macSize ≤ body.length := fits
      rw [call, decryptBody, if_neg (Nat.not_lt.2 long), decrypt_of_isErased gone]
      rfl
  | message record =>
      obtain ⟨header, body, rfl, size⟩ := exists_append_of_le (l := record) (n := headerSize) fits
      rw [call, decryptMessage_append o size, decryptLength, if_neg (not_not_intro size), decrypt_of_isErased gone]
      rfl

end Erased

inductive Move where
  | ask (c : Call)
  | erase

def move (o : Opener S) : Move → Option (Except NoiseError Answer) × Opener S
  | .ask c => (some (o.call c).1, (o.call c).2)
  | .erase => (none, o.erase)

def Refused : Option (Except NoiseError Answer) → Prop
  | some (.ok _) => False
  | _ => True

theorem refused_move {o : Opener S} (gone : o.isErased = true) (m : Move) :
    Refused (o.move m).1 ∧ (o.move m).2.isErased = true := by
  cases m with
  | erase => exact ⟨trivial, rfl⟩
  | ask c =>
      rcases c.fits_or_misfit with fits | ⟨err, misfit⟩
      · rw [move, call_of_isErased gone fits]
        exact ⟨trivial, rfl⟩
      · rw [move, call_of_misfit o misfit]
        exact ⟨trivial, gone⟩

theorem refused_run {o : Opener S} (gone : o.isErased = true) (later : List Move) :
    (∀ x ∈ Calls.answers move o later, Refused x.2) ∧ (Calls.run move o later).isErased = true := by
  apply Calls.preserved move later (fun o => o.isErased = true) (fun _ a => Refused a)
  · intro o gone m _
    exact refused_move gone m
  · exact gone

end Opener

namespace Epoch

variable (e : Epoch S) (t : Nat)

inductive Fails : Opener.Call → NoiseError → Prop
  | length {header : Bytes} (size : header.length = 18) (forged : e.unsealedAt t header = none) :
      Fails (.length header) (.authenticationFailed .recordLength)
  | body {body : Bytes} (long : 16 ≤ body.length) (forged : e.unsealedAt t body = none) :
      Fails (.body body) (.authenticationFailed .recordBody)
  | messageHeader {header body : Bytes} (size : header.length = 18) (forged : e.unsealedAt t header = none) :
      Fails (.message (header ++ body)) (.authenticationFailed .recordLength)
  | torn {header body text : Bytes} (size : header.length = 18) (told : e.unsealedAt t header = some text)
      (uneven : (header ++ body).length ≠ 18 + Bytes.toNatBE text + 16) :
      Fails (.message (header ++ body))
        (.invalidMessageLength (18 + Bytes.toNatBE text + 16) (header ++ body).length)
  | messageBody {header body text : Bytes} (size : header.length = 18) (told : e.unsealedAt t header = some text)
      (even : (header ++ body).length = 18 + Bytes.toNatBE text + 16) (forged : e.unsealedAt (t + 1) body = none) :
      Fails (.message (header ++ body)) (.authenticationFailed .recordBody)

variable {e t}

theorem length_message_eq_iff {header : Bytes} (size : header.length = 18) (body : Bytes) (n : Nat) :
    (header ++ body).length = 18 + n + 16 ↔ body.length = n + macSize := by
  rw [List.length_append, macSize]
  omega

/-- A text that fails takes the key away. -/
theorem Fails.call {c : Opener.Call} {err : NoiseError} (h : e.Fails t c err) :
    ((e.opener t).call c).1 = .error err ∧ ((e.opener t).call c).2.isErased = true := by
  cases h with
  | length size forged =>
      rw [Opener.call, e.decryptLength_opener t size, forged]
      exact ⟨rfl, rfl⟩
  | body long forged =>
      rw [Opener.call, e.decryptBody_opener t long, forged]
      exact ⟨rfl, rfl⟩
  | messageHeader size forged =>
      rw [Opener.call, Opener.decryptMessage_append _ size, e.decryptLength_opener t size, forged]
      exact ⟨rfl, rfl⟩
  | @torn header body text size told uneven =>
      have other : body.length ≠ Bytes.toNatBE text + macSize :=
        fun same => uneven ((length_message_eq_iff size body _).2 same)
      rw [Opener.call, Opener.decryptMessage_append _ size, e.decryptLength_opener t size, told]
      simp only [if_pos other]
      exact ⟨rfl, rfl⟩
  | @messageBody header body text size told even forged =>
      have same := (length_message_eq_iff size body _).1 even
      have long : macSize ≤ body.length := same ▸ Nat.le_add_left _ _
      rw [Opener.call, Opener.decryptMessage_append _ size, e.decryptLength_opener t size, told]
      simp only [if_neg (not_not_intro same), e.decryptBody_opener (t + 1) long, forged]
      exact ⟨rfl, rfl⟩

variable (e t) in
theorem uses_ne_nil {c : Opener.Call} (fits : c.Fits) : (e.opener t).uses c ≠ [] := by
  cases c with
  | length header =>
      have size : header.length = headerSize := fits
      rw [Opener.uses, if_neg (not_not_intro size), use?_opener]
      exact List.cons_ne_nil _ _
  | body body =>
      have long : macSize ≤ body.length := fits
      rw [Opener.uses, if_neg (Nat.not_lt.2 long), use?_opener]
      exact List.cons_ne_nil _ _
  | message record =>
      have long : headerSize ≤ record.length := fits
      rw [Opener.uses, if_neg (Nat.not_lt.2 long), use?_opener]
      split <;> exact List.cons_ne_nil _ _

variable (e t) in
theorem opens_or_fails {c : Opener.Call} (fits : c.Fits) :
    (∃ a t', (e.opener t).call c = (.ok a, e.opener t')) ∨ ∃ err, e.Fails t c err := by
  have turn := e.turn t c
  have used := e.uses_ne_nil t fits
  generalize (e.opener t).call c = r, (e.opener t).uses c = uses at turn used
  cases turn with
  | refused => exact absurd rfl used
  | length | body | message => exact .inl ⟨_, _, rfl⟩
  | badLength failed => exact .inr ⟨_, .length fits failed⟩
  | badBody failed => exact .inr ⟨_, .body fits failed⟩
  | badMessage size failed => exact .inr ⟨_, .messageHeader size failed⟩
  | torn size length uneven =>
      exact .inr ⟨_, .torn size length fun even => uneven ((length_message_eq_iff size _ _).1 even)⟩
  | @badMessageBody header body text size length failed =>
      by_cases even : (header ++ body).length = 18 + Bytes.toNatBE text + 16
      · exact .inr ⟨_, .messageBody size length even failed⟩
      · exact .inr ⟨_, .torn size length even⟩

theorem fails_iff {c : Opener.Call} (fits : c.Fits) {err : NoiseError} :
    ((e.opener t).call c).1 = .error err ↔ e.Fails t c err := by
  constructor
  · intro failed
    rcases e.opens_or_fails t fits with ⟨a, t', opened⟩ | ⟨err', fails⟩
    · rw [opened] at failed
      cases failed
    · obtain rfl : err' = err := Except.error.inj (fails.call.1.symm.trans failed)
      exact fails
  · intro fails
    exact fails.call.1

variable (e) in
/-- An opener whose keys follow the schedule, or whose key is gone. -/
inductive Keeps : Opener S → Prop
  | live (t : Nat) : Keeps (e.opener t)
  | erased (o : Opener S) : Keeps o.erase

theorem Keeps.call {o : Opener S} (keeps : e.Keeps o) (c : Opener.Call) : e.Keeps (o.call c).2 := by
  rcases c.fits_or_misfit with fits | ⟨err, misfit⟩
  · cases keeps with
    | erased o =>
        rw [Opener.call_of_isErased (o := o.erase) rfl fits]
        exact .erased o.erase
    | live t =>
        have turn := e.turn t c
        generalize (e.opener t).call c = r, (e.opener t).uses c = uses at turn
        cases turn with
        | refused => exact .live t
        | length | body => exact .live (t + 1)
        | message => exact .live (t + 2)
        | badLength | badBody | badMessage => exact .erased ⟨e.fit t⟩
        | torn => exact .erased (e.opener (t + 1))
        | badMessageBody => exact .erased ⟨e.fit (t + 1)⟩
  · rw [Opener.call_of_misfit o misfit]
    exact keeps

theorem Keeps.move {o : Opener S} (keeps : e.Keeps o) (m : Opener.Move) : e.Keeps (o.move m).2 := by
  cases m with
  | ask c => exact keeps.call c
  | erase => exact .erased o

theorem keeps_run (e : Epoch S) (moves : List Opener.Move) :
    e.Keeps (Calls.run Opener.move ⟨.ofKey e.key e.chain⟩ moves) := by
  have start : e.Keeps ⟨.ofKey e.key e.chain⟩ := .live 0
  have kept := Calls.preserved Opener.move moves e.Keeps (fun _ _ => True)
    (fun o keeps m _ => ⟨trivial, keeps.move m⟩) start
  exact kept.2

end Epoch

/-- All that an opener can fail with, and what becomes of it. -/
structure Opener.FailsClosed (e : Epoch S) (o : Opener S) : Prop where
  misfit : ∀ c err, c.Misfit err → o.call c = (.error err, o)
  keyless : o.isErased = true → ∀ c, c.Fits → o.call c = (.error .keyErased, o)
  live : o.isErased = false → ∃ t, o = e.opener t ∧
    ∀ c, c.Fits → ∀ err, (o.call c).1 = .error err ↔ e.Fails t c err
  fatal : ∀ c, c.Fits → ∀ err, (o.call c).1 = .error err → (o.call c).2.isErased = true
  forever : o.isErased = true → ∀ later, (Calls.run move o later).isErased = true ∧
    ∀ x ∈ Calls.answers move o later, ∀ a, x.2 ≠ some (.ok a)
  /-- A record that is not forged opens if it comes before the failure, and not after it. -/
  genuine : ∀ (s s' : Sealer S) (p record : Bytes), s.encrypt p = (.ok record, s') →
    (s.cipher = o.cipher → (o.call (.message record)).1 = .ok (.payload p)) ∧
    ∀ c, c.Fits → ∀ err, (o.call c).1 = .error err → ∀ later,
      ((Calls.run move (o.call c).2 later).call (.message record)).1 = .error .keyErased

namespace Opener

theorem isErased_of_failed {e : Epoch S} {o : Opener S} (keeps : e.Keeps o) {c : Call} (fits : c.Fits) {err : NoiseError}
    (failed : (o.call c).1 = .error err) : (o.call c).2.isErased = true := by
  cases keeps with
  | live t => exact ((Epoch.fails_iff fits).1 failed).call.2
  | erased o =>
      rw [call_of_isErased (o := o.erase) rfl fits]
      rfl

theorem call_of_encrypt (sealing : S.Sealing) {s s' : Sealer S} {o : Opener S} (same : s.cipher = o.cipher)
    {p record : Bytes} (sealed : s.encrypt p = (.ok record, s')) : (o.call (.message record)).1 = .ok (.payload p) := by
  obtain ⟨header, body, o₁, rfl, -, size, length, opened⟩ := opens_of_encrypt same sealing sealed
  have whole := decryptMessage_eq_ok_iff.2 ⟨header, body, p.length, o₁, rfl, size, length, opened⟩
  rw [call, whole]
  rfl

/-- Whatever an opener is called with, one that has failed stays without a key and opens nothing more, not even what
was sealed for it. -/
theorem fails_closed (sealing : S.Sealing) (e : Epoch S) (moves : List Move) :
    FailsClosed e (Calls.run move ⟨.ofKey e.key e.chain⟩ moves) := by
  have keeps := e.keeps_run moves
  generalize Calls.run move ⟨.ofKey e.key e.chain⟩ moves = o at keeps
  refine ⟨fun c err => call_of_misfit o, fun gone c fits => ?_, fun usable => ?_, fun c fits err => ?_,
    fun gone later => ?_, fun s s' p record sealed => ⟨fun same => ?_, fun c fits err failed later => ?_⟩⟩
  · rw [call_of_isErased gone fits]
    cases keeps with
    | live t => exact absurd (gone.symm.trans (e.isErased_used t)) nofun
    | erased o => rfl
  · cases keeps with
    | live t => exact ⟨t, rfl, fun c fits err => Epoch.fails_iff fits⟩
    | erased o => cases usable
  · exact isErased_of_failed keeps fits
  · obtain ⟨refused, stays⟩ := refused_run gone later
    refine ⟨stays, fun x mem a opened => ?_⟩
    have := refused x mem
    rw [opened] at this
    exact this
  · exact call_of_encrypt sealing same sealed
  · have gone := isErased_of_failed keeps fits failed
    have long : (Call.message record).Fits := by
      have size := length_of_encrypt sealing sealed
      rw [headerSize, lengthSize, macSize] at size
      change 18 ≤ record.length
      omega
    rw [call_of_isErased (refused_run gone later).2 long]

theorem fails_closed_forged :
    let o : Opener .standard := Calls.run move ⟨.ofKey Epoch.blank.key Epoch.blank.chain⟩ []
    let forged : Call := .length (Bytes.zeros 18)
    let record := Epoch.blank.header 0 [1, 2, 3] ++ Epoch.blank.body 0 [1, 2, 3]
    let later : List Move := [.ask (.body [1]), .erase]
    Suite.standard.Sealing ∧ forged.Fits ∧
      (o.call forged).1 = .error (.authenticationFailed .recordLength) ∧
      (Epoch.blank.sealer 0).encrypt [1, 2, 3] = (.ok record, Epoch.blank.sealer 1) ∧
      (o.call (.message record)).1 = .ok (.payload [1, 2, 3]) ∧
      ((Calls.run move (o.call forged).2 later).call (.message record)).1 = .error .keyErased ∧
      (Call.body [1]).Misfit (.invalidMessageLength 16 1) ∧ o.call (.body [1]) = (.error (.invalidMessageLength 16 1), o) := by
  intro o forged record later
  have fits : forged.Fits := Bytes.length_zeros 18
  have failed : (o.call forged).1 = .error (.authenticationFailed .recordLength) := by
    have unopened : Epoch.blank.unsealedAt 0 (Bytes.zeros 18) = none := by decide +kernel
    exact (Epoch.Fails.length fits unopened).call.1
  have sealed : (Epoch.blank.sealer 0).encrypt [1, 2, 3] = (.ok record, Epoch.blank.sealer 1) :=
    Epoch.blank.encrypt_sealer 0 (by decide)
  have few : ([1] : Bytes).length < 16 := by decide
  have short : (Call.body [1]).Misfit (.invalidMessageLength 16 1) := .body few
  have closed := fails_closed Suite.standard_sealing Epoch.blank []
  obtain ⟨before, after⟩ := closed.genuine _ _ _ _ sealed
  exact ⟨Suite.standard_sealing, fits, failed, sealed, before rfl, after forged fits _ failed later, short,
    closed.misfit _ _ short⟩

end Opener
end NoiseLink
