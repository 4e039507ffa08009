import NoiseLink.Proofs.Cuts
import NoiseLink.Proofs.KeySchedule

namespace NoiseLink

variable {S : Suite}

def Sealer.uses (s : Sealer S) (payload : Bytes) : List (Use S) :=
  if payload.length > maxMessageSize then []
  else
    match s.cipher.encrypt (Bytes.ofNatBE lengthSize payload.length) with
    | (.error _, _) => s.cipher.use?.toList
    | (.ok _, c) => s.cipher.use?.toList ++ c.use?.toList

namespace Opener

inductive Call where
  | length (header : Bytes)
  | body (body : Bytes)
  | message (record : Bytes)

inductive Answer where
  | size (n : Nat)
  | payload (b : Bytes)

def call (o : Opener S) : Call → Except NoiseError Answer × Opener S
  | .length header => ((o.decryptLength header).1.map .size, (o.decryptLength header).2)
  | .body body => ((o.decryptBody body).1.map .payload, (o.decryptBody body).2)
  | .message record => ((o.decryptMessage record).1.map .payload, (o.decryptMessage record).2)

/-- The uses that a call makes. A header that opens is followed by its body, unless that has another size. -/
def uses (o : Opener S) : Call → List (Use S)
  | .length header => if header.length ≠ headerSize then [] else o.cipher.use?.toList
  | .body body => if body.length < macSize then [] else o.cipher.use?.toList
  | .message record =>
    if record.length < headerSize then []
    else
      match o.decryptLength (record.take headerSize) with
      | (.error _, _) => o.cipher.use?.toList
      | (.ok size, o') =>
        o.cipher.use?.toList ++
          if (record.drop headerSize).length ≠ size + macSize then [] else o'.cipher.use?.toList

end Opener

/-- A half of a session, the uses that it has made, and its answers. -/
structure Ledger (S : Suite) (H A : Type) where
  half : H
  uses : List (Use S)
  answers : List (Except NoiseError A)

namespace Ledger

def start {H A : Type} (half : H) : Ledger S H A := ⟨half, [], []⟩

def sealing (l : Ledger S (Sealer S) Bytes) (payload : Bytes) : Ledger S (Sealer S) Bytes :=
  ⟨(l.half.encrypt payload).2, l.uses ++ l.half.uses payload, l.answers ++ [(l.half.encrypt payload).1]⟩

def opening (l : Ledger S (Opener S) Opener.Answer) (c : Opener.Call) : Ledger S (Opener S) Opener.Answer :=
  ⟨(l.half.call c).2, l.uses ++ l.half.uses c, l.answers ++ [(l.half.call c).1]⟩

end Ledger

namespace Epoch

variable (e : Epoch S)

def usesTo (t : Nat) : List (Use S) := (List.range t).map e.useAt

theorem nonce_used_le (t : Nat) : (e.used t).nonce ≤ rekeyInterval := by
  cases t with
  | zero => exact Nat.zero_le _
  | succ t => exact Nat.mod_lt t (by decide)

theorem nonce_fit_le (t : Nat) : (e.fit t).nonce ≤ rekeyInterval := Nat.le_of_lt (Nat.mod_lt t (by decide))

theorem length_usesTo (t : Nat) : (e.usesTo t).length = t := by
  rw [usesTo, List.length_map, List.length_range]

theorem usesTo_succ (t : Nat) : e.usesTo (t + 1) = e.usesTo t ++ [e.useAt t] := by
  rw [usesTo, List.range_succ, List.map_append]
  rfl

theorem usesTo_succ_succ (t : Nat) : e.usesTo (t + 2) = e.usesTo t ++ [e.useAt t, e.useAt (t + 1)] := by
  rw [usesTo_succ, usesTo_succ, List.append_assoc]
  rfl

def sealings (payloads : List Bytes) : Ledger S (Sealer S) Bytes :=
  payloads.foldl Ledger.sealing (.start ⟨.ofKey e.key e.chain⟩)

def openings (calls : List Opener.Call) : Ledger S (Opener S) Opener.Answer :=
  calls.foldl Ledger.opening (.start ⟨.ofKey e.key e.chain⟩)

/-- Both parts of a record are in one epoch, for a thousand uses are an even number. -/
theorem header_eq (i : Nat) (p : Bytes) :
    e.header i p = S.sealed (e.after (i / 500)).key (2 * i % 1000) [] (Bytes.ofNatBE 2 p.length) := by
  have epoch : 2 * i / rekeyInterval = i / 500 := by
    unfold rekeyInterval
    omega
  rw [header, sealedAt, epoch]
  rfl

theorem body_eq (i : Nat) (p : Bytes) :
    e.body i p = S.sealed (e.after (i / 500)).key ((2 * i + 1) % 1000) [] p := by
  have epoch : (2 * i + 1) / rekeyInterval = i / 500 := by
    unfold rekeyInterval
    omega
  rw [body, sealedAt, epoch]
  rfl

theorem uses_sealer (i : Nat) {payload : Bytes} (fits : payload.length ≤ maxMessageSize) :
    (e.sealer i).uses payload = [e.useAt (2 * i), e.useAt (2 * i + 1)] := by
  rw [Sealer.uses, if_neg (Nat.not_lt.2 fits)]
  simp only [sealer, encrypt_used, use?_used]
  rfl

end Epoch

namespace Ledger

variable {e : Epoch S}

def accepted {A : Type} (answers : List (Except NoiseError A)) : Nat := answers.countP Except.isOk

theorem accepted_concat_ok {A : Type} (answers : List (Except NoiseError A)) (a : A) :
    accepted (answers ++ [.ok a]) = accepted answers + 1 := by
  simp [accepted, Except.isOk, Except.toBool]

theorem accepted_concat_error {A : Type} (answers : List (Except NoiseError A)) (err : NoiseError) :
    accepted (answers ++ [.error err]) = accepted answers := by
  simp [accepted, Except.isOk, Except.toBool]

/-- Each record is made of the payload at its place, by the two uses that are its turn. -/
structure Recorded (e : Epoch S) (payloads : List Bytes) (answers : List (Except NoiseError Bytes)) : Prop where
  length : answers.length = payloads.length
  records : ∀ (k : Nat) (record : Bytes), answers[k]? = some (.ok record) → ∃ p, payloads[k]? = some p ∧
    record = e.header (accepted (answers.take k)) p ++ e.body (accepted (answers.take k)) p

theorem Recorded.concat {payloads : List Bytes} {answers : List (Except NoiseError Bytes)}
    (h : Recorded e payloads answers) {p : Bytes} {a : Except NoiseError Bytes}
    (ha : ∀ record, a = .ok record → record = e.header (accepted answers) p ++ e.body (accepted answers) p) :
    Recorded e (payloads ++ [p]) (answers ++ [a]) where
  length := by simp [h.length]
  records k record hk := by
    by_cases lt : k < answers.length
    · rw [List.getElem?_append_left lt] at hk
      rw [List.getElem?_append_left (h.length ▸ lt), List.take_append_of_le_length (Nat.le_of_lt lt)]
      exact h.records k record hk
    · rw [List.getElem?_append_right (Nat.le_of_not_lt lt), List.getElem?_singleton] at hk
      split at hk
      · next last =>
          obtain rfl : k = answers.length := by omega
          refine ⟨p, by simp [h.length], ?_⟩
          rw [List.take_left]
          exact ha record (Option.some.inj hk)
      · cases hk

/-- A run of a sealer: two uses for each record, and none for a payload that is refused. -/
structure Sealed (e : Epoch S) (payloads : List Bytes) (l : Ledger S (Sealer S) Bytes) : Prop where
  half : l.half = e.sealer (accepted l.answers)
  uses : l.uses = e.usesTo (2 * accepted l.answers)
  recorded : Recorded e payloads l.answers
  refusals : ∀ err, .error err ∈ l.answers → ∃ size, err = .messageTooLarge size

theorem Sealed.sealing {payloads : List Bytes} {l : Ledger S (Sealer S) Bytes} (h : Sealed e payloads l) (p : Bytes) :
    Sealed e (payloads ++ [p]) (l.sealing p) := by
  by_cases fits : p.length ≤ maxMessageSize
  · have sealed := e.encrypt_sealer (accepted l.answers) fits
    have uses := e.uses_sealer (accepted l.answers) fits
    rw [← h.half] at sealed uses
    rw [Ledger.sealing, sealed, uses, h.uses]
    refine ⟨?_, ?_, h.recorded.concat fun record hr => (Except.ok.inj hr).symm, fun err herr => ?_⟩
    · rw [accepted_concat_ok]
    · rw [accepted_concat_ok, Nat.mul_succ, e.usesTo_succ_succ]
    · simp only [List.mem_append, List.mem_singleton, reduceCtorEq, or_false] at herr
      exact h.refusals err herr
  · have large := Nat.lt_of_not_le fits
    have refused : l.half.encrypt p = (.error (.messageTooLarge p.length), l.half) := if_pos large
    have uses : l.half.uses p = [] := if_pos large
    rw [Ledger.sealing, refused, uses, List.append_nil]
    refine ⟨?_, ?_, h.recorded.concat fun record hr => absurd hr (by simp), fun err herr => ?_⟩
    · rw [accepted_concat_error, h.half]
    · rw [accepted_concat_error, h.uses]
    · simp only [List.mem_append, List.mem_singleton, Except.error.injEq] at herr
      obtain old | rfl := herr
      · exact h.refusals err old
      · exact ⟨p.length, rfl⟩

theorem Sealed.run {payloads : List Bytes} {l : Ledger S (Sealer S) Bytes} (h : Sealed e payloads l)
    (more : List Bytes) : Sealed e (payloads ++ more) (more.foldl Ledger.sealing l) := by
  induction more generalizing payloads l with
  | nil =>
      rw [List.append_nil]
      exact h
  | cons p more ih =>
      have rest := ih (h.sealing p)
      rw [List.append_assoc] at rest
      exact rest

theorem sealed_sealings (e : Epoch S) (payloads : List Bytes) : Sealed e payloads (e.sealings payloads) := by
  have fresh : Sealed e [] (.start (e.sealer 0)) := ⟨rfl, rfl, ⟨rfl, by simp [start]⟩, by simp [start]⟩
  exact fresh.run payloads

end Ledger

namespace Epoch

/-- All that a call can do to an opener after `t` uses: what it is answered, the opener that it leaves and the uses that
it makes. -/
inductive Turn (e : Epoch S) (t : Nat) :
    Opener.Call → Except NoiseError Opener.Answer × Opener S → List (Use S) → Prop
  | refused {c : Opener.Call} {n size : Nat} : Turn e t c (.error (.invalidMessageLength n size), e.opener t) []
  | length {header text : Bytes} (opened : e.unsealedAt t header = some text) :
      Turn e t (.length header) (.ok (.size (Bytes.toNatBE text)), e.opener (t + 1)) [e.useAt t]
  | badLength {header : Bytes} (failed : e.unsealedAt t header = none) :
      Turn e t (.length header) (.error (.authenticationFailed .recordLength), e.lost t) [e.useAt t]
  | body {body payload : Bytes} (opened : e.unsealedAt t body = some payload) :
      Turn e t (.body body) (.ok (.payload payload), e.opener (t + 1)) [e.useAt t]
  | badBody {body : Bytes} (failed : e.unsealedAt t body = none) :
      Turn e t (.body body) (.error (.authenticationFailed .recordBody), e.lost t) [e.useAt t]
  | message {header body text payload : Bytes} (size : header.length = headerSize)
      (length : e.unsealedAt t header = some text) (opened : e.unsealedAt (t + 1) body = some payload) :
      Turn e t (.message (header ++ body)) (.ok (.payload payload), e.opener (t + 2)) [e.useAt t, e.useAt (t + 1)]
  | badMessage {header body : Bytes} (size : header.length = headerSize) (failed : e.unsealedAt t header = none) :
      Turn e t (.message (header ++ body)) (.error (.authenticationFailed .recordLength), e.lost t) [e.useAt t]
  | torn {header body text : Bytes} {n m : Nat} (size : header.length = headerSize)
      (length : e.unsealedAt t header = some text) (uneven : body.length ≠ Bytes.toNatBE text + macSize) :
      Turn e t (.message (header ++ body)) (.error (.invalidMessageLength n m), ⟨(e.used (t + 1)).erase⟩) [e.useAt t]
  | badMessageBody {header body text : Bytes} (size : header.length = headerSize)
      (length : e.unsealedAt t header = some text) (failed : e.unsealedAt (t + 1) body = none) :
      Turn e t (.message (header ++ body)) (.error (.authenticationFailed .recordBody), e.lost (t + 1))
        [e.useAt t, e.useAt (t + 1)]

variable (e : Epoch S) (t : Nat)

theorem use?_opener : (e.opener t).cipher.use? = some (e.useAt t) := e.use?_used t

theorem turn_length (header : Bytes) :
    Turn e t (.length header) ((e.opener t).call (.length header)) ((e.opener t).uses (.length header)) := by
  by_cases size : header.length = headerSize
  · rw [Opener.call, Opener.uses, if_neg (not_not_intro size), e.decryptLength_opener t size, use?_opener]
    cases opened : e.unsealedAt t header with
    | none => exact .badLength opened
    | some text => exact .length opened
  · have refused : (e.opener t).decryptLength header =
        (.error (.invalidMessageLength headerSize header.length), e.opener t) := if_pos size
    rw [Opener.call, Opener.uses, if_pos size, refused]
    exact .refused

theorem turn_body (body : Bytes) :
    Turn e t (.body body) ((e.opener t).call (.body body)) ((e.opener t).uses (.body body)) := by
  by_cases short : body.length < macSize
  · have refused : (e.opener t).decryptBody body = (.error (.invalidMessageLength macSize body.length), e.opener t) :=
      if_pos short
    rw [Opener.call, Opener.uses, if_pos short, refused]
    exact .refused
  · rw [Opener.call, Opener.uses, if_neg short, e.decryptBody_opener t (Nat.le_of_not_lt short), use?_opener]
    cases opened : e.unsealedAt t body with
    | none => exact .badBody opened
    | some payload => exact .body opened

theorem turn_message (record : Bytes) :
    Turn e t (.message record) ((e.opener t).call (.message record)) ((e.opener t).uses (.message record)) := by
  by_cases short : record.length < headerSize
  · have refused : (e.opener t).decryptMessage record =
        (.error (.invalidMessageLength headerSize record.length), e.opener t) := if_pos short
    rw [Opener.call, Opener.uses, if_pos short, refused]
    exact .refused
  · obtain ⟨header, body, rfl, hh⟩ := exists_append_of_le (Nat.le_of_not_lt short)
    rw [Opener.call, Opener.uses, if_neg short, Opener.decryptMessage, if_neg short, List.take_left' hh,
      List.drop_left' hh, e.decryptLength_opener t hh, use?_opener]
    cases length : e.unsealedAt t header with
    | none => exact .badMessage hh length
    | some text =>
        by_cases size : body.length = Bytes.toNatBE text + macSize
        · have enough : macSize ≤ body.length := size ▸ Nat.le_add_left _ _
          simp only [size, ne_eq, not_true_eq_false, if_false, e.decryptBody_opener (t + 1) enough, use?_opener]
          cases opened : e.unsealedAt (t + 1) body with
          | none => exact .badMessageBody hh length opened
          | some payload => exact .message hh length opened
        · simp only [size, ne_eq, not_false_eq_true, if_true]
          exact .torn hh length size

theorem turn (c : Opener.Call) : Turn e t c ((e.opener t).call c) ((e.opener t).uses c) := by
  cases c with
  | length header => exact e.turn_length t header
  | body body => exact e.turn_body t body
  | message record => exact e.turn_message t record

end Epoch

namespace Opener

theorem decrypt_erased (c : RecordCipher S) (stage : Stage) (sealed : Bytes) :
    (⟨c.erase⟩ : Opener S).decrypt stage sealed = (.error .keyErased, ⟨c.erase⟩) :=
  rfl

theorem call_erased (c : RecordCipher S) (k : Call) :
    ∃ err, (⟨c.erase⟩ : Opener S).call k = (.error err, ⟨c.erase⟩) ∧ err ≠ .nonceExhausted ∧
      (⟨c.erase⟩ : Opener S).uses k = [] := by
  cases k with
  | length header =>
      rw [call, uses, decryptLength]
      split
      · exact ⟨_, rfl, by simp, rfl⟩
      · exact ⟨_, rfl, by simp, rfl⟩
  | body body =>
      rw [call, uses, decryptBody]
      split
      · exact ⟨_, rfl, by simp, rfl⟩
      · exact ⟨_, rfl, by simp, rfl⟩
  | message record =>
      rw [call, uses, decryptMessage]
      split
      · exact ⟨_, rfl, by simp, rfl⟩
      · next long =>
          have header : (record.take headerSize).length = headerSize := List.length_take_of_le (Nat.le_of_not_lt long)
          have failed : (⟨c.erase⟩ : Opener S).decryptLength (record.take headerSize) =
              (.error .keyErased, ⟨c.erase⟩) := by
            rw [decryptLength, if_neg (not_not_intro header), decrypt_erased]
          rw [failed]
          exact ⟨_, rfl, by simp, rfl⟩

end Opener

namespace Ledger

/-- A run of an opener: it has opened something with each use so far, or it is erased. -/
inductive Opened (e : Epoch S) : Ledger S (Opener S) Opener.Answer → Prop
  | live {t : Nat} {answers : List (Except NoiseError Opener.Answer)} (unexhausted : .error .nonceExhausted ∉ answers) :
      Opened e ⟨e.opener t, e.usesTo t, answers⟩
  | erased {c : RecordCipher S} {t : Nat} {answers : List (Except NoiseError Opener.Answer)}
      (unexhausted : .error .nonceExhausted ∉ answers) (bound : c.nonce ≤ rekeyInterval)
      (count : c.nonce = (e.used t).nonce ∨ ∃ stage, .error (.authenticationFailed stage) ∈ answers) :
      Opened e ⟨⟨c.erase⟩, e.usesTo t, answers⟩

variable {e : Epoch S}

theorem not_mem_concat {α : Type} {l : List α} {a b : α} (h : a ∉ l) (ne : a ≠ b) : a ∉ l ++ [b] := by
  simp [h, ne]

theorem Opened.opening {l : Ledger S (Opener S) Opener.Answer} (h : Opened e l) (k : Opener.Call) :
    Opened e (l.opening k) := by
  cases h with
  | @live t answers unexhausted =>
      have turn := e.turn t k
      simp only [Ledger.opening]
      generalize (e.opener t).call k = result, (e.opener t).uses k = uses at turn ⊢
      cases turn with
      | refused =>
          rw [List.append_nil]
          exact .live (not_mem_concat unexhausted (by simp))
      | length | body =>
          rw [← e.usesTo_succ]
          exact .live (not_mem_concat unexhausted (by simp))
      | badLength | badBody | badMessage =>
          rw [← e.usesTo_succ]
          exact .erased (not_mem_concat unexhausted (by simp)) (e.nonce_fit_le t) (.inr ⟨_, List.mem_concat_self⟩)
      | torn =>
          rw [← e.usesTo_succ]
          exact .erased (not_mem_concat unexhausted (by simp)) (e.nonce_used_le _) (.inl rfl)
      | message =>
          rw [← e.usesTo_succ_succ]
          exact .live (not_mem_concat unexhausted (by simp))
      | badMessageBody =>
          rw [← e.usesTo_succ_succ]
          exact .erased (not_mem_concat unexhausted (by simp)) (e.nonce_fit_le _) (.inr ⟨_, List.mem_concat_self⟩)
  | @erased c t answers unexhausted bound count =>
      obtain ⟨err, refused, ne, uses⟩ := Opener.call_erased c k
      simp only [Ledger.opening, refused, uses, List.append_nil]
      refine .erased (not_mem_concat unexhausted (by simp [ne.symm])) bound (count.imp_right ?_)
      rintro ⟨stage, failed⟩
      exact ⟨stage, List.mem_append_left _ failed⟩

theorem Opened.run {l : Ledger S (Opener S) Opener.Answer} (h : Opened e l) (calls : List Opener.Call) :
    Opened e (calls.foldl Ledger.opening l) := by
  induction calls generalizing l with
  | nil => exact h
  | cons c calls ih => exact ih (h.opening c)

theorem opened_openings (e : Epoch S) (calls : List Opener.Call) : Opened e (e.openings calls) := by
  have fresh : Opened e (.start (e.opener 0)) := .live (t := 0) (by simp)
  exact fresh.run calls

/-- What a run has used and the count that it shows: use `t` has its own place in the schedule. -/
structure Scheduled {H A : Type} (l : Ledger S H A) (e : Epoch S) (nonce : Nat) : Prop where
  use : ∀ (t : Nat) (u : Use S), l.uses[t]? = some u →
    u = ⟨S.cipher (e.after (t / 1000)).key, counter (t % 1000)⟩
  once : ∀ (t t' : Nat) (u u' : Use S), l.uses[t]? = some u → l.uses[t']? = some u' → t / 1000 = t' / 1000 →
    u.nonce = u'.nonce → t = t'
  count : (∀ stage, .error (.authenticationFailed stage) ∉ l.answers) →
    nonce = if l.uses.length = 0 then 0 else (l.uses.length - 1) % 1000 + 1
  bound : nonce ≤ 1000
  unexhausted : .error .nonceExhausted ∉ l.answers

theorem counter_inj {n m : Nat} (hn : n < lastNonce) (hm : m < lastNonce) (h : counter n = counter m) : n = m := by
  rw [← nonceBytes_eq, ← nonceBytes_eq] at h
  have low : Bytes.ofNatLE 8 n = Bytes.ofNatLE 8 m := List.append_cancel_left h
  have room : lastNonce ≤ Bytes.count 8 := by decide
  have read := congrArg Bytes.toNatLE low
  rw [Bytes.toNatLE_ofNatLE, Bytes.toNatLE_ofNatLE, Nat.mod_eq_of_lt (Nat.lt_of_lt_of_le hn room),
    Nat.mod_eq_of_lt (Nat.lt_of_lt_of_le hm room)] at read
  exact read

theorem eq_useAt_of_usesTo {n t : Nat} {u : Use S} (h : (e.usesTo n)[t]? = some u) : u = e.useAt t := by
  rw [Epoch.usesTo, List.getElem?_map, Option.map_eq_some_iff] at h
  obtain ⟨t', ht, rfl⟩ := h
  obtain ⟨lt, rfl⟩ := List.getElem?_eq_some_iff.1 ht
  rw [List.getElem_range]

theorem nonce_used (n : Nat) : (e.used n).nonce = if n = 0 then 0 else (n - 1) % 1000 + 1 := by
  cases n <;> rfl

theorem scheduled {H A : Type} {l : Ledger S H A} {n nonce : Nat} (uses : l.uses = e.usesTo n)
    (count : (∀ stage, .error (.authenticationFailed stage) ∉ l.answers) → nonce = (e.used n).nonce)
    (bound : nonce ≤ rekeyInterval) (unexhausted : .error .nonceExhausted ∉ l.answers) : l.Scheduled e nonce where
  use t u h := eq_useAt_of_usesTo (uses ▸ h)
  once t t' u u' h h' epoch same := by
    obtain rfl := eq_useAt_of_usesTo (uses ▸ h)
    obtain rfl := eq_useAt_of_usesTo (uses ▸ h')
    have place : t % 1000 = t' % 1000 := counter_inj (Epoch.mod_lt_lastNonce t) (Epoch.mod_lt_lastNonce t') same
    omega
  count intact := by
    rw [count intact, uses, nonce_used, Epoch.length_usesTo]
  bound := bound
  unexhausted := unexhausted

end Ledger

/-- Whatever calls are made to a sealer, or to an opener, use `t` has its place in the schedule, and the count that is
shown is that of the last use. Both uses of a record have the same key. An opener takes its turn with each call, until
it is erased and refuses all of them. -/
theorem uses_follow_schedule (e : Epoch S) :
    (e.after 0 = e ∧ ∀ j,
      let key := S.mac (e.after j).chain (e.after j).key
      (e.after (j + 1)).chain = S.mac key [1] ∧ (e.after (j + 1)).key = S.mac key (S.mac key [1] ++ [2])) ∧
    (∀ payloads : List Bytes,
      (e.sealings payloads).Scheduled e (e.sealings payloads).half.nonce ∧
      ∀ (k : Nat) (record : Bytes), (e.sealings payloads).answers[k]? = some (.ok record) →
        ∃ p, payloads[k]? = some p ∧
          let i := Ledger.accepted ((e.sealings payloads).answers.take k)
          record = S.sealed (e.after (i / 500)).key (2 * i % 1000) [] (Bytes.ofNatBE 2 p.length) ++
            S.sealed (e.after (i / 500)).key ((2 * i + 1) % 1000) [] p) ∧
    ∀ calls : List Opener.Call,
      (e.openings calls).Scheduled e (e.openings calls).half.nonce ∧
      ∀ c : Opener.Call,
        let l := e.openings calls
        e.Turn l.uses.length c (l.half.call c) (l.half.uses c) ∨
          l.half.isErased = true ∧ l.half.uses c = [] ∧ ∃ err, l.half.call c = (.error err, l.half) := by
  refine ⟨⟨rfl, fun j => ⟨rfl, rfl⟩⟩, fun payloads => ⟨?_, fun k record h => ?_⟩, fun calls => ?_⟩
  · have run := Ledger.sealed_sealings e payloads
    have intact : .error .nonceExhausted ∉ (e.sealings payloads).answers := fun mem => by
      obtain ⟨size, h⟩ := run.refusals _ mem
      cases h
    rw [run.half]
    exact Ledger.scheduled run.uses (fun _ => rfl) (e.nonce_used_le _) intact
  · obtain ⟨p, hp, rfl⟩ := (Ledger.sealed_sealings e payloads).recorded.records k record h
    exact ⟨p, hp, by rw [e.header_eq, e.body_eq]⟩
  · have run := Ledger.opened_openings e calls
    generalize e.openings calls = l at run ⊢
    cases run with
    | @live t answers unexhausted =>
        refine ⟨Ledger.scheduled rfl (fun _ => rfl) (e.nonce_used_le _) unexhausted, fun c => .inl ?_⟩
        rw [e.length_usesTo]
        exact e.turn t c
    | erased unexhausted bound count =>
        refine ⟨Ledger.scheduled rfl (fun intact => ?_) bound unexhausted, fun c => .inr ?_⟩
        · obtain shown | ⟨stage, failed⟩ := count
          · exact shown
          · exact absurd failed (intact stage)
        · obtain ⟨err, refused, -, uses⟩ := Opener.call_erased _ c
          exact ⟨rfl, uses, err, refused⟩

end NoiseLink
