import NoiseLink.Proofs.ActOrder

namespace NoiseLink

variable {S : Suite} {α β : Type}

namespace KeyState

variable (k : KeyState S) (ad : Bytes)

/-- There is a key, and `sealed` is the text under the cipher of that key, longer by a tag. -/
def Seals (text sealed : Bytes) : Prop :=
  ∃ key, k = ⟨some key, some (S.cipher key), k.nonce⟩ ∧ sealed = S.sealed key k.nonce ad text ∧
    sealed.length = text.length + macSize

def Unseals (sealed text : Bytes) : Prop :=
  ∃ key, k = ⟨some key, some (S.cipher key), k.nonce⟩ ∧ S.unsealed key k.nonce ad sealed = some text ∧
    sealed.length = text.length + macSize

def Rejects (sealed : Bytes) : Prop :=
  ∃ key, k = ⟨some key, some (S.cipher key), k.nonce⟩ ∧ S.unsealed key k.nonce ad sealed = none

end KeyState

/-- An operation of an act, with the state that it finds. -/
inductive Operation (S : Suite) where
  | encrypt (state : Symmetric S) (text : Bytes)
  | decrypt (state : Symmetric S) (sealed : Bytes)
  | read (size first last : Nat)
  | write (size first last : Nat) (part : Bytes)

/-- What an operation should come to: the cipher has really run, or the slice lies within the bytes and fits. -/
inductive Operation.Sound : Operation S → Prop
  | encrypted {s s' : Symmetric S} {text sealed : Bytes} (done : s.encryptAndHash text = .ok (sealed, s'))
      (seals : s.keys.Seals s.hash text sealed) : Sound (.encrypt s text)
  | decrypted {s s' : Symmetric S} {sealed text : Bytes} (done : s.decryptAndHash sealed = .ok (text, s'))
      (unseals : s.keys.Unseals s.hash sealed text) : Sound (.decrypt s sealed)
  | rejected {s : Symmetric S} {sealed : Bytes} (failed : s.decryptAndHash sealed = .error .aead)
      (rejects : s.keys.Rejects s.hash sealed) : Sound (.decrypt s sealed)
  | read {size first last : Nat} (ordered : first ≤ last) (within : last ≤ size) : Sound (.read size first last)
  | write {size first last : Nat} {part : Bytes} (ordered : first ≤ last) (within : last ≤ size)
      (fits : part.length = last - first) : Sound (.write size first last part)

inductive Fault where
  | refused (e : NoiseError)
  | outOfBounds

/-- A computation with the operations that it executes, in their order. -/
structure Traced (S : Suite) (α : Type) where
  operations : List (Operation S)
  result : Except Fault α

namespace Traced

instance : Monad (Traced S) where
  pure a := ⟨[], .ok a⟩
  bind x f :=
    match x.result with
    | .ok a => ⟨x.operations ++ (f a).operations, (f a).result⟩
    | .error fault => ⟨x.operations, .error fault⟩

def ofExcept (x : Except NoiseError α) : Traced S α := ⟨[], x.mapError .refused⟩

def encryptAndHash (s : Symmetric S) (text : Bytes) : Traced S (Bytes × Symmetric S) :=
  ⟨[.encrypt s text], (s.encryptAndHash text).mapError .refused⟩

def openIn (s : Symmetric S) (stage : Stage) (sealed : Bytes) : Traced S (Bytes × Symmetric S) :=
  ⟨[.decrypt s sealed], (s.openIn stage sealed).mapError .refused⟩

def read (m : Bytes) (first last : Nat) : Traced S Bytes :=
  ⟨[.read m.length first last],
    if first ≤ last ∧ last ≤ m.length then .ok (slice m first last) else .error .outOfBounds⟩

def write (m : Bytes) (first last : Nat) (part : Bytes) : Traced S Bytes :=
  ⟨[.write m.length first last part],
    if first ≤ last ∧ last ≤ m.length ∧ part.length = last - first then .ok (m.take first ++ part ++ m.drop last)
    else .error .outOfBounds⟩

def message (size middle : Nat) (first second : Bytes) : Traced S Bytes := do
  let m ← write (Bytes.zeros size) 0 1 [version]
  let m ← write m 1 middle first
  write m middle size second

/-- It comes to the result, with what holds of it, and all of its operations are sound. -/
structure Gives (t : Traced S α) (x : Except NoiseError α) (Q : α → Prop) : Prop where
  result : t.result = x.mapError .refused
  sound : ∀ op ∈ t.operations, op.Sound
  holds : ∀ a, x = .ok a → Q a

namespace Gives

variable {P : α → Prop} {Q : β → Prop}

theorem pure {a : α} (h : P a) : (Pure.pure a : Traced S α).Gives (.ok a) P where
  result := rfl
  sound := by simp [Pure.pure]
  holds := by
    rintro _ ⟨⟩
    exact h

theorem ofExcept (x : Except NoiseError α) : (Traced.ofExcept x : Traced S α).Gives x (fun a => x = .ok a) where
  result := rfl
  sound := by simp [Traced.ofExcept]
  holds _ h := h

theorem bind {t : Traced S α} {x : Except NoiseError α} {f : α → Traced S β} {g : α → Except NoiseError β}
    (ht : t.Gives x P) (hf : ∀ a, P a → (f a).Gives (g a) Q) : (t >>= f).Gives (x >>= g) Q := by
  obtain ⟨operations, result⟩ := t
  have same := ht.result
  subst same
  cases x with
  | error e => exact ⟨rfl, ht.sound, nofun⟩
  | ok a =>
      have next := hf a (ht.holds a rfl)
      exact ⟨next.result, List.forall_mem_append.2 ⟨ht.sound, next.sound⟩, next.holds⟩

/-- An operation of the account that the act itself does without. -/
theorem andThen {t : Traced S α} {a : α} {f : α → Traced S β} {y : Except NoiseError β} (ht : t.Gives (.ok a) P)
    (hf : (f a).Gives y Q) : (t >>= f).Gives y Q := by
  obtain ⟨operations, result⟩ := t
  have same := ht.result
  subst same
  exact ⟨hf.result, List.forall_mem_append.2 ⟨ht.sound, hf.sound⟩, hf.holds⟩

theorem single {op : Operation S} {result : Except Fault α} {x : Except NoiseError α}
    (same : result = x.mapError .refused) (sound : op.Sound) (holds : ∀ a, x = .ok a → P a) :
    (⟨[op], result⟩ : Traced S α).Gives x P :=
  ⟨same, by simpa using sound, holds⟩

theorem read {m : Bytes} {first last : Nat} (ordered : first ≤ last) (within : last ≤ m.length) :
    (Traced.read m first last : Traced S Bytes).Gives (.ok (slice m first last)) fun _ => True :=
  single (if_pos ⟨ordered, within⟩) (.read ordered within) fun _ _ => trivial

theorem write {m part written : Bytes} {first last rest : Nat}
    (before : m = written ++ Bytes.zeros (part.length + rest)) (start : first = written.length)
    (stop : last = first + part.length) :
    (Traced.write m first last part : Traced S Bytes).Gives (.ok (written ++ part ++ Bytes.zeros rest))
      fun _ => True := by
  subst before start stop
  have within : written.length + part.length ≤ (written ++ Bytes.zeros (part.length + rest)).length := by
    simp
  have fits : part.length = written.length + part.length - written.length := by omega
  have kept : (written ++ Bytes.zeros (part.length + rest)).take written.length = written := List.take_left
  have left : (written ++ Bytes.zeros (part.length + rest)).drop (written.length + part.length) = Bytes.zeros rest := by
    rw [List.drop_append, Bytes.zeros, List.drop_replicate]
    simp [Bytes.zeros]
  refine single ?_ (.write (Nat.le_add_right _ _) within fits) fun _ _ => trivial
  rw [if_pos ⟨Nat.le_add_right _ _, within, fits⟩, kept, left]
  rfl

theorem message {size middle : Nat} {first second : Bytes} (hf : 1 + first.length = middle)
    (hs : middle + second.length = size) :
    (Traced.message size middle first second : Traced S Bytes).Gives (.ok (version :: first ++ second))
      fun _ => True := by
  have versioned : (Traced.write (Bytes.zeros size) 0 1 [version] : Traced S Bytes).Gives
      (.ok ([version] ++ Bytes.zeros (first.length + second.length))) fun _ => True :=
    write (show _ = [] ++ _ by simp [← hs, ← hf, Nat.add_assoc]) rfl rfl
  have filled : (Traced.write ([version] ++ Bytes.zeros (first.length + second.length)) 1 middle first :
      Traced S Bytes).Gives (.ok ([version] ++ first ++ Bytes.zeros second.length)) fun _ => True :=
    write rfl rfl hf.symm
  have full : (Traced.write ([version] ++ first ++ Bytes.zeros second.length) middle size second :
      Traced S Bytes).Gives (.ok ([version] ++ first ++ second ++ Bytes.zeros 0)) fun _ => True :=
    write rfl (by simp [← hf, Nat.add_comm]) hs.symm
  have filledUp : Bytes.zeros 0 = [] := rfl
  rw [filledUp, List.append_nil] at full
  exact versioned.andThen (filled.andThen full)

end Gives

end Traced

namespace Symmetric

theorem decryptAndHash_keyed {n : Nat} (h : n < lastNonce) (hash chain key sealed : Bytes) :
    (keyed hash chain key n : Symmetric S).decryptAndHash sealed =
      match S.unsealed key n hash sealed with
      | some text => .ok (text, keyed (S.hash (hash ++ sealed)) chain key (n + 1))
      | none => .error .aead := by
  simp only [decryptAndHash, keyed, KeyState.decrypt, Nat.ne_of_lt h, Suite.unsealed, nonceBytes_eq, Option.isSome_some,
    if_true, if_false]
  cases S.decrypt (S.cipher key) (counter n) hash sealed <;> rfl

variable {s : Symmetric S} {n : Nat} (more : n < lastNonce) (h : s.Keyed n)
include more h

theorem Keyed.gives_encryptAndHash (sealing : S.Sealing) (text : Bytes) :
    (Traced.encryptAndHash s text).Gives (s.encryptAndHash text)
      fun r => r.2.Keyed (n + 1) ∧ r.1.length = text.length + macSize := by
  obtain ⟨hash, chain, key, rfl⟩ := h
  have done := encryptAndHash_keyed (S := S) more hash chain key text
  have longer := sealing.length_sealed key n hash text
  refine .single rfl (.encrypted done ⟨key, rfl, rfl, longer⟩) ?_
  rw [done]
  rintro _ ⟨⟩
  exact ⟨⟨_, _, _, rfl⟩, longer⟩

theorem Keyed.gives_openIn (strips : S.Strips) (stage : Stage) (sealed : Bytes) :
    (Traced.openIn s stage sealed).Gives (s.openIn stage sealed) fun r => r.2.Keyed (n + 1) := by
  obtain ⟨hash, chain, key, rfl⟩ := h
  have done := decryptAndHash_keyed (S := S) more hash chain key sealed
  have opened := openIn_keyed (S := S) more stage hash chain key sealed
  cases unsealed : S.unsealed key n hash sealed with
  | none =>
      rw [unsealed] at done opened
      refine .single rfl (.rejected done ⟨key, rfl, unsealed⟩) ?_
      rw [opened]
      exact nofun
  | some text =>
      rw [unsealed] at done opened
      refine .single rfl (.decrypted done ⟨key, rfl, unsealed, strips unsealed⟩) ?_
      rw [opened]
      rintro _ ⟨⟩
      exact ⟨_, _, _, rfl⟩

end Symmetric

theorem slice_length (m : Bytes) (first : Nat) : slice m first m.length = m.drop first := by
  rw [slice, List.take_length]

theorem length_of_checkAct {m : Bytes} {size : Nat} {act : Act} (checked : checkAct m size act = .ok ()) :
    m.length = size := by
  by_contra other
  rw [checkAct_of_ne other] at checked
  cases checked

theorem Party.settle_fst (p : Party S) (next : Progress) (x : Except NoiseError (α × Symmetric S)) :
    (p.settle next x).1 = x.map Prod.fst := by
  cases x <;> rfl

namespace Initiator

open Traced (ofExcept)

variable (i : Initiator S)

def tracedActOne : Traced S (Bytes × Symmetric S) := do
  let own := S.point.encode (S.publicKey i.party.ephemeral)
  let sym := (i.party.sym.mixHash own).mixKey (S.agree i.party.ephemeral i.remote)
  let (tag, sym) ← Traced.encryptAndHash sym []
  let m ← Traced.message actOneSize (1 + publicKeySize) own tag
  return (m, sym)

def tracedActThree (actTwo : Bytes) : Traced S ((Bytes × Session S) × Symmetric S) := do
  ofExcept (checkAct actTwo actTwoSize .two)
  let key ← Traced.read actTwo 1 (1 + publicKeySize)
  let re ← ofExcept (Party.parsePoint S .two key)
  let sym := (i.party.sym.mixHash key).mixKey (S.agree i.party.ephemeral re)
  let tag ← Traced.read actTwo (1 + publicKeySize) actTwo.length
  let (_, sym) ← Traced.openIn sym .actTwo tag
  let (static, sym) ← Traced.encryptAndHash sym (S.point.encode (S.publicKey i.party.static))
  let sym := sym.mixKey (S.agree i.party.static re)
  let (tag, sym) ← Traced.encryptAndHash sym []
  let m ← Traced.message actThreeSize (1 + static.length) static tag
  let (sending, receiving) := sym.split
  return ((m, .ofKeys sending receiving sym.chain), sym)

def perform : Call → Traced S (Answer S)
  | .sendActOne => do
    ofExcept (i.party.progress.expect .actOne)
    let (act, _) ← i.tracedActOne
    return .actOne act
  | .receiveActTwo m => do
    ofExcept (i.party.progress.expect .actTwo)
    let ((act, session), _) ← i.tracedActThree m
    return .actThree act session

variable (sealing : S.Sealing) (points : ∀ p, (S.point.encode p).length = publicKeySize)
include sealing points

theorem gives_tracedActOne : i.tracedActOne.Gives i.actOne fun _ => True := by
  apply Traced.Gives.bind ((Symmetric.keyed_mixKey _ _).gives_encryptAndHash (by decide) sealing _)
  rintro ⟨tag, sym⟩ ⟨-, longer⟩
  apply Traced.Gives.andThen (.message (by rw [points]) (by rw [longer]; rfl))
  exact .pure trivial

theorem gives_tracedActThree (strips : S.Strips) (m : Bytes) :
    (i.tracedActThree m).Gives (i.actThree m) fun _ => True := by
  apply Traced.Gives.bind (.ofExcept _)
  intro _ checked
  have size := length_of_checkAct checked
  apply Traced.Gives.andThen (.read (by decide) (by rw [size]; decide))
  apply Traced.Gives.bind (.ofExcept _)
  intro re _
  apply Traced.Gives.andThen (.read (by rw [size]; decide) (Nat.le_refl _))
  rw [slice_length]
  apply Traced.Gives.bind ((Symmetric.keyed_mixKey _ _).gives_openIn (by decide) strips _ _)
  rintro ⟨_, sym⟩ keyed
  apply Traced.Gives.bind (keyed.gives_encryptAndHash (by decide) sealing _)
  rintro ⟨static, sym⟩ ⟨-, staticLonger⟩
  apply Traced.Gives.bind ((Symmetric.keyed_mixKey _ _).gives_encryptAndHash (by decide) sealing _)
  rintro ⟨tag, sym⟩ ⟨-, longer⟩
  apply Traced.Gives.andThen (.message rfl (by rw [staticLonger, longer, points]; rfl))
  exact .pure trivial

omit sealing points

theorem answer_sendActOne :
    (i.call .sendActOne).1 = (do
      i.party.progress.expect .actOne
      let (act, _) ← i.actOne
      return .actOne act) := by
  rw [call, sendActOne]
  cases i.party.progress.expect .actOne with
  | error e => rfl
  | ok =>
      dsimp only
      rw [Party.settle_fst]
      cases i.actOne <;> rfl

theorem answer_receiveActTwo (m : Bytes) :
    (i.call (.receiveActTwo m)).1 = (do
      i.party.progress.expect .actTwo
      let ((act, session), _) ← i.actThree m
      return .actThree act session) := by
  rw [call, receiveActTwo]
  cases i.party.progress.expect .actTwo with
  | error e => rfl
  | ok =>
      dsimp only
      rw [Party.settle_fst]
      cases i.actThree m <;> rfl

include sealing points

theorem gives_perform (strips : S.Strips) (c : Call) : (i.perform c).Gives (i.call c).1 fun _ => True := by
  cases c with
  | sendActOne =>
      rw [answer_sendActOne]
      apply Traced.Gives.bind (.ofExcept _)
      intro _ _
      apply Traced.Gives.bind (i.gives_tracedActOne sealing points)
      intro _ _
      exact .pure trivial
  | receiveActTwo m =>
      rw [answer_receiveActTwo]
      apply Traced.Gives.bind (.ofExcept _)
      intro _ _
      apply Traced.Gives.bind (i.gives_tracedActThree sealing points strips m)
      intro _ _
      exact .pure trivial

end Initiator

namespace Responder

open Traced (ofExcept)

variable (r : Responder S)

def tracedActTwo (actOne : Bytes) : Traced S (Bytes × Symmetric S) := do
  ofExcept (checkAct actOne actOneSize .one)
  let key ← Traced.read actOne 1 (1 + publicKeySize)
  let re ← ofExcept (Party.parsePoint S .one key)
  let sym := (r.party.sym.mixHash key).mixKey (S.agree r.party.static re)
  let tag ← Traced.read actOne (1 + publicKeySize) actOne.length
  let (_, sym) ← Traced.openIn sym .actOne tag
  let own := S.point.encode (S.publicKey r.party.ephemeral)
  let sym := (sym.mixHash own).mixKey (S.agree r.party.ephemeral re)
  let (tag, sym) ← Traced.encryptAndHash sym []
  let m ← Traced.message actTwoSize (1 + publicKeySize) own tag
  return (m, sym)

def tracedOpenActThree (actThree : Bytes) : Traced S ((S.Point × Session S) × Symmetric S) := do
  ofExcept (checkAct actThree actThreeSize .three)
  let staticEnd := 1 + publicKeySize + macSize
  let static ← Traced.read actThree 1 staticEnd
  let (key, sym) ← Traced.openIn r.party.sym .actThreeStaticKey static
  let rs ← ofExcept (Party.parsePoint S .three key)
  let sym := sym.mixKey (S.agree r.party.ephemeral rs)
  let tag ← Traced.read actThree staticEnd actThree.length
  let (_, sym) ← Traced.openIn sym .actThree tag
  let (receiving, sending) := sym.split
  return ((rs, .ofKeys sending receiving sym.chain), sym)

def perform : Call → Traced S (Answer S)
  | .receiveActOne m => do
    ofExcept (r.party.progress.expect .actOne)
    let (act, _) ← r.tracedActTwo m
    return .actTwo act
  | .receiveActThree m => do
    ofExcept (r.party.progress.expect .actThree)
    let ((remote, session), _) ← r.tracedOpenActThree m
    return .session remote session

theorem gives_tracedActTwo (sealing : S.Sealing) (strips : S.Strips)
    (points : ∀ p, (S.point.encode p).length = publicKeySize) (m : Bytes) :
    (r.tracedActTwo m).Gives (r.actTwo m) fun _ => True := by
  apply Traced.Gives.bind (.ofExcept _)
  intro _ checked
  have size := length_of_checkAct checked
  apply Traced.Gives.andThen (.read (by decide) (by rw [size]; decide))
  apply Traced.Gives.bind (.ofExcept _)
  intro re _
  apply Traced.Gives.andThen (.read (by rw [size]; decide) (Nat.le_refl _))
  rw [slice_length]
  apply Traced.Gives.bind ((Symmetric.keyed_mixKey _ _).gives_openIn (by decide) strips _ _)
  rintro ⟨_, sym⟩ _
  apply Traced.Gives.bind ((Symmetric.keyed_mixKey _ _).gives_encryptAndHash (by decide) sealing _)
  rintro ⟨tag, sym⟩ ⟨-, longer⟩
  apply Traced.Gives.andThen (.message (by rw [points]) (by rw [longer]; rfl))
  exact .pure trivial

theorem gives_tracedOpenActThree (strips : S.Strips) (keyed : r.party.sym.Keyed 1) (m : Bytes) :
    (r.tracedOpenActThree m).Gives (r.openActThree m) fun _ => True := by
  apply Traced.Gives.bind (.ofExcept _)
  intro _ checked
  have size := length_of_checkAct checked
  apply Traced.Gives.andThen (.read (by decide) (by rw [size]; decide))
  apply Traced.Gives.bind (keyed.gives_openIn (by decide) strips _ _)
  rintro ⟨key, sym⟩ _
  apply Traced.Gives.bind (.ofExcept _)
  intro rs _
  apply Traced.Gives.andThen (.read (by rw [size]; decide) (Nat.le_refl _))
  rw [slice_length]
  apply Traced.Gives.bind ((Symmetric.keyed_mixKey _ _).gives_openIn (by decide) strips _ _)
  rintro ⟨_, sym⟩ _
  exact .pure trivial

theorem answer_receiveActOne (m : Bytes) :
    (r.call (.receiveActOne m)).1 = (do
      r.party.progress.expect .actOne
      let (act, _) ← r.actTwo m
      return .actTwo act) := by
  rw [call, receiveActOne]
  cases r.party.progress.expect .actOne with
  | error e => rfl
  | ok =>
      dsimp only
      rw [Party.settle_fst]
      cases r.actTwo m <;> rfl

theorem answer_receiveActThree (m : Bytes) :
    (r.call (.receiveActThree m)).1 = (do
      r.party.progress.expect .actThree
      let ((remote, session), _) ← r.openActThree m
      return .session remote session) := by
  rw [call, receiveActThree]
  cases r.party.progress.expect .actThree with
  | error e => rfl
  | ok => cases r.openActThree m <;> rfl

/-- Only a responder that has been through act two opens act three, and that one holds a key. -/
theorem Sound.gives_perform {r : Responder S} (sound : r.Sound) (sealing : S.Sealing) (strips : S.Strips)
    (points : ∀ p, (S.point.encode p).length = publicKeySize) (c : Call) :
    (r.perform c).Gives (r.call c).1 fun _ => True := by
  cases c with
  | receiveActOne m =>
      rw [answer_receiveActOne]
      apply Traced.Gives.bind (.ofExcept _)
      intro _ _
      apply Traced.Gives.bind (r.gives_tracedActTwo sealing strips points m)
      intro _ _
      exact .pure trivial
  | receiveActThree m =>
      rw [answer_receiveActThree]
      apply Traced.Gives.bind (.ofExcept _)
      intro _ expected
      have keyed := sound.keyed (Progress.eq_of_expect expected)
      apply Traced.Gives.bind (r.gives_tracedOpenActThree strips keyed m)
      intro _ _
      exact .pure trivial

end Responder

end NoiseLink
