import NoiseLink.Proofs.ActOrder
import NoiseLink.Proofs.FailClosed
import NoiseLink.Proofs.RefusedSends

namespace NoiseLink

variable {S : Suite}

namespace Turns

variable {σ κ α : Type} {M : Turns σ κ α} {t : List (κ × Except NoiseError α)} {s : σ}

variable (M t) in
/-- An act has failed, or the last one has succeeded, and with it all of them. -/
def Over : Prop := Failed t ∨ M.accepted t = M.order

theorem Lawful.following_eq_complete_iff (lawful : M.Lawful) {n : Nat} :
    M.following n = .complete ↔ M.order.length ≤ n := by
  rw [following, ← List.getElem?_eq_none_iff]
  cases h : M.order[n]? with
  | none => simp
  | some p =>
      have other : p ≠ .complete := fun same => lawful.complete (same ▸ List.mem_of_getElem? h)
      simpa using other

theorem Stands.over_iff (lawful : M.Lawful) (h : M.Stands t s) :
    M.Over t ↔ M.progress s = .complete ∨ M.progress s = .aborted := by
  cases h with
  | aborted _ _ failed gone => exact iff_of_true (.inl failed) (.inr gone)
  | @running n le done intact next =>
      rw [Over, next, done, lawful.following_eq_complete_iff, List.take_eq_self_iff, or_iff_right intact]
      exact (or_iff_left (lawful.following_ne_aborted n)).symm

end Turns

namespace Party

structure Wiped (p : Party S) : Prop where
  key : p.sym.keys.key = none
  cipher : p.sym.keys.cipher = none
  hash : p.sym.hash = Bytes.zeros 32
  chain : p.sym.chain = Bytes.zeros 32
  static : p.static = S.overwritten
  ephemeral : p.ephemeral = S.overwritten

/-- The secrets are those that the side was made with until it is over, and are wiped then. -/
structure Holds (static ephemeral : S.Secret) (ended : Prop) (p : Party S) : Prop where
  wiped : ended → p.Wiped
  intact : ¬ended → p.static = static ∧ p.ephemeral = ephemeral

def IsOver (p : Party S) : Prop := p.progress = .complete ∨ p.progress = .aborted

/-- Whatever an act has written before it failed, or before it was the last, it goes. -/
theorem wiped_erase (p : Party S) : p.erase.Wiped := ⟨rfl, rfl, rfl, rfl, rfl, rfl⟩

variable {static ephemeral : S.Secret} {p : Party S} {α : Type}

theorem Holds.settle (h : p.Holds static ephemeral p.IsOver) {step next : Progress}
    (turn : p.progress.expect step = .ok ()) (awaited : step ≠ .complete ∧ step ≠ .aborted) (goesOn : next ≠ .aborted)
    (x : Except NoiseError (α × Symmetric S)) :
    (p.settle next x).2.Holds static ephemeral (p.settle next x).2.IsOver := by
  have here : p.progress = step := Progress.eq_of_expect turn
  have own : p.static = static ∧ p.ephemeral = ephemeral := by
    refine h.intact ?_
    rw [IsOver, here, not_or]
    exact awaited
  match x with
  | .error e =>
      have wiped : ({ p.erase with progress := .aborted } : Party S).Wiped := ⟨rfl, rfl, rfl, rfl, rfl, rfl⟩
      exact ⟨fun _ => wiped, fun still => absurd (.inr rfl) still⟩
  | .ok (a, sym) =>
      rw [Party.settle]
      dsimp only
      split
      · next last => exact ⟨fun _ => wiped_erase _, fun still => absurd (.inl last) still⟩
      · next other => exact ⟨fun ended => absurd ended (not_or_intro other goesOn), fun _ => own⟩

theorem holds_run {σ κ β : Type} {M : Turns σ κ β} (lawful : M.Lawful) (party : σ → Party S)
    (same : ∀ s, M.progress s = (party s).progress)
    (step : ∀ s, (party s).Holds static ephemeral (party s).IsOver → ∀ c,
      (party (M.call s c).2).Holds static ephemeral (party (M.call s c).2).IsOver)
    {s : σ} (sound : M.Sound s) (first : M.progress s = M.following 0) (goesOn : ¬(party s).IsOver)
    (own : (party s).static = static ∧ (party s).ephemeral = ephemeral) (calls : List κ) :
    (party (Calls.run M.call s calls)).Holds static ephemeral (M.Over (Calls.answers M.call s calls)) := by
  have fresh : (party s).Holds static ephemeral (party s).IsOver := ⟨fun ended => absurd ended goesOn, fun _ => own⟩
  have kept := Calls.preserved M.call calls (fun s => (party s).Holds static ephemeral (party s).IsOver)
    (fun _ _ => True) (fun s h c _ => ⟨trivial, step s h c⟩) fresh
  have ended := (Turns.stands_run lawful sound first calls).1.over_iff lawful
  rw [same] at ended
  exact ⟨fun h => kept.2.wiped (ended.1 h), fun h => kept.2.intact fun gone => h (ended.2 gone)⟩

end Party

namespace Initiator

variable {static ephemeral : S.Secret}

theorem holds_call {i : Initiator S} (h : i.party.Holds static ephemeral i.party.IsOver) (c : Call) :
    (i.call c).2.party.Holds static ephemeral (i.call c).2.party.IsOver := by
  cases c with
  | sendActOne =>
      rw [call, sendActOne]
      split
      · exact h
      · next turn => exact h.settle turn (by decide) (by decide) i.actOne
  | receiveActTwo m =>
      rw [call, receiveActTwo]
      split
      · exact h
      · next turn => exact h.settle turn (by decide) (by decide) (i.actThree m)

theorem holds_run (static ephemeral : S.Secret) (remote : S.Point) (calls : List Call) :
    (Calls.run call (new static ephemeral remote) calls).party.Holds static ephemeral
      ((turns S).Over (Calls.answers call (new static ephemeral remote) calls)) := by
  have goesOn : ¬(new static ephemeral remote).party.IsOver := not_or_intro nofun nofun
  exact Party.holds_run (M := turns S) lawful_turns party (fun _ => rfl) (fun _ h c => holds_call h c) trivial rfl
    goesOn ⟨rfl, rfl⟩ calls

end Initiator

namespace Responder

variable {static ephemeral : S.Secret}

theorem holds_call {r : Responder S} (h : r.party.Holds static ephemeral r.party.IsOver) (c : Call) :
    (r.call c).2.party.Holds static ephemeral (r.call c).2.party.IsOver := by
  cases c with
  | receiveActOne m =>
      rw [call, receiveActOne]
      split
      · exact h
      · next turn => exact h.settle turn (by decide) (by decide) (r.actTwo m)
  | receiveActThree m =>
      rw [call, receiveActThree]
      split
      · exact h
      · next turn =>
          have goesOn : Progress.complete ≠ .aborted := by decide
          have settled := h.settle turn (by decide) goesOn (r.openActThree m)
          split <;> next result => simpa only [result] using settled

theorem holds_run (static ephemeral : S.Secret) (calls : List Call) :
    (Calls.run call (new static ephemeral) calls).party.Holds static ephemeral
      ((turns S).Over (Calls.answers call (new static ephemeral) calls)) := by
  have goesOn : ¬(new static ephemeral).party.IsOver := not_or_intro nofun nofun
  exact Party.holds_run (M := turns S) lawful_turns party (fun _ => rfl) (fun _ h c => holds_call h c)
    (sound_new static ephemeral) rfl goesOn ⟨rfl, rfl⟩ calls

end Responder

namespace RecordCipher

structure Blank (c : RecordCipher S) : Prop where
  key : c.keys.key = none
  cipher : c.keys.cipher = none
  chain : c.chain = Bytes.zeros 32

/-- All that it has is of two keys from one derivation, but for how often it was used. -/
def ofOutputs (outputs : Bytes × Bytes) (n : Nat) : RecordCipher S :=
  ⟨⟨some outputs.2, some (S.cipher outputs.2), n⟩, outputs.1⟩

def spend (c : RecordCipher S) (key : Bytes) (uses : Nat) : RecordCipher S :=
  if c.nonce + uses ≤ 1000 then { c with keys := { c.keys with nonce := c.nonce + uses } }
  else ofOutputs (S.derive c.chain key) (c.nonce + uses - 1000)

/-- A direction with a key, which it leaves behind as a whole when it is due. -/
structure Working (c : RecordCipher S) (key : Bytes) : Prop where
  held : c.keys.key = some key
  cipher : c.keys.cipher = some (S.cipher key)
  next : c.ready = .ok (if c.nonce = 1000 then ofOutputs (S.derive c.chain key) 0 else c)

theorem blank_erase (c : RecordCipher S) : c.erase.Blank := ⟨rfl, rfl, rfl⟩

end RecordCipher

namespace Epoch

variable (e : Epoch S)

theorem working_cipher (n : Nat) : (e.cipher n).Working e.key where
  held := rfl
  cipher := rfl
  next := by
    have live : ¬(e.cipher n).isErased = true := nofun
    rw [RecordCipher.ready, if_neg live, rekey_cipher]
    by_cases due : (e.cipher n).nonce = rekeyInterval
    · rw [if_pos due, if_pos (show (e.cipher n).nonce = 1000 from due)]
      rfl
    · rw [if_neg due, if_neg (show ¬(e.cipher n).nonce = 1000 from due)]

theorem spend_cipher_of_le {n uses : Nat} (within : n + uses ≤ 1000) :
    (e.cipher n).spend e.key uses = e.cipher (n + uses) :=
  if_pos within

theorem spend_cipher_of_lt {n uses : Nat} (past : 1000 < n + uses) :
    (e.cipher n).spend e.key uses = e.next.cipher (n + uses - 1000) :=
  if_neg (Nat.not_le.2 past)

/-- The key is that of the last use, and no two keys are passed over in a thousand uses. -/
theorem working_used (t : Nat) : ∃ key, (e.used t).Working key ∧
    ∀ uses ≤ 1000, (e.used t).spend key uses = e.used (t + uses) := by
  cases t with
  | zero =>
      refine ⟨e.key, e.working_cipher 0, fun uses few => ?_⟩
      have within : 0 + uses ≤ 1000 := by omega
      rw [used, e.spend_cipher_of_le within, Nat.zero_add]
      cases uses with
      | zero => rfl
      | succ n =>
          have first : n / rekeyInterval = 0 := Nat.div_eq_of_lt few
          have place : n % rekeyInterval = n := Nat.mod_eq_of_lt few
          rw [used, first, place, after]
  | succ t =>
      refine ⟨_, (e.after (t / rekeyInterval)).working_cipher _, fun uses few => ?_⟩
      rw [used, Nat.add_right_comm, used]
      by_cases within : t % rekeyInterval + 1 + uses ≤ 1000
      · have same : (t + uses) / rekeyInterval = t / rekeyInterval := by
          unfold rekeyInterval at *
          omega
        have place : (t + uses) % rekeyInterval + 1 = t % rekeyInterval + 1 + uses := by
          unfold rekeyInterval at *
          omega
        rw [spend_cipher_of_le _ within, same, place]
      · have later : (t + uses) / rekeyInterval = t / rekeyInterval + 1 := by
          unfold rekeyInterval at *
          omega
        have place : (t + uses) % rekeyInterval + 1 = t % rekeyInterval + 1 + uses - 1000 := by
          unfold rekeyInterval at *
          omega
        rw [spend_cipher_of_lt _ (Nat.lt_of_not_le within), later, place, after]

end Epoch

namespace Sealer

structure Forgets (calls : List Call) (s : Sealer S) : Prop where
  erased : s.cipher.isErased = true ↔ .erase ∈ calls
  blank : s.cipher.isErased = true → s.cipher.Blank
  works : s.cipher.isErased = false → ∃ key, s.cipher.Working key ∧
    ∀ p, (s.encrypt p).2.cipher = s.cipher.spend key (s.uses p).length

theorem Kept.blank {s : Sealer S} (kept : s.Kept) (gone : s.cipher.isErased = true) : s.cipher.Blank := by
  cases kept with
  | live e i => exact absurd gone (not_isErased_live e i)
  | erased c => exact c.blank_erase

theorem spend_sealer (e : Epoch S) (i : Nat) {key : Bytes}
    (spends : ∀ uses ≤ 1000, (e.used (2 * i)).spend key uses = e.used (2 * i + uses)) (p : Bytes) :
    ((e.sealer i).encrypt p).2.cipher = (e.sealer i).cipher.spend key ((e.sealer i).uses p).length := by
  by_cases fits : p.length ≤ maxMessageSize
  · rw [e.encrypt_sealer i fits, e.uses_sealer i fits]
    exact (spends 2 (by decide)).symm
  · have large := Nat.lt_of_not_le fits
    have refused : (e.sealer i).encrypt p = (.error (.messageTooLarge p.length), e.sealer i) := if_pos large
    have unused : (e.sealer i).uses p = [] := if_pos large
    rw [refused, unused]
    exact (spends 0 (by decide)).symm

theorem forgets_run (key chain : Bytes) (calls : List Call) :
    (Calls.run call (⟨.ofKey key chain⟩ : Sealer S) calls).Forgets calls := by
  obtain ⟨kept, erased⟩ := kept_run (S := S) key chain calls
  generalize Calls.run call (⟨.ofKey key chain⟩ : Sealer S) calls = s at kept erased
  refine ⟨erased, kept.blank, fun usable => ?_⟩
  cases kept with
  | erased c => cases usable
  | live e i =>
      obtain ⟨key, working, spends⟩ := e.working_used (2 * i)
      exact ⟨key, working, spend_sealer e i spends⟩

end Sealer

namespace Opener

def Loses : Move × Option (Except NoiseError Answer) → Prop
  | (.erase, _) => True
  | (.ask c, some (.error _)) => c.Fits
  | _ => False

structure Forgets (t : List (Move × Option (Except NoiseError Answer))) (o : Opener S) : Prop where
  erased : o.isErased = true ↔ ∃ x ∈ t, Loses x
  blank : o.isErased = true → o.cipher.Blank
  works : o.isErased = false → ∃ key, o.cipher.Working key ∧ ∀ c,
    (∀ a, (o.call c).1 = .ok a → (o.call c).2.cipher = o.cipher.spend key (o.uses c).length) ∧
    (∀ err, (o.call c).1 = .error err → c.Fits → (o.call c).2.cipher.Blank) ∧ (¬c.Fits → (o.call c).2 = o)

theorem Call.Misfit.not_fits {c : Call} {err : NoiseError} (h : c.Misfit err) : ¬c.Fits := by
  cases h with
  | length size => exact size
  | body short | message short => exact Nat.not_le.2 short

theorem loses_move {e : Epoch S} {o : Opener S} (keeps : e.Keeps o) (m : Move) :
    (o.move m).2.isErased = true ↔ o.isErased = true ∨ Loses (m, (o.move m).1) := by
  cases m with
  | erase => exact iff_of_true rfl (.inr trivial)
  | ask c =>
      rw [move]
      rcases c.fits_or_misfit with fits | ⟨err, misfit⟩
      · cases answered : (o.call c).1 with
        | error err => exact iff_of_true (isErased_of_failed keeps fits answered) (.inr fits)
        | ok a =>
            cases keeps with
            | erased o =>
                rw [call_of_isErased (o := o.erase) rfl fits] at answered
                cases answered
            | live t =>
                rcases e.opens_or_fails t fits with ⟨a', t', opened⟩ | ⟨err, fails⟩
                · have usable : ∀ t, ¬(e.opener t).isErased = true := by simp [e.isErased_opener]
                  rw [opened]
                  exact iff_of_false (usable t') (not_or_intro (usable t) id)
                · rw [fails.call.1] at answered
                  cases answered
      · rw [call_of_misfit o misfit]
        exact (or_iff_left misfit.not_fits).symm

theorem keeps_and_lost (e : Epoch S) (moves : List Move) :
    e.Keeps (Calls.run move (⟨.ofKey e.key e.chain⟩ : Opener S) moves) ∧
    ((Calls.run move (⟨.ofKey e.key e.chain⟩ : Opener S) moves).isErased = true ↔
      ∃ x ∈ Calls.answers move (⟨.ofKey e.key e.chain⟩ : Opener S) moves, Loses x) := by
  have start : e.Keeps ⟨.ofKey e.key e.chain⟩ := .live 0
  obtain ⟨keeps, lost⟩ := Calls.flagged (P := e.Keeps) (M := fun o : Opener S => o.isErased = true) (Q := Loses)
    (fun o keeps m => ⟨keeps.move m, loses_move keeps m⟩) start moves
  exact ⟨keeps, lost.trans (or_iff_right Bool.false_ne_true)⟩

theorem blank_of_isErased {e : Epoch S} {o : Opener S} (keeps : e.Keeps o) (gone : o.isErased = true) :
    o.cipher.Blank := by
  cases keeps with
  | live t => exact absurd gone (by simp [e.isErased_opener])
  | erased o => exact o.cipher.blank_erase

theorem spend_opener (e : Epoch S) (t : Nat) {key : Bytes}
    (spends : ∀ uses ≤ 1000, (e.used t).spend key uses = e.used (t + uses)) {c : Call} {a : Answer}
    (answered : ((e.opener t).call c).1 = .ok a) :
    ((e.opener t).call c).2.cipher = (e.opener t).cipher.spend key ((e.opener t).uses c).length := by
  have turn := e.turn t c
  generalize (e.opener t).call c = r, (e.opener t).uses c = uses at turn answered
  cases turn with
  | refused | badLength | badBody | badMessage | torn | badMessageBody => cases answered
  | length | body => exact (spends 1 (by decide)).symm
  | message => exact (spends 2 (by decide)).symm

theorem forgets_run (key chain : Bytes) (moves : List Move) :
    (Calls.run move (⟨.ofKey key chain⟩ : Opener S) moves).Forgets
      (Calls.answers move (⟨.ofKey key chain⟩ : Opener S) moves) := by
  let e : Epoch S := ⟨key, chain⟩
  obtain ⟨keeps, erased⟩ := keeps_and_lost e moves
  change e.Keeps (Calls.run move ⟨.ofKey key chain⟩ moves) at keeps
  generalize Calls.run move (⟨.ofKey key chain⟩ : Opener S) moves = o at keeps erased
  refine ⟨erased, blank_of_isErased keeps, fun usable => ?_⟩
  cases keeps with
  | erased o => cases usable
  | live t =>
      obtain ⟨key, working, spends⟩ := e.working_used t
      refine ⟨key, working, fun c => ⟨fun a answered => spend_opener e t spends answered, fun err failed fits => ?_,
        fun misfit => ?_⟩⟩
      · have keeps : e.Keeps (e.opener t) := .live t
        exact blank_of_isErased (keeps.call c) (isErased_of_failed keeps fits failed)
      · obtain ⟨err, misfit⟩ := c.fits_or_misfit.resolve_left misfit
        rw [call_of_misfit _ misfit]

end Opener

/-- Whatever is called, and with whatever bytes, no secret outlives its use. -/
theorem secrets_erased_after_use (static ephemeral : S.Secret) :
    (∀ (remote : S.Point) (calls : List Initiator.Call),
      (Calls.run Initiator.call (.new static ephemeral remote) calls).party.Holds static ephemeral
        ((Initiator.turns S).Over (Calls.answers Initiator.call (.new static ephemeral remote) calls))) ∧
    (∀ calls : List Responder.Call,
      (Calls.run Responder.call (.new static ephemeral) calls).party.Holds static ephemeral
        ((Responder.turns S).Over (Calls.answers Responder.call (.new static ephemeral) calls))) ∧
    (∀ (key chain : Bytes) (calls : List Sealer.Call),
      (Calls.run Sealer.call (⟨.ofKey key chain⟩ : Sealer S) calls).Forgets calls) ∧
    ∀ (key chain : Bytes) (moves : List Opener.Move),
      (Calls.run Opener.move (⟨.ofKey key chain⟩ : Opener S) moves).Forgets
        (Calls.answers Opener.move (⟨.ofKey key chain⟩ : Opener S) moves) :=
  ⟨Initiator.holds_run static ephemeral, Responder.holds_run static ephemeral, Sealer.forgets_run, Opener.forgets_run⟩

end NoiseLink
