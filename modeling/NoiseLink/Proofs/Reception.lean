import NoiseLink.Proofs.RecordReader

namespace NoiseLink

variable {S : Suite}

namespace Decoder

def openedBody (d : Decoder S) (size : Nat) : List Bytes :=
  match d.decodeBody size with
  | (.ok _, _) => [d.buffer.take size]
  | (.error _, _) => []

def opened (d : Decoder S) : List Bytes :=
  if d.opener.isErased then []
  else
    match d.pending with
    | some size => d.openedBody size
    | none =>
      if d.buffer.length < headerSize then []
      else
        match d.opener.decryptLength (d.buffer.take headerSize) with
        | (.error _, _) => []
        | (.ok size, opener) =>
          d.buffer.take headerSize ::
            openedBody ⟨opener, d.buffer.drop headerSize, some (size + macSize)⟩ (size + macSize)

end Decoder

namespace Epoch

variable (e : Epoch S)

theorem opened_within_of_lt (t n : Nat) {buffer : Bytes} (h : buffer.length < n + macSize) :
    (e.within t n buffer).opened = [] := by
  have live : (e.within t n buffer).opener.isErased = false := e.isErased_used t
  rw [Decoder.opened, live]
  change Decoder.openedBody _ (n + macSize) = []
  rw [Decoder.openedBody, e.decodeBody_within_of_lt t n h]

theorem opened_within (t n : Nat) {body : Bytes} (h : body.length = n + macSize) (rest : Bytes) :
    (e.within t n (body ++ rest)).opened = match e.unsealedAt t body with
      | some _ => [body]
      | none => [] := by
  have live : (e.within t n (body ++ rest)).opener.isErased = false := e.isErased_used t
  rw [Decoder.opened, live]
  change Decoder.openedBody _ (n + macSize) = _
  rw [Decoder.openedBody, e.decodeBody_within t n h]
  cases e.unsealedAt t body with
  | none => rfl
  | some payload => exact congrArg (fun b => [b]) (List.take_left' h)

theorem opened_between_of_lt (t : Nat) {buffer : Bytes} (h : buffer.length < headerSize) :
    (e.between t buffer).opened = [] := by
  have live : (e.between t buffer).opener.isErased = false := e.isErased_used t
  rw [Decoder.opened, live]
  exact if_pos h

theorem opened_between (t : Nat) {header : Bytes} (h : header.length = headerSize) (rest : Bytes) :
    (e.between t (header ++ rest)).opened = match e.unsealedAt t header with
      | some text => header :: (e.within (t + 1) (Bytes.toNatBE text) rest).opened
      | none => [] := by
  have live : (e.between t (header ++ rest)).opener.isErased = false := e.isErased_used t
  have enough : ¬(header ++ rest).length < headerSize := by
    rw [List.length_append]
    omega
  rw [Decoder.opened, live]
  simp only [between, ← h, List.take_left, List.drop_left] at enough ⊢
  rw [if_neg enough, e.decryptLength_opener t h]
  cases e.unsealedAt t header with
  | none => rfl
  | some text =>
      have live : (e.within (t + 1) (Bytes.toNatBE text) rest).opener.isErased = false := e.isErased_used (t + 1)
      simp only [Decoder.opened, live]
      rfl

/-- Headers and bodies that open in turn under the schedule, and the payloads of the bodies. -/
inductive InTurn : (opened payloads : List Bytes) → Prop
  | nil : InTurn [] []
  | header {opened payloads : List Bytes} {x text : Bytes} (h : InTurn opened payloads)
      (even : opened.length = 2 * payloads.length) (hx : e.unsealedAt opened.length x = some text) :
      InTurn (opened ++ [x]) payloads
  | body {opened payloads : List Bytes} {x payload : Bytes} (h : InTurn opened payloads)
      (odd : opened.length = 2 * payloads.length + 1) (hx : e.unsealedAt opened.length x = some payload) :
      InTurn (opened ++ [x]) (payloads ++ [payload])

variable {e}

theorem exists_unsealedAt_of_append {opened : List Bytes} {x text : Bytes}
    (ih : ∀ (t : Nat) (y : Bytes), opened[t]? = some y → ∃ text, e.unsealedAt t y = some text)
    (hx : e.unsealedAt opened.length x = some text) (t : Nat) (y : Bytes) (h : (opened ++ [x])[t]? = some y) :
    ∃ text, e.unsealedAt t y = some text := by
  rw [List.getElem?_append] at h
  split at h
  · exact ih t y h
  · rw [List.getElem?_singleton] at h
    split at h
    · obtain rfl := Option.some.inj h
      obtain rfl : t = opened.length := by omega
      exact ⟨text, hx⟩
    · exact absurd h (by simp)

theorem InTurn.exists_unsealedAt {opened payloads : List Bytes} (h : e.InTurn opened payloads) :
    ∀ (t : Nat) (x : Bytes), opened[t]? = some x → ∃ text, e.unsealedAt t x = some text := by
  induction h with
  | nil => exact fun t x h => absurd h (by simp)
  | header _ _ hx ih => exact exists_unsealedAt_of_append ih hx
  | body _ _ hx ih => exact exists_unsealedAt_of_append ih hx

end Epoch

inductive Decoder.Input where
  | feed (b : Bytes)
  | next

/-- A decoder, all that it was fed, the sealed texts that it has opened, and the payloads that it has returned. -/
structure Reception (S : Suite) where
  decoder : Decoder S
  fed : Bytes
  opened : List Bytes
  payloads : List Bytes

namespace Reception

def start (d : Decoder S) : Reception S := ⟨d, [], [], []⟩

def taken : Except LinkError Bytes → List Bytes
  | .ok payload => [payload]
  | .error _ => []

def step (r : Reception S) : Decoder.Input → Reception S
  | .feed b => { r with decoder := r.decoder.feed b, fed := r.fed ++ b }
  | .next =>
    { r with
      decoder := r.decoder.next.2
      opened := r.opened ++ r.decoder.opened
      payloads := r.payloads ++ taken r.decoder.next.1 }

def run (r : Reception S) (inputs : List Decoder.Input) : Reception S := inputs.foldl step r

/-- Nothing is lost between what was opened and what is buffered, until a text fails to open. -/
inductive Sound (e : Epoch S) : Reception S → Prop
  | between {buffer fed : Bytes} {opened payloads : List Bytes} (turn : e.InTurn opened payloads)
      (even : opened.length = 2 * payloads.length) (all : opened.flatten ++ buffer = fed) :
      Sound e ⟨e.between opened.length buffer, fed, opened, payloads⟩
  | within {n : Nat} {buffer fed : Bytes} {opened payloads : List Bytes} (turn : e.InTurn opened payloads)
      (odd : opened.length = 2 * payloads.length + 1) (all : opened.flatten ++ buffer = fed) :
      Sound e ⟨e.within opened.length n buffer, fed, opened, payloads⟩
  | failed {d : Decoder S} {fed : Bytes} {opened payloads : List Bytes} (turn : e.InTurn opened payloads)
      (erased : d.opener.isErased = true) (part : opened.flatten <+: fed) : Sound e ⟨d, fed, opened, payloads⟩

variable {e : Epoch S}

theorem Sound.inTurn {r : Reception S} (h : Sound e r) : e.InTurn r.opened r.payloads := by
  cases h with
  | between turn | within turn | failed turn => exact turn

theorem Sound.flatten_prefix {r : Reception S} (h : Sound e r) : r.opened.flatten <+: r.fed := by
  cases h with
  | between _ _ all | within _ _ all => exact ⟨_, all⟩
  | failed _ _ part => exact part

theorem Sound.feed {r : Reception S} (h : Sound e r) (b : Bytes) : Sound e (r.step (.feed b)) := by
  cases h with
  | between turn even all =>
      refine .between turn even ?_
      rw [← all, List.append_assoc]
      rfl
  | within turn odd all =>
      refine .within turn odd ?_
      rw [← all, List.append_assoc]
      rfl
  | failed turn erased part => exact .failed turn erased (part.trans (List.prefix_append _ _))

theorem Sound.next_within {n : Nat} {buffer fed : Bytes} {opened payloads : List Bytes}
    (turn : e.InTurn opened payloads) (odd : opened.length = 2 * payloads.length + 1)
    (all : opened.flatten ++ buffer = fed) :
    Sound e (step ⟨e.within opened.length n buffer, fed, opened, payloads⟩ .next) := by
  by_cases short : buffer.length < n + macSize
  · simp only [step, e.next_within_of_lt _ _ short, e.opened_within_of_lt _ _ short, taken, List.append_nil]
    exact .within turn odd all
  · obtain ⟨body, rest, rfl, hb⟩ := exists_append_of_le (Nat.le_of_not_lt short)
    simp only [step, e.next_within _ _ hb, e.opened_within _ _ hb]
    cases hx : e.unsealedAt opened.length body with
    | none =>
        simp only [taken, List.append_nil]
        exact .failed turn rfl ⟨_, all⟩
    | some payload =>
        have all' : (opened ++ [body]).flatten ++ rest = fed := by
          simpa using all
        have even : (opened ++ [body]).length = 2 * (payloads ++ [payload]).length := by
          simp [odd]
          omega
        have result := Sound.between (.body turn odd hx) even all'
        rw [List.length_append] at result
        exact result

theorem Sound.next {r : Reception S} (h : Sound e r) : Sound e (r.step .next) := by
  cases h with
  | @between buffer fed opened payloads turn even all =>
      by_cases short : buffer.length < headerSize
      · simp only [step, e.next_between_of_lt _ short, e.opened_between_of_lt _ short, taken, List.append_nil]
        exact .between turn even all
      · obtain ⟨header, rest, rfl, hh⟩ := exists_append_of_le (Nat.le_of_not_lt short)
        simp only [step, e.next_between _ hh, e.opened_between _ hh]
        cases hx : e.unsealedAt opened.length header with
        | none =>
            simp only [taken, List.append_nil]
            exact .failed turn rfl ⟨_, all⟩
        | some text =>
            -- one call may open a header and its body, so the case of a body takes over here
            have all' : (opened ++ [header]).flatten ++ rest = fed := by
              simpa using all
            have odd : (opened ++ [header]).length = 2 * payloads.length + 1 := by
              simp [even]
            have result := Sound.next_within (n := Bytes.toNatBE text) (.header turn even hx) odd all'
            simp only [step, List.length_append, List.length_singleton, List.append_assoc] at result
            exact result
  | within turn odd all => exact .next_within turn odd all
  | failed turn erased part =>
      simp only [step, Decoder.next_of_isErased erased, Decoder.opened, erased, if_true, taken, List.append_nil]
      exact .failed turn erased part

theorem Sound.run {r : Reception S} (h : Sound e r) (inputs : List Decoder.Input) : Sound e (r.run inputs) := by
  induction inputs generalizing r with
  | nil => exact h
  | cons input inputs ih =>
      cases input with
      | feed b => exact ih (h.feed b)
      | next => exact ih h.next

end Reception

def Epoch.reception (e : Epoch S) (inputs : List Decoder.Input) : Reception S :=
  (Reception.start (.new ⟨.ofKey e.key e.chain⟩)).run inputs

theorem Epoch.sound_reception (e : Epoch S) (inputs : List Decoder.Input) : Reception.Sound e (e.reception inputs) := by
  have fresh : Reception.Sound e (.start (.new ⟨.ofKey e.key e.chain⟩)) := .between .nil rfl rfl
  exact fresh.run inputs

end NoiseLink
