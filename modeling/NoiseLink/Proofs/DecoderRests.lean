import NoiseLink.Proofs.DecoderAccounts
import NoiseLink.Proofs.RecordScripts

namespace NoiseLink.Epoch

variable {S : Suite} {e : Epoch S}

theorem Opens.concat {t : Nat} {records payloads : List Bytes} (h : e.Opens t records payloads)
    {header text body payload : Bytes} (size : header.length = headerSize)
    (told : e.unsealedAt (t + 2 * records.length) header = some text) (fits : body.length = Bytes.toNatBE text + macSize)
    (opened : e.unsealedAt (t + 2 * records.length + 1) body = some payload) :
    e.Opens t (records ++ [header ++ body]) (payloads ++ [payload]) := by
  induction h with
  | nil => exact .cons size told fits opened .nil
  | cons size' told' fits' opened' later ih =>
      rw [texts_before_cons] at told opened
      exact .cons size' told' fits' opened' (ih told opened)

variable (e) in
/-- A decoder that `bytes` have reached, and that has returned these payloads. -/
inductive Reached (bytes : Bytes) (payloads : List Bytes) : Decoder S → Prop
  | between {records : List Bytes} {rest : Bytes} (whole : bytes = records.flatten ++ rest)
      (opens : e.Opens 0 records payloads) : Reached bytes payloads (e.between (2 * records.length) rest)
  | within {records : List Bytes} {header text part : Bytes} (whole : bytes = records.flatten ++ (header ++ part))
      (opens : e.Opens 0 records payloads) (size : header.length = headerSize)
      (told : e.unsealedAt (2 * records.length) header = some text) :
      Reached bytes payloads (e.within (2 * records.length + 1) (Bytes.toNatBE text) part)

variable (e) in
inductive Reached.Next (bytes : Bytes) (payloads : List Bytes) : Except LinkError Bytes × Decoder S → Prop
  | payload {p : Bytes} {d : Decoder S} (reached : e.Reached bytes (payloads ++ [p]) d) : Next bytes payloads (.ok p, d)
  | missing {n : Nat} {d : Decoder S} (reached : e.Reached bytes payloads d) :
      Next bytes payloads (.error (.missingBytes n), d)
  | failed {err : LinkError} (fatal : err.isFatal = true) (d : Decoder S) : Next bytes payloads (.error err, d)

variable {bytes : Bytes} {payloads : List Bytes} {d : Decoder S}

theorem Reached.feed (h : e.Reached bytes payloads d) (b : Bytes) : e.Reached (bytes ++ b) payloads (d.feed b) := by
  cases h with
  | @between records rest whole opens =>
      have whole' : bytes ++ b = records.flatten ++ (rest ++ b) := by rw [whole, List.append_assoc]
      exact .between whole' opens
  | @within records header text part whole opens size told =>
      have whole' : bytes ++ b = records.flatten ++ (header ++ (part ++ b)) := by
        rw [whole, List.append_assoc, List.append_assoc]
      exact .within whole' opens size told

theorem Reached.next_body {records : List Bytes} {header text part : Bytes}
    (whole : bytes = records.flatten ++ (header ++ part)) (opens : e.Opens 0 records payloads)
    (size : header.length = headerSize) (told : e.unsealedAt (2 * records.length) header = some text)
    {r : Except LinkError Bytes × Decoder S} {uses : List (Use S)}
    (poll : e.PollBody (2 * records.length + 1) (Bytes.toNatBE text) part r uses) :
    Reached.Next e bytes payloads r := by
  cases poll with
  | await => exact .missing (.within whole opens size told)
  | bad => exact .failed rfl _
  | @body body payload rest fits opened =>
      have returned : e.Opens 0 (records ++ [header ++ body]) (payloads ++ [payload]) :=
        opens.concat size (by rw [Nat.zero_add]; exact told) fits (by rw [Nat.zero_add]; exact opened)
      have count : 2 * records.length + 1 + 1 = 2 * (records ++ [header ++ body]).length := by
        rw [List.length_append, List.length_singleton]
        omega
      rw [count]
      refine .payload (.between ?_ returned)
      rw [whole, List.flatten_append, List.flatten_singleton]
      simp only [List.append_assoc]

theorem Reached.next (h : e.Reached bytes payloads d) : Reached.Next e bytes payloads d.next := by
  cases h with
  | @within records header text part whole opens size told =>
      exact next_body whole opens size told (e.pollBody _ _ part)
  | @between records rest whole opens =>
      have poll := e.pollHeader (2 * records.length) rest
      generalize (e.between (2 * records.length) rest).next = r,
        (e.between (2 * records.length) rest).uses = uses at poll
      cases poll with
      | await => exact .missing (.between whole opens)
      | bad => exact .failed rfl _
      | header size told body => exact next_body whole opens size told body

structure Verdict (e : Epoch S) (bytes : Bytes) (payloads records : List Bytes) (rest : Bytes)
    (verdict : Except LinkError Unit) : Prop where
  whole : bytes = records.flatten ++ rest
  opens : e.Opens 0 records payloads
  complete : verdict = .ok () ↔ bytes = records.flatten
  truncated : bytes ≠ records.flatten → ∃ expected,
    verdict = .error (.truncatedRecord expected rest.length) ∧ rest.length < expected ∧
    (rest.length < 18 → expected = 18) ∧
    (18 ≤ rest.length → ∃ text, e.unsealedAt (2 * records.length) (rest.take 18) = some text ∧
      expected = 18 + Bytes.toNatBE text + 16)

/-- No more than an incomplete record is behind them once a read has asked for more. -/
theorem Reached.verdict (h : e.Reached bytes payloads d) (short : d.Short) :
    ∃ records rest, e.Verdict bytes payloads records rest d.finish := by
  cases h with
  | @between records rest whole opens =>
      refine ⟨records, rest, whole, opens, ?_, fun more => ?_⟩
      · rw [whole, List.append_right_eq_self]
        constructor
        · intro complete
          by_contra some
          rw [e.finish_between _ some] at complete
          cases complete
        · rintro rfl
          rfl
      · have some : rest ≠ [] := fun none => more (whole.trans (List.append_right_eq_self.2 none))
        exact ⟨18, e.finish_between _ some, short, fun _ => rfl, fun long => absurd short (Nat.not_lt.2 long)⟩
  | @within records header text part whole opens size told =>
      have long : 18 ≤ (header ++ part).length := by
        rw [List.length_append, size]
        exact Nat.le_add_right _ _
      refine ⟨records, header ++ part, whole, opens, ⟨nofun, fun complete => ?_⟩, fun _ => ?_⟩
      · rw [whole, List.append_right_eq_self] at complete
        rw [complete] at long
        cases long
      · refine ⟨18 + Bytes.toNatBE text + 16, ?_, ?_, fun few => absurd few (Nat.not_lt.2 long), fun _ => ?_⟩
        · rw [List.length_append, size]
          rfl
        · have less : part.length < Bytes.toNatBE text + macSize := short
          rw [List.length_append, size, headerSize, lengthSize]
          rw [macSize] at less ⊢
          omega
        · have eighteen : header.length = 18 := size
          rw [List.take_left' eighteen]
          exact ⟨text, told, rfl⟩

end NoiseLink.Epoch
