import NoiseLink.Proofs.Chunking
import NoiseLink.Proofs.RecordFlow
import NoiseLink.Stream.Basic

namespace NoiseLink

variable {S : Suite}

/-- How a script ends: where an act or a record would begin, inside one, or with one that is no good. -/
inductive Halt where
  | between
  | inside (expected received : Nat)
  | rejected (e : NoiseError)

def Halt.error : Halt → StreamError
  | between => .socketClosed
  | inside expected received => .link (.truncatedRecord expected received)
  | rejected e => .link (.noise e)

def Decoder.ending : Stop × Decoder S → StreamError
  | (some e, _) => .link e
  | (none, d) =>
    match d.finish with
    | .error e => .link e
    | .ok () => .socketClosed

namespace Epoch

variable (e : Epoch S)

inductive Opens : (t : Nat) → (records payloads : List Bytes) → Prop
  | nil {t : Nat} : Opens t [] []
  | cons {t : Nat} {header text body payload : Bytes} {records payloads : List Bytes}
      (size : header.length = headerSize) (length : e.unsealedAt t header = some text)
      (fits : body.length = Bytes.toNatBE text + macSize) (opened : e.unsealedAt (t + 1) body = some payload)
      (later : Opens (t + 2) records payloads) : Opens t ((header ++ body) :: records) (payload :: payloads)

inductive Stops (t : Nat) : Bytes → Halt → Prop
  | between : Stops t [] .between
  | insideHeader {part : Bytes} (some : part ≠ []) (short : part.length < headerSize) :
      Stops t part (.inside headerSize part.length)
  | insideBody {header text part : Bytes} (size : header.length = headerSize)
      (length : e.unsealedAt t header = some text) (short : part.length < Bytes.toNatBE text + macSize) :
      Stops t (header ++ part)
        (.inside (headerSize + (Bytes.toNatBE text + macSize)) (header ++ part).length)
  | badHeader {header rest : Bytes} (size : header.length = headerSize) (forged : e.unsealedAt t header = none) :
      Stops t (header ++ rest) (.rejected (.authenticationFailed .recordLength))
  | badBody {header text body rest : Bytes} (size : header.length = headerSize)
      (length : e.unsealedAt t header = some text) (fits : body.length = Bytes.toNatBE text + macSize)
      (forged : e.unsealedAt (t + 1) body = none) :
      Stops t (header ++ (body ++ rest)) (.rejected (.authenticationFailed .recordBody))

/-- The script is the records that open, and then `rest`. -/
structure Holds (t : Nat) (script : Bytes) (records payloads : List Bytes) (rest : Bytes) (halt : Halt) : Prop where
  whole : script = records.flatten ++ rest
  opens : e.Opens t records payloads
  stops : e.Stops (t + 2 * records.length) rest halt

variable {e}

theorem Opens.length_eq {t : Nat} {records payloads : List Bytes} (h : e.Opens t records payloads) :
    records.length = payloads.length := by
  induction h with
  | nil => rfl
  | cons _ _ _ _ _ ih => exact congrArg Nat.succ ih

theorem texts_before_cons (t : Nat) (record : Bytes) (records : List Bytes) :
    t + 2 * (record :: records).length = t + 2 + 2 * records.length := by
  rw [List.length_cons]
  omega

theorem Holds.cons {t : Nat} {header text body payload script rest : Bytes} {records payloads : List Bytes} {halt : Halt}
    (size : header.length = headerSize) (length : e.unsealedAt t header = some text)
    (fits : body.length = Bytes.toNatBE text + macSize) (opened : e.unsealedAt (t + 1) body = some payload)
    (later : e.Holds (t + 2) script records payloads rest halt) :
    e.Holds t (header ++ (body ++ script)) ((header ++ body) :: records) (payload :: payloads) rest halt where
  whole := by
    rw [later.whole, List.flatten_cons]
    simp only [List.append_assoc]
  opens := .cons size length fits opened later.opens
  stops := by
    rw [texts_before_cons]
    exact later.stops

theorem Holds.of_stops {t : Nat} {rest : Bytes} {halt : Halt} (h : e.Stops t rest halt) : e.Holds t rest [] [] rest halt :=
  ⟨rfl, .nil, h⟩

theorem exists_holds (t : Nat) (script : Bytes) :
    ∃ records payloads rest halt, e.Holds t script records payloads rest halt := by
  induction size : script.length using Nat.strong_induction_on generalizing t script with
  | _ n ih =>
      subst size
      by_cases short : script.length < headerSize
      · by_cases empty : script = []
        · exact ⟨_, _, _, _, .of_stops (empty ▸ Stops.between)⟩
        · exact ⟨_, _, _, _, .of_stops (.insideHeader empty short)⟩
      · obtain ⟨header, script, rfl, hh⟩ := exists_append_of_le (Nat.le_of_not_lt short)
        cases length : e.unsealedAt t header with
        | none => exact ⟨_, _, _, _, .of_stops (.badHeader hh length)⟩
        | some text =>
            by_cases short : script.length < Bytes.toNatBE text + macSize
            · exact ⟨_, _, _, _, .of_stops (.insideBody hh length short)⟩
            · obtain ⟨body, script, rfl, hb⟩ := exists_append_of_le (Nat.le_of_not_lt short)
              cases opened : e.unsealedAt (t + 1) body with
              | none => exact ⟨_, _, _, _, .of_stops (.badBody hh length hb opened)⟩
              | some payload =>
                  have shorter : script.length < (header ++ (body ++ script)).length := by
                    have positive : 0 < headerSize := by decide
                    simp only [List.length_append, hh]
                    omega
                  obtain ⟨records, payloads, rest, halt, later⟩ := ih _ shorter (t + 2) script rfl
                  exact ⟨_, _, _, _, .cons hh length hb opened later⟩

variable (e) in
theorem finish_between (t : Nat) {part : Bytes} (some : part ≠ []) :
    (e.between t part).finish = .error (.truncatedRecord headerSize part.length) :=
  if_neg some

theorem Stops.drain {t : Nat} {rest : Bytes} {halt : Halt} (h : e.Stops t rest halt) :
    (e.between t rest).drain.1 = [] ∧ Decoder.ending (e.between t rest).drain.2 = halt.error := by
  cases h with
  | between =>
      have short : ([] : Bytes).length < headerSize := by decide
      rw [Decoder.drain_of_missing (e.next_between_of_lt t short)]
      exact ⟨rfl, rfl⟩
  | insideHeader some short =>
      rw [Decoder.drain_of_missing (e.next_between_of_lt t short)]
      simp only [Decoder.ending, e.finish_between t some]
      exact ⟨trivial, rfl⟩
  | @insideBody header text part size length short =>
      have found := e.next_between t size part
      rw [length] at found
      rw [Decoder.drain_of_missing (found.trans (e.next_within_of_lt _ _ short)), Halt.error, List.length_append, size]
      exact ⟨rfl, rfl⟩
  | @badHeader header rest size forged =>
      have found := e.next_between t size rest
      rw [forged] at found
      rw [Decoder.drain_of_fatal found rfl]
      exact ⟨rfl, rfl⟩
  | @badBody header text body rest size length fits forged =>
      have found := e.next_between t size (body ++ rest)
      have failed := e.next_within (t + 1) _ fits rest
      rw [length] at found
      rw [forged] at failed
      rw [Decoder.drain_of_fatal (found.trans failed) rfl]
      exact ⟨rfl, rfl⟩

theorem Opens.drain {t : Nat} {records payloads : List Bytes} (h : e.Opens t records payloads) (rest : Bytes) :
    (e.between t (records.flatten ++ rest)).drain =
      (payloads ++ (e.between (t + 2 * records.length) rest).drain.1,
        (e.between (t + 2 * records.length) rest).drain.2) := by
  induction h with
  | nil => rfl
  | @cons t header text body payload records payloads size length fits opened later ih =>
      have found := e.next_between t size (body ++ (records.flatten ++ rest))
      have returned := e.next_within (t + 1) _ fits (records.flatten ++ rest)
      rw [length] at found
      rw [opened] at returned
      rw [List.flatten_cons, List.append_assoc, List.append_assoc, Decoder.drain_of_ok (found.trans returned), ih,
        texts_before_cons]
      rfl

theorem Holds.drain {t : Nat} {script rest : Bytes} {records payloads : List Bytes} {halt : Halt}
    (h : e.Holds t script records payloads rest halt) :
    (e.between t script).drain.1 = payloads ∧ Decoder.ending (e.between t script).drain.2 = halt.error := by
  obtain ⟨none, ends⟩ := h.stops.drain
  rw [h.whole, h.opens.drain, none, List.append_nil]
  exact ⟨rfl, ends⟩

theorem opens_records (sealing : S.Sealing) (i : Nat) {ps : List Bytes} (fits : ∀ p ∈ ps, p.length ≤ maxMessageSize) :
    e.Opens (2 * i) (e.records i ps) ps := by
  induction ps generalizing i with
  | nil => exact .nil
  | cons p ps ih =>
      obtain ⟨hp, hps⟩ := List.forall_mem_cons.1 fits
      refine .cons (e.length_header sealing i p) (e.unsealedAt_header sealing.opens i p) ?_
        (e.unsealedAt_body sealing.opens i p) (ih (i + 1) hps)
      rw [e.length_body sealing, toNatBE_length hp]

end Epoch
end NoiseLink
