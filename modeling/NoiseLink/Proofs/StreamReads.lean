import NoiseLink.Proofs.RecordScripts

namespace NoiseLink

variable {S : Suite}

namespace Arrival

@[simp] theorem bytes_nil : bytes [] = [] := rfl

@[simp] theorem bytes_data (b : Bytes) (rest : List Arrival) : bytes (.data b :: rest) = b ++ bytes rest := rfl

@[simp] theorem bytes_pause (rest : List Arrival) : bytes (.pause :: rest) = bytes rest := rfl

@[simp] theorem bytes_finish (rest : List Arrival) : bytes (.finish :: rest) = bytes rest := rfl

theorem bytes_append (first second : List Arrival) : bytes (first ++ second) = bytes first ++ bytes second :=
  List.flatMap_append

end Arrival

namespace Reader

section Polls

variable {d d' : Decoder S}

theorem poll_of_ok {payload : Bytes} (h : d.next = (.ok payload, d')) : poll d = (.ok (some payload), d') := by
  rw [poll, h]

theorem poll_of_missing {n : Nat} (h : d.next = (.error (.missingBytes n), d')) : poll d = (.ok none, d') := by
  rw [poll, h]

theorem poll_of_fatal {e : LinkError} (h : d.next = (.error e, d')) (fatal : e.isFatal = true) :
    poll d = (.error (.link e), d'.erase) := by
  rw [poll, h]
  cases e with
  | missingBytes => cases fatal
  | _ => rfl

variable (patient : Bool)

theorem readFrom_of_ok {payload : Bytes} (h : d.next = (.ok payload, d')) (arrivals : List Arrival) :
    readFrom patient d arrivals = (.frame payload, ⟨d', arrivals⟩) := by
  cases arrivals <;> simp only [readFrom, poll_of_ok h]

theorem readFrom_of_fatal {e : LinkError} (h : d.next = (.error e, d')) (fatal : e.isFatal = true)
    (arrivals : List Arrival) : readFrom patient d arrivals = (.failed (.link e), ⟨d'.erase, arrivals⟩) := by
  cases arrivals <;> simp only [readFrom, poll_of_fatal h fatal]

variable {n : Nat} (h : d.next = (.error (.missingBytes n), d')) (rest : List Arrival)
include h

theorem readFrom_data (b : Bytes) : readFrom patient d (.data b :: rest) = readFrom patient (d'.feed b) rest := by
  simp only [readFrom, poll_of_missing h]

theorem readFrom_pause :
    readFrom patient d (.pause :: rest) =
      if patient = true then readFrom patient d' rest else (.waiting, ⟨d', rest⟩) := by
  simp only [readFrom, poll_of_missing h]

theorem readFrom_finish :
    readFrom patient d (.finish :: rest) = (.failed (Decoder.ending (none, d')), ⟨d', .finish :: rest⟩) := by
  simp only [readFrom, poll_of_missing h, Decoder.ending]
  cases d'.finish <;> rfl

end Polls

def before (d : Decoder S) (arrivals : List Arrival) : Reader S := ⟨d, arrivals ++ [.finish]⟩

/-- All that reading to the end gives, once everything has arrived. -/
def outcome (d : Decoder S) (arrivals : List Arrival) : List Bytes × StreamError :=
  ((d.feed (Arrival.bytes arrivals)).drain.1, Decoder.ending (d.feed (Arrival.bytes arrivals)).drain.2)

theorem available_before (d : Decoder S) (arrivals : List Arrival) :
    (before d arrivals).available = d.buffer.length + (Arrival.bytes arrivals).length := by
  simp [available, before, Arrival.bytes_append]

section Outcomes

variable {d d' : Decoder S} {arrivals : List Arrival}

theorem outcome_of_ok {payload : Bytes} (h : d.next = (.ok payload, d')) :
    outcome d arrivals = (payload :: (outcome d' arrivals).1, (outcome d' arrivals).2) := by
  rw [outcome, Decoder.drain_feed_of_ok h]
  rfl

theorem outcome_of_missing {n : Nat} (h : d.next = (.error (.missingBytes n), d')) :
    outcome d arrivals = outcome d' arrivals := by
  rw [outcome, Decoder.drain_feed_of_missing h]
  rfl

theorem outcome_of_fatal {e : LinkError} (h : d.next = (.error e, d')) (fatal : e.isFatal = true) :
    outcome d arrivals = ([], .link e) := by
  rw [outcome, Decoder.drain_feed_of_fatal h fatal]
  rfl

theorem outcome_data (d : Decoder S) (b : Bytes) (arrivals : List Arrival) :
    outcome d (.data b :: arrivals) = outcome (d.feed b) arrivals := by
  simp only [outcome, Arrival.bytes_data, Decoder.feed_feed]

theorem outcome_nil_of_missing {n : Nat} (h : d.next = (.error (.missingBytes n), d')) :
    outcome d [] = ([], Decoder.ending (none, d')) := by
  rw [outcome, Arrival.bytes_nil, Decoder.feed_nil, Decoder.drain_of_missing h]

end Outcomes

/-- What one read makes of a decoder and of the arrivals before it. -/
inductive Took (patient : Bool) (d : Decoder S) (arrivals : List Arrival) : Reading → Reader S → Prop
  | frame {payload : Bytes} {d' : Decoder S} {rest : List Arrival}
      (first : outcome d arrivals = (payload :: (outcome d' rest).1, (outcome d' rest).2))
      (less : (before d' rest).available < (before d arrivals).available) (suffix : rest <:+ arrivals) :
      Took patient d arrivals (.frame payload) (before d' rest)
  | waiting {d' : Decoder S} {rest : List Arrival} (impatient : patient = false)
      (same : outcome d arrivals = outcome d' rest) (le : (before d' rest).available ≤ (before d arrivals).available)
      (suffix : rest <:+ arrivals) (less : rest.length < arrivals.length) :
      Took patient d arrivals .waiting (before d' rest)
  | failed {e : StreamError} {r : Reader S} (last : outcome d arrivals = ([], e)) :
      Took patient d arrivals (.failed e) r

theorem Took.of_ok {patient : Bool} {d d' : Decoder S} {payload : Bytes} (found : d.next = (.ok payload, d'))
    {arrivals : List Arrival} : Took patient d arrivals (.frame payload) (before d' arrivals) := by
  refine .frame (outcome_of_ok found) ?_ List.suffix_rfl
  have shorter := (Decoder.Read.of_next found).length_lt rfl
  simpa only [available_before, Nat.add_lt_add_iff_right] using shorter

theorem Took.earlier {patient : Bool} {d d₁ : Decoder S} {arrivals arrivals₁ : List Arrival} {x : Reading}
    {r : Reader S} (h : Took patient d₁ arrivals₁ x r) (same : outcome d arrivals = outcome d₁ arrivals₁)
    (le : (before d₁ arrivals₁).available ≤ (before d arrivals).available) (suffix : arrivals₁ <:+ arrivals) :
    Took patient d arrivals x r := by
  cases h with
  | frame first less suffix' => exact .frame (same.trans first) (Nat.lt_of_lt_of_le less le) (suffix'.trans suffix)
  | waiting impatient same' le' suffix' less =>
      exact .waiting impatient (same.trans same') (Nat.le_trans le' le) (suffix'.trans suffix)
        (Nat.lt_of_lt_of_le less suffix.length_le)
  | failed last => exact .failed (same.trans last)

theorem took_readFrom (patient : Bool) (d : Decoder S) {arrivals : List Arrival} (ongoing : .finish ∉ arrivals) :
    Took patient d arrivals (readFrom patient d (arrivals ++ [.finish])).1
      (readFrom patient d (arrivals ++ [.finish])).2 := by
  induction arrivals generalizing d with
  | nil =>
      obtain ⟨payload, d', found⟩ | ⟨n, d', found⟩ | ⟨e, d', fatal, found⟩ := d.next_cases
      · rw [readFrom_of_ok patient found]
        exact .of_ok found
      · rw [List.nil_append, readFrom_finish patient found]
        exact .failed (outcome_nil_of_missing found)
      · rw [readFrom_of_fatal patient found fatal]
        exact .failed (outcome_of_fatal found fatal)
  | cons a arrivals ih =>
      rw [List.mem_cons, not_or] at ongoing
      obtain ⟨later, ongoing⟩ := ongoing
      obtain ⟨payload, d', found⟩ | ⟨n, d', found⟩ | ⟨e, d', fatal, found⟩ := d.next_cases
      · rw [readFrom_of_ok patient found]
        exact .of_ok found
      · have shorter := (Decoder.Read.of_next found).length_le
        have same : outcome d (a :: arrivals) = outcome d' (a :: arrivals) := outcome_of_missing found
        cases a with
        | finish => exact absurd rfl later
        | data b =>
            rw [List.cons_append, readFrom_data patient found]
            refine (ih (d'.feed b) ongoing).earlier (same.trans (outcome_data ..)) ?_ (List.suffix_cons _ _)
            simp only [available_before, Arrival.bytes_data, Decoder.feed, List.length_append]
            omega
        | pause =>
            have le : (before d' arrivals).available ≤ (before d (.pause :: arrivals)).available := by
              simpa only [available_before, Arrival.bytes_pause, Nat.add_le_add_iff_right] using shorter
            rw [List.cons_append, readFrom_pause patient found]
            cases patient with
            | true => exact (ih d' ongoing).earlier same le (List.suffix_cons _ _)
            | false => exact .waiting rfl same le (List.suffix_cons _ _) (Nat.lt_succ_self _)
      · rw [readFrom_of_fatal patient found fatal]
        exact .failed (outcome_of_fatal found fatal)

/-- Reads until the first error, each patient or not. A read that returns with nothing is made good by the next. -/
def mix : List Bool → Reader S → List Bytes × Option StreamError
  | [], _ => ([], none)
  | patient :: choices, r =>
    match if patient then r.readFrame else r.tryReadFrame with
    | (.frame payload, r) => (payload :: (mix choices r).1, (mix choices r).2)
    | (.waiting, r) => mix choices r
    | (.failed e, _) => ([], some e)

theorem took (patient : Bool) (d : Decoder S) {arrivals : List Arrival} (ongoing : .finish ∉ arrivals) :
    let r := if patient then (before d arrivals).readFrame else (before d arrivals).tryReadFrame
    Took patient d arrivals r.1 r.2 := by
  cases patient with
  | true => exact took_readFrom true d ongoing
  | false => exact took_readFrom false d ongoing

/-- Every read takes something of what is left, whether bytes or a pause, until there is an error. -/
theorem mix_eq (d : Decoder S) {arrivals : List Arrival} (ongoing : .finish ∉ arrivals) {choices : List Bool}
    (enough : (before d arrivals).available + arrivals.length < choices.length) :
    mix choices (before d arrivals) = ((outcome d arrivals).1, some (outcome d arrivals).2) := by
  -- the bytes and the arrivals that are left go down with each read
  induction choices generalizing d arrivals with
  | nil => exact absurd enough (Nat.not_lt_zero _)
  | cons patient choices ih =>
      have took := took patient d ongoing
      rw [List.length_cons] at enough
      rw [mix]
      generalize (if patient then (before d arrivals).readFrame else (before d arrivals).tryReadFrame) = r at took
      obtain ⟨x, r⟩ := r
      cases took with
      | @frame payload d' rest first less suffix =>
          have few := suffix.length_le
          have later := ih d' (fun mem => ongoing (suffix.mem mem)) (by omega)
          rw [first]
          exact congrArg (fun o : List Bytes × Option StreamError => (payload :: o.1, o.2)) later
      | @waiting d' rest impatient same le suffix less =>
          have later := ih d' (fun mem => ongoing (suffix.mem mem)) (by omega)
          rw [same]
          exact later
      | failed last => simp only [last]

theorem collect_readFrame (d : Decoder S) {arrivals : List Arrival} (ongoing : .finish ∉ arrivals) {fuel : Nat}
    (enough : (before d arrivals).available < fuel) :
    (collect readFrame fuel (before d arrivals)).1 = (outcome d arrivals).1 ∧
      (collect readFrame fuel (before d arrivals)).2.1 = .failed (outcome d arrivals).2 := by
  induction fuel generalizing d arrivals with
  | zero => exact absurd enough (Nat.not_lt_zero _)
  | succ fuel ih =>
      have took : Took true d arrivals (before d arrivals).readFrame.1 (before d arrivals).readFrame.2 :=
        took_readFrom true d ongoing
      rw [collect]
      generalize (before d arrivals).readFrame = r at took
      obtain ⟨x, r⟩ := r
      cases took with
      | @frame payload d' rest first less suffix =>
          obtain ⟨payloads, last⟩ := ih d' (fun mem => ongoing (suffix.mem mem)) (by omega)
          rw [first]
          exact ⟨congrArg (List.cons payload) payloads, last⟩
      | waiting impatient => cases impatient
      | failed last =>
          simp only [last]
          exact ⟨trivial, trivial⟩

end Reader
end NoiseLink
