import Mathlib.Tactic.Common
import Mathlib.Tactic.Ring
import NoiseLink.Duration

namespace NoiseLink.Duration

open Document

def names : List (String × Nat) :=
  [("seconds", 10 ^ 9), ("secs", 10 ^ 9), ("s", 10 ^ 9),
    ("milliseconds", 10 ^ 6), ("millis", 10 ^ 6), ("ms", 10 ^ 6),
    ("microseconds", 10 ^ 3), ("micros", 10 ^ 3), ("us", 10 ^ 3),
    ("nanoseconds", 1), ("nanos", 1), ("ns", 1)]

/-- What `v` units of the name `u` are as a duration. -/
inductive Means (u : String) (v : Nat) : Except ReadError Duration → Prop
  | known {f : Nat} {d : Duration} (name : (u, f) ∈ names) (word : d.secs < 2 ^ 64) (part : d.nanos < 10 ^ 9)
      (exact : d.secs * 10 ^ 9 + d.nanos = v * f) : Means u v (.ok d)
  | unknown (other : ∀ f, (u, f) ∉ names) : Means u v (.error (.other ("Unsupported duration unit `" ++ u ++ "`")))

def Fills (size : UInt64) (f : Nat) : Prop := size.toNat * f = 10 ^ 9

instance (size : UInt64) (f : Nat) : Decidable (Fills size f) := Nat.decEq _ _

section Units

variable {size : UInt64} {f : Nat} (fills : Fills size f)
include fills

theorem Fills.pos : 0 < size.toNat := by
  rcases Nat.eq_zero_or_pos size.toNat with zero | pos
  · rw [Fills, zero, Nat.zero_mul] at fills
    cases fills
  · exact pos

theorem Fills.toNat_div : (1000000000 / size).toUInt32.toNat = f := by
  have quotient : (1000000000 / size).toNat = f := by
    rw [UInt64.toNat_div]
    change 10 ^ 9 / size.toNat = f
    rw [← fills, Nat.mul_div_cancel_left f fills.pos]
  have small : f ≤ 10 ^ 9 := Nat.le_of_dvd (by decide) (Dvd.intro_left _ fills)
  rw [UInt64.toNat_toUInt32, quotient, Nat.mod_eq_of_lt (by omega)]

/-- What is left over of a second is less than one in nanoseconds too, so that the product fits into 32 bits. -/
theorem Fills.nanos_ofUnits (v : UInt64) :
    (ofUnits size v).nanos = v.toNat % size.toNat * f ∧ v.toNat % size.toNat * f < 10 ^ 9 := by
  have left := Nat.mod_lt v.toNat fills.pos
  have positive : 0 < f := by
    rcases Nat.eq_zero_or_pos f with rfl | pos
    · cases fills
    · exact pos
  have part : v.toNat % size.toNat * f < 10 ^ 9 := by
    rw [← fills]
    exact Nat.mul_lt_mul_of_pos_right left positive
  have small : size.toNat ≤ 10 ^ 9 := Nat.le_of_dvd (by decide) (Dvd.intro _ fills)
  have rest : (v % size).toUInt32.toNat = v.toNat % size.toNat := by
    rw [UInt64.toNat_toUInt32, UInt64.toNat_mod, Nat.mod_eq_of_lt (by omega)]
  refine ⟨?_, part⟩
  change ((v % size).toUInt32 * (1000000000 / size).toUInt32).toNat = _
  rw [UInt32.toNat_mul, rest, fills.toNat_div, Nat.mod_eq_of_lt (by omega)]

theorem Fills.exact (v : UInt64) : (ofUnits size v).secs * 10 ^ 9 + (ofUnits size v).nanos = v.toNat * f := by
  have secs : (ofUnits size v).secs = v.toNat / size.toNat := UInt64.toNat_div v size
  calc
    (ofUnits size v).secs * 10 ^ 9 + (ofUnits size v).nanos
      = v.toNat / size.toNat * (size.toNat * f) + v.toNat % size.toNat * f := by
        rw [secs, (fills.nanos_ofUnits v).1, fills]
    _ = (size.toNat * (v.toNat / size.toNat) + v.toNat % size.toNat) * f := by ring
    _ = v.toNat * f := by rw [Nat.div_add_mod]

end Units

theorem perSecond?_cases (u : String) :
    (∃ size f, perSecond? u = some size ∧ (u, f) ∈ names ∧ Fills size f) ∨
      perSecond? u = none ∧ ∀ f, (u, f) ∉ names := by
  rw [perSecond?]
  split
  · next seconds => exact .inl ⟨1, 10 ^ 9, rfl, by simpa [names] using seconds, by decide⟩
  · next noSeconds =>
      split
      · next millis => exact .inl ⟨1000, 10 ^ 6, rfl, by simpa [names] using millis, by decide⟩
      · next noMillis =>
          split
          · next micros => exact .inl ⟨1000000, 10 ^ 3, rfl, by simpa [names] using micros, by decide⟩
          · next noMicros =>
              split
              · next nanos => exact .inl ⟨1000000000, 1, rfl, by simpa [names] using nanos, by decide⟩
              · next noNanos =>
                  refine .inr ⟨rfl, fun f mem => ?_⟩
                  simp_all [names]

theorem factor_unique {u : String} {f f' : Nat} (name : (u, f) ∈ names) (name' : (u, f') ∈ names) : f = f' := by
  have all : ∀ x ∈ names, ∀ y ∈ names, x.1 = y.1 → x.2 = y.2 := by decide
  exact all _ name _ name' rfl

theorem eq_of_exact {d d' : Duration} (part : d.nanos < 10 ^ 9) (part' : d'.nanos < 10 ^ 9)
    (same : d.secs * 10 ^ 9 + d.nanos = d'.secs * 10 ^ 9 + d'.nanos) : d = d' := by
  obtain ⟨secs, nanos⟩ := d
  obtain ⟨secs', nanos'⟩ := d'
  simp only at part part' same
  have whole : secs = secs' := by omega
  have rest : nanos = nanos' := by omega
  rw [whole, rest]

theorem Means.unique {u : String} {v : Nat} {r r' : Except ReadError Duration} (h : Means u v r) (h' : Means u v r') :
    r = r' := by
  cases h with
  | known name word part exact =>
      cases h' with
      | known name' word' part' exact' =>
          rw [← factor_unique name name'] at exact'
          rw [eq_of_exact part part' (exact.trans exact'.symm)]
      | unknown other => exact absurd name (other _)
  | unknown other =>
      cases h' with
      | known name => exact absurd name (other _)
      | unknown => rfl

/-- Two durations are the same exactly if they are so many nanoseconds. -/
theorem Means.eq_iff {u u' : String} {v v' : Nat} {d d' : Duration} (h : Means u v (.ok d)) (h' : Means u' v' (.ok d'))
    {f f' : Nat} (name : (u, f) ∈ names) (name' : (u', f') ∈ names) : d = d' ↔ v * f = v' * f' := by
  obtain ⟨named, -, part, exact⟩ := h
  obtain ⟨named', -, part', exact'⟩ := h'
  rw [factor_unique named name] at exact
  rw [factor_unique named' name'] at exact'
  constructor
  · rintro rfl
    exact exact.symm.trans exact'
  · intro same
    exact eq_of_exact part part' (exact.trans (same.trans exact'.symm))

def Gives (src : Source) (s : Setting) (u : String) (v : Nat) : Prop :=
  src.pair "Helper" "unit" "value" src.text src.natural s = .ok (u, v)

theorem means_read {src : Source} {s : Setting} {u : String} {v : Nat} (gives : Gives src s u v) (word : v < 2 ^ 64) :
    Means u v (read src s) := by
  rw [read, gives]
  simp only [bind, Except.bind]
  rcases perSecond?_cases u with ⟨size, f, known, name, fills⟩ | ⟨unknown, other⟩
  · have value : (UInt64.ofNat v).toNat = v := by
      rw [UInt64.toNat_ofNat', Nat.mod_eq_of_lt word]
    have exact := fills.exact (UInt64.ofNat v)
    have part := (fills.nanos_ofUnits (UInt64.ofNat v)).2
    rw [← (fills.nanos_ofUnits (UInt64.ofNat v)).1] at part
    rw [value] at exact
    rw [known]
    exact .known name (UInt64.toNat_lt _) part exact
  · rw [unknown]
    exact .unknown other

theorem read_eq_iff {src : Source} {s : Setting} {u : String} {v : Nat} (gives : Gives src s u v) (word : v < 2 ^ 64)
    {r : Except ReadError Duration} : read src s = r ↔ Means u v r := by
  constructor
  · rintro rfl
    exact means_read gives word
  · exact (means_read gives word).unique

inductive Written (u : String) (v : Nat) : Setting → Prop
  | unitFirst : Written u v (.written (.table [("unit", .text u), ("value", .integer v)]))
  | valueFirst : Written u v (.written (.table [("value", .integer v), ("unit", .text u)]))
  | list : Written u v (.written (.array [.text u, .integer v]))

theorem Written.gives {u : String} {v : Nat} {s : Setting} (h : Written u v s) {src : Source}
    (text : src.asText (.text u) = .ok u) (natural : src.asNatural (.integer v) = .ok v) : Gives src s u v := by
  have texts : src.text (.written (.text u)) = .ok u := by
    rw [Source.text, Source.take, text]
    rfl
  have naturals : src.natural (.written (.integer v)) = .ok v := by
    rw [Source.natural, Source.take, natural]
    rfl
  cases h with
  | unitFirst | valueFirst =>
      change Source.fields "unit" "value" src.text src.natural _ = _
      simp only [Source.fields, Source.optional, Setting.field?, Setting.entries, Setting.entries?, Option.getD_some,
        List.map_cons, List.map_nil, List.lookup_cons, String.reduceBEq, texts, naturals]
      rfl
  | list =>
      change src.twoItems "Helper" src.text src.natural [_, _] = _
      simp only [Source.twoItems, Source.item, texts, naturals]
      rfl

theorem strict_gives {u : String} {v : Nat} {s : Setting} (h : Written u v s) : Gives .strict s u v :=
  h.gives rfl (by simp [Source.strict])

theorem lenient_gives {u : String} {v : Nat} {s : Setting} (h : Written u v s) (file : Option String) :
    Gives (.lenient file) s u v :=
  h.gives rfl (by simp [Source.lenient])

/-- Whatever unit and value a document gives, the duration is exactly so long, or the unit is refused. Every unit and
value can be given, in a strict as in a lenient document, and durations in different units are the same exactly if they
are so many nanoseconds. -/
theorem durations_exact :
    (∀ (src : Source) (s : Setting) (u : String) (v : Nat), Gives src s u v → v < 2 ^ 64 →
      ∀ r, read src s = r ↔ Means u v r) ∧
    (∀ (u : String) (v : Nat) (s : Setting), Written u v s →
      Gives .strict s u v ∧ ∀ file, Gives (.lenient file) s u v) ∧
    ∀ (u u' : String) (v v' : Nat) (d d' : Duration), Means u v (.ok d) → Means u' v' (.ok d') →
      ∀ f f', (u, f) ∈ names → (u', f') ∈ names → (d = d' ↔ v * f = v' * f') :=
  ⟨fun _ _ _ _ gives word _ => read_eq_iff gives word, fun _ _ _ h => ⟨strict_gives h, lenient_gives h⟩,
    fun _ _ _ _ _ _ h h' _ _ => h.eq_iff h'⟩

theorem durations_exact_largest :
    let s : Setting := .written (.table [("unit", .text "ms"), ("value", .integer (2 ^ 64 - 1 : Nat))])
    Gives .strict s "ms" (2 ^ 64 - 1) ∧ read .strict s = .ok ⟨18446744073709551, 615000000⟩ ∧
      Means "s" 7 (.ok ⟨7, 0⟩) ∧ Means "millis" 7000 (.ok ⟨7, 0⟩) ∧
      ((⟨7, 0⟩ : Duration) = ⟨7, 0⟩ ↔ 7 * 10 ^ 9 = 7000 * 10 ^ 6) := by
  intro s
  have gives := (durations_exact.2.1 "ms" (2 ^ 64 - 1) s .unitFirst).1
  have largest : Means "ms" (2 ^ 64 - 1) (.ok ⟨18446744073709551, 615000000⟩) :=
    .known (f := 10 ^ 6) (by decide) (by decide) (by decide) (by decide)
  have secs : Means "s" 7 (.ok ⟨7, 0⟩) := .known (f := 10 ^ 9) (by decide) (by decide) (by decide) (by decide)
  have millis : Means "millis" 7000 (.ok ⟨7, 0⟩) := .known (f := 10 ^ 6) (by decide) (by decide) (by decide) (by decide)
  exact ⟨gives, (durations_exact.1 .strict s "ms" (2 ^ 64 - 1) gives (by decide) _).2 largest, secs, millis,
    durations_exact.2.2 _ _ _ _ _ _ secs millis _ _ (by decide) (by decide)⟩

example : perSecond? "Secs" = none ∧ perSecond? " s" = none := by decide

end NoiseLink.Duration
